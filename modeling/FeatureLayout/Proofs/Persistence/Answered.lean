import FeatureLayout.Proofs.Code.Inserted
import FeatureLayout.Proofs.Persistence.Closed
import FeatureLayout.Scope.Config

/-!
# When the storage calls of a text can be listed

A call that no bracket closes is passed over, unless its arguments, read from its parenthesis on, end
inside of a template. A text whose comments can be blanked ends outside of templates, so this happens
only to a match that starts inside of a literal, where the closing backtick opens a template. An
interface without functions lets the search find parentheses without a name, and such a match fails
when a bracket closes it.
-/

namespace FeatureLayout

open Text Code Pattern

namespace StorageCall

variable {interface : StorageInterface} {text masked : List Char} {file : String}
  {found : Match Part}

/-- No bracket closes the parenthesis of a match. -/
def Unclosed (masked : List Char) (found : Match Part) : Prop :=
  ∀ close, ¬ ClosesAt masked (found.span.stop - 1) close

/-- What follows the parenthesis of a match ends inside of a template. -/
def LeavesOpen (masked : List Char) (found : Match Part) : Prop :=
  (Reading.outside.behind (masked.drop (found.span.stop - 1))).opensTemplate = true

/-- A match that the search for calls can answer. -/
structure Answered (interface : StorageInterface) (masked : List Char) (found : Match Part) :
    Prop where
  /-- The function of a call that is closed is known. -/
  known : ¬ Unclosed masked found → interface.calls.keys ≠ []
  /-- A call that is not closed leaves no template open. -/
  scanned : Unclosed masked found → ¬ LeavesOpen masked found

section Match

variable (listed : found ∈ (pattern interface).search masked)

include listed

/-- The search finds functions of the interface, or anything when there are none. -/
theorem function_of_mem_search :
    interface.calls.keys = [] ∨ String.ofList (found.textOf .callee) ∈ interface.calls.keys := by
  obtain ⟨front, cursor, -, fits⟩ := exists_place_of_mem_search listed
  obtain ⟨reach, callee, gap, opens⟩ := exists_opens fits
  rw [opens.named]
  exact opens.listed

/-- What becomes of a match that no bracket closes. -/
theorem ofMatch_of_unclosed (text : List Char) (file : String) (unclosed : Unclosed masked found) :
    (LeavesOpen masked found → ofMatch interface text masked file found = .error .openArgument) ∧
      (¬ LeavesOpen masked found → ofMatch interface text masked file found = .ok none) := by
  obtain ⟨parenthesis, -⟩ := exists_name_of_mem_search listed
  constructor
  · intro leaves
    have failed := (scanArguments_eq_error_iff parenthesis).mpr ⟨unclosed, (if_pos leaves).symm⟩
    rw [ofMatch, failed]
  · intro ends
    have failed := (scanArguments_eq_error_iff parenthesis).mpr ⟨unclosed, (if_neg ends).symm⟩
    rw [ofMatch, failed]

/-- A match that a bracket closes, with a function that the interface has, is answered, and it makes
a call unless it has to list a storage object. -/
theorem ofMatch_of_closesAt (text : List Char) (file : String) {close : Nat}
    (closes : ClosesAt masked (found.span.stop - 1) close) :
    (interface.calls.keys = [] →
      ofMatch interface text masked file found = .error .unknownFunction) ∧
    (interface.calls.keys ≠ [] → ∃ operation result,
      interface.calls.find? (String.ofList (found.textOf .callee)) = some operation ∧
      ofMatch interface text masked file found = .ok result ∧
      (operation ≠ .list → ∃ call, result = some call ∧ call.operation = operation ∧
        call.span = ⟨found.span.start, close + 1⟩)) := by
  obtain ⟨parenthesis, -⟩ := exists_name_of_mem_search listed
  obtain ⟨spans, scanned⟩ := (exists_scanArguments_iff parenthesis).mpr closes
  constructor
  · intro none
    have absent : interface.calls.find? (String.ofList (found.textOf .callee)) = Option.none := by
      rw [Ledger.find?_eq_none_iff, none]
      exact List.not_mem_nil
    simp only [ofMatch, scanned, absent]
  · intro some
    have among := (function_of_mem_search listed).resolve_left some
    obtain ⟨operation, known⟩ := (Ledger.mem_keys_iff _ _).mp among
    by_cases lists : operation = .list
    · subst lists
      simp only [ofMatch, scanned, known, if_true]
      cases spans.map fun span => span.of text with
      | nil => exact ⟨.list, _, rfl, rfl, fun other => absurd rfl other⟩
      | cons first rest =>
        dsimp only
        split
        · exact ⟨.list, _, rfl, rfl, fun other => absurd rfl other⟩
        · exact ⟨.list, _, rfl, rfl, fun other => absurd rfl other⟩
    · simp only [ofMatch, scanned, known, if_neg lists]
      exact ⟨operation, _, rfl, rfl, fun _ => ⟨_, rfl, rfl, rfl⟩⟩

/-- A match is answered, and there are two reasons why one is not. -/
theorem ofMatch_cases (text : List Char) (file : String) :
    (Answered interface masked found ∧
      ∃ result, ofMatch interface text masked file found = .ok result) ∨
    (ofMatch interface text masked file found = .error .openArgument ∧
      Unclosed masked found ∧ LeavesOpen masked found) ∨
    (ofMatch interface text masked file found = .error .unknownFunction ∧
      ¬ Unclosed masked found ∧ interface.calls.keys = []) := by
  by_cases unclosed : Unclosed masked found
  · obtain ⟨fails, passes⟩ := ofMatch_of_unclosed listed text file unclosed
    by_cases leaves : LeavesOpen masked found
    · exact Or.inr (Or.inl ⟨fails leaves, unclosed, leaves⟩)
    · exact Or.inl ⟨⟨absurd unclosed, fun _ => leaves⟩, _, passes leaves⟩
  · obtain ⟨close, closes⟩ := not_forall_not.mp unclosed
    obtain ⟨fails, passes⟩ := ofMatch_of_closesAt listed text file closes
    by_cases none : interface.calls.keys = []
    · exact Or.inr (Or.inr ⟨fails none, unclosed, none⟩)
    · obtain ⟨operation, result, -, answer, -⟩ := passes none
      exact Or.inl ⟨⟨fun _ => none, fun closed => absurd closed unclosed⟩, result, answer⟩

theorem exists_ofMatch_iff :
    (∃ result, ofMatch interface text masked file found = .ok result) ↔
      Answered interface masked found := by
  rcases ofMatch_cases listed text file with
    ⟨answered, answer⟩ | ⟨fails, unclosed, leaves⟩ | ⟨fails, closed, none⟩
  · exact iff_of_true answer answered
  · refine iff_of_false ?_ fun answered => answered.scanned unclosed leaves
    rintro ⟨result, answer⟩
    cases fails.symm.trans answer
  · refine iff_of_false ?_ fun answered => answered.known closed none
    rintro ⟨result, answer⟩
    cases fails.symm.trans answer

end Match

/-- The matches of the search start at different places. -/
theorem eq_of_start_eq {other : Match Part} (listed : found ∈ (pattern interface).search masked)
    (also : other ∈ (pattern interface).search masked)
    (same : found.span.start = other.span.start) : found = other := by
  have apart : (((pattern interface).search masked).map (·.span.start)).Nodup := by
    refine List.pairwise_map.mpr ((search_row _ masked).imp_of_mem fun first _ behind => ?_)
    exact Nat.ne_of_lt (Nat.lt_of_lt_of_le (start_lt_stop_of_mem_search first) behind)
  exact List.inj_on_of_nodup_map apart listed also same

/-- The calls of a text whose comments can be blanked can be listed when every match is answered. -/
theorem exists_allIn_iff (read : maskComments text = .ok masked) :
    (∃ calls, allIn interface text file = .ok calls) ↔
      ∀ found ∈ (pattern interface).search masked, Answered interface masked found := by
  simp only [allIn, read, exists_map_eq_ok_iff, exists_mapM_eq_ok_iff]
  exact forall₂_congr fun found listed => exists_ofMatch_iff listed

/-- Why the calls of a text whose comments can be blanked cannot be listed. -/
theorem exists_of_allIn_eq_error {problem : SearchProblem} (read : maskComments text = .ok masked)
    (failed : allIn interface text file = .error problem) :
    ∃ found ∈ (pattern interface).search masked,
      (problem = .openArgument ∧ Unclosed masked found ∧ LeavesOpen masked found) ∨
      (problem = .unknownFunction ∧ ¬ Unclosed masked found ∧ interface.calls.keys = []) := by
  simp only [allIn, read] at failed
  obtain ⟨found, listed, refused⟩ := exists_of_mapM_eq_error (eq_error_of_map failed)
  refine ⟨found, listed, ?_⟩
  rcases ofMatch_cases listed text file with ⟨-, result, answer⟩ | ⟨fails, why⟩ | ⟨fails, why⟩
  · cases answer.symm.trans refused
  · exact Or.inl ⟨Except.error.inj (refused.symm.trans fails), why⟩
  · exact Or.inr ⟨Except.error.inj (refused.symm.trans fails), why⟩

/-- A match whose parenthesis stands outside of literals leaves no template open. -/
theorem not_leavesOpen_of_outside (read : maskComments text = .ok masked)
    (outside : Reading.outside.behind (masked.take (found.span.stop - 1)) = .outside) :
    ¬ LeavesOpen masked found := by
  have ends := CommentLayer.opensTemplate_behind_of_mask read
  have whole : Reading.outside.behind masked =
      Reading.outside.behind (masked.drop (found.span.stop - 1)) := by
    conv_lhs => rw [← List.take_append_drop (found.span.stop - 1) masked]
    rw [Reading.behind_append, outside]
  have start : CommentLayer.reading (.text .outside) = .outside := rfl
  rw [start, whole] at ends
  rw [LeavesOpen, ends]
  exact Bool.false_ne_true

/-- A match makes a call at its own place, or none. -/
theorem answer_of_mem {calls : List StorageCall} (read : maskComments text = .ok masked)
    (all : allIn interface text file = .ok calls)
    (listed : found ∈ (pattern interface).search masked) :
    (Unclosed masked found → ∀ call ∈ calls, call.span.start ≠ found.span.start) ∧
    ∀ close, ClosesAt masked (found.span.stop - 1) close → ∃ operation,
      interface.calls.find? (String.ofList (found.textOf .callee)) = some operation ∧
      (operation ≠ .list → ∃ call ∈ calls, call.operation = operation ∧
        call.span = ⟨found.span.start, close + 1⟩) := by
  constructor
  · intro unclosed call among same
    obtain ⟨shown, matched, arguments, blanked, there, made⟩ := exists_matched_of_mem all among
    obtain rfl := Except.ok.inj (read.symm.trans blanked)
    have start : call.span.start = matched.span.start := by rw [made.span]
    obtain rfl := eq_of_start_eq there listed (start.symm.trans same)
    obtain ⟨parenthesis, -⟩ := exists_name_of_mem_search there
    exact unclosed _ ((exists_scanArguments_iff parenthesis).mp ⟨_, made.scanned⟩)
  · intro close closes
    obtain ⟨shown, results, blanked, stand, rfl⟩ := exists_stands_of_allIn all
    obtain rfl := Except.ok.inj (read.symm.trans blanked)
    obtain ⟨result, among, answer⟩ := exists_of_rel_mem stand listed
    have answered := (exists_ofMatch_iff listed).mp ⟨result, answer⟩
    have some := answered.known fun unclosed => unclosed close closes
    obtain ⟨operation, other, known, also, makes⟩ :=
      (ofMatch_of_closesAt listed text file closes).2 some
    obtain rfl := Except.ok.inj (answer.symm.trans also)
    refine ⟨operation, known, fun lists => ?_⟩
    obtain ⟨call, rfl, does, span⟩ := makes lists
    exact ⟨call, List.mem_filterMap.mpr ⟨_, among, rfl⟩, does, span⟩

/-- The storage calls of a text whose comments can be blanked are listed exactly when every match of
the search can be answered: one that no bracket closes must not leave a template open, and one that
a bracket closes must belong to an interface that has functions. Otherwise the problem is that of
such a match. Matches whose parentheses are outside of literals leave no template open.

When the calls are listed, a match that no bracket closes makes none, and every other one that does
not list a storage makes the call that ends with its bracket. Nothing is listed for an interface
without functions. -/
theorem answers_exact (interface : StorageInterface) (file : String)
    (read : maskComments text = .ok masked) :
    ((∃ calls, allIn interface text file = .ok calls) ↔
      ∀ found ∈ (pattern interface).search masked, Answered interface masked found) ∧
    (∀ problem, allIn interface text file = .error problem →
      ∃ found ∈ (pattern interface).search masked,
        (problem = .openArgument ∧ Unclosed masked found ∧ LeavesOpen masked found) ∨
        (problem = .unknownFunction ∧ ¬ Unclosed masked found ∧ interface.calls.keys = [])) ∧
    (∀ found ∈ (pattern interface).search masked,
      Reading.outside.behind (masked.take (found.span.stop - 1)) = .outside →
        ¬ LeavesOpen masked found) ∧
    ∀ calls, allIn interface text file = .ok calls →
      (interface.calls.keys = [] → calls = []) ∧
      ∀ found ∈ (pattern interface).search masked,
        (Unclosed masked found → ∀ call ∈ calls, call.span.start ≠ found.span.start) ∧
        ∀ close, ClosesAt masked (found.span.stop - 1) close → ∃ operation,
          interface.calls.find? (String.ofList (found.textOf .callee)) = some operation ∧
          (operation ≠ .list → ∃ call ∈ calls, call.operation = operation ∧
            call.span = ⟨found.span.start, close + 1⟩) := by
  refine ⟨exists_allIn_iff read, fun problem failed => exists_of_allIn_eq_error read failed,
    fun found _ outside => not_leavesOpen_of_outside read outside,
    fun calls all => ⟨fun none => ?_, fun found listed => answer_of_mem read all listed⟩⟩
  refine List.eq_nil_iff_forall_not_mem.mpr fun call among => ?_
  obtain ⟨_, matched, _, _, _, made⟩ := exists_matched_of_mem all among
  have known := (Ledger.mem_keys_iff _ _).mpr ⟨_, made.operation⟩
  rw [none] at known
  exact List.not_mem_nil known

section Cut

/-- A text that ends in the arguments of its second call. -/
def cutText : String := "localStorage.setItem('k'); localStorage.setItem('l', "

/-- The call in it that is closed. -/
def cutCall : StorageCall where
  operation := .write
  resource := .text "k"
  file := "a.ts"
  line := 1
  span := ⟨0, 25⟩
  arguments := []
  callee := "localStorage.setItem"

theorem answers_exact_cut : maskComments cutText.toList = .ok cutText.toList ∧
    allIn savingInterface cutText.toList "a.ts" = .ok [cutCall] ∧
    ∀ found ∈ (pattern savingInterface).search cutText.toList,
      Answered savingInterface cutText.toList found := by
  have read : maskComments cutText.toList = .ok cutText.toList := by cbv
  have all : allIn savingInterface cutText.toList "a.ts" = .ok [cutCall] := by cbv
  exact ⟨read, all, (answers_exact savingInterface "a.ts" read).1.mp ⟨_, all⟩⟩

/-- The settings of an interface with a single function. -/
def readingSettings : Value :=
  .table [("calls", .table [("localStorage.getItem", .text "read")])]

/-- The settings of an interface without functions. -/
def silentSettings : Value := .table [("calls", .table [])]

/-- A message that ends, in its literal, with a call and a backtick. -/
def hintText : String := "const HINT = \"call localStorage.getItem(`\";\n"

/-- The calls of a text without comments cannot be listed when a backtick follows a parenthesis in a
literal, or when the interface has no functions and a parenthesis is closed. -/
theorem answers_not_all :
    (∃ interface, Scope.storageOf readingSettings = .ok interface ∧
      maskComments hintText.toList = .ok hintText.toList ∧
      allIn interface hintText.toList "a.ts" = .error .openArgument) ∧
    ∃ interface, Scope.storageOf silentSettings = .ok interface ∧
      maskComments "(f)();".toList = .ok "(f)();".toList ∧
      allIn interface "(f)();".toList "a.ts" = .error .unknownFunction := by
  refine ⟨⟨⟨Ledger.ofList [("localStorage.getItem", .read)], .text StorageInterface.usualTemplate,
    .text StorageInterface.usualImport, .null⟩, rfl, by cbv, by cbv⟩,
    ⟨.empty, .text StorageInterface.usualTemplate, .text StorageInterface.usualImport, .null⟩,
    rfl, by cbv, by cbv⟩

end Cut

end StorageCall

end FeatureLayout
