import FeatureLayout.Proofs.Code.Brackets
import FeatureLayout.Proofs.Pattern.Unnested
import FeatureLayout.Proofs.Persistence.Call
import Mathlib

/-!
# Where storage calls end

A storage call reaches from the name of its function to the bracket that closes its parenthesis. The
scan that looks for this bracket counts brackets and does not tell their kinds apart. It finds the
matching parenthesis when there is one, but it also ends at a bracket of another kind, and then a
replacement takes the place of more than the call: a bracket in a regular expression is enough.
-/

namespace FeatureLayout

open Text Code Pattern

namespace StorageCall

variable {interface : StorageInterface} {text masked : List Char} {file : String}

/-- A call opens at a parenthesis: its function, perhaps reached through `window.`, and nothing but
blanks in front of it. -/
structure OpensAt (masked : List Char) (call : StorageCall) (start : Nat) : Prop where
  parenthesis : masked[start]? = some '('
  named : ∃ reach gap, slice masked call.span.start start = reach ++ (call.callee.toList ++ gap) ∧
    (reach = [] ∨ reach = "window.".toList) ∧ ∀ c ∈ gap, isBlank c = true

/-- A match of the search ends with a parenthesis, behind a name and blanks. -/
theorem exists_name_of_mem_search {found : Match Part}
    (listed : found ∈ (pattern interface).search masked) :
    masked[found.span.stop - 1]? = some '(' ∧
      ∃ reach gap, slice masked found.span.start (found.span.stop - 1) =
          reach ++ (found.textOf .callee ++ gap) ∧
        (reach = [] ∨ reach = "window.".toList) ∧ ∀ c ∈ gap, isBlank c = true := by
  obtain ⟨front, cursor, leads, fits⟩ := exists_place_of_mem_search listed
  obtain ⟨same, -⟩ := leads.eq_inText
  obtain ⟨reach, callee, gap, opens⟩ := exists_opens fits
  obtain ⟨rest, ahead⟩ := opens.ahead
  have start := opens.start
  have place : found.span.stop - 1 = found.span.start + (reach ++ (callee ++ gap)).length := by
    have stop := opens.stop
    simp only [List.length_append]
    omega
  have whole : masked.drop found.span.start = (reach ++ (callee ++ gap)) ++ '(' :: rest := by
    rw [start]
    rw [same] at ahead
    simpa [Cursor.inText] using ahead
  refine ⟨?_, reach, gap, ?_, opens.through, opens.blank⟩
  · rw [place, ← List.getElem?_drop, whole, List.getElem?_append_right (Nat.le_refl _),
      Nat.sub_self]
    rfl
  · rw [opens.named, slice_eq_take, whole, place, Nat.add_sub_cancel_left, List.take_left]

/-- A call opens at its parenthesis and ends with the bracket that closes it. -/
theorem exists_closesAt_of_mem {calls : List StorageCall} (read : maskComments text = .ok masked)
    (found : allIn interface text file = .ok calls) {call : StorageCall} (listed : call ∈ calls) :
    ∃ start, OpensAt masked call start ∧ ClosesAt masked start (call.span.stop - 1) := by
  obtain ⟨shown, matched, arguments, blanked, there, made⟩ := exists_matched_of_mem found listed
  obtain rfl := Except.ok.inj (read.symm.trans blanked)
  obtain ⟨parenthesis, named⟩ := exists_name_of_mem_search there
  refine ⟨matched.span.stop - 1, ⟨parenthesis, ?_⟩, ?_⟩
  · rwa [made.span, made.callee, String.toList_ofList]
  · rw [made.span, ← exists_scanArguments_iff parenthesis]
    exact ⟨arguments.spans, made.scanned⟩

/-- The arguments of a call are listed exactly up to the first closing bracket, of whatever kind, in
front of which as many brackets have been closed as opened. If the parenthesis of the call has a
matching one, this is where the arguments end, and the bracket where they end is the matching
parenthesis exactly when it is a parenthesis and all brackets in front of it nest by their kinds.
When no bracket closes the call, an open template is reported if the text ends in one, and otherwise
that the call is unbalanced. Each storage call that is found reaches from its name to the bracket
that closes its own parenthesis in this sense. -/
theorem closed_exact (masked : List Char) :
    (∀ start, masked[start]? = some '(' →
      (∀ close, (∃ spans, scanArguments masked start = .ok ⟨spans, close⟩) ↔
        ClosesAt masked start close) ∧
      (∀ close, Matching masked start close ↔
        (∃ spans, scanArguments masked start = .ok ⟨spans, close⟩) ∧ masked[close]? = some ')' ∧
          Nest (bracketsBetween masked start close)) ∧
      ∀ problem, scanArguments masked start = .error problem ↔
        (∀ close, ¬ ClosesAt masked start close) ∧
          problem = if (Reading.outside.behind (masked.drop start)).opensTemplate
            then .openTemplate else .unbalanced start) ∧
    ∀ (interface : StorageInterface) (text : List Char) (file : String)
      (calls : List StorageCall), maskComments text = .ok masked →
        allIn interface text file = .ok calls → ∀ call ∈ calls,
          ∃ start, OpensAt masked call start ∧ ClosesAt masked start (call.span.stop - 1) := by
  refine ⟨fun start opens => ⟨fun close => exists_scanArguments_iff opens, fun close => ?matched,
    fun problem => scanArguments_eq_error_iff opens⟩, ?calls⟩
  case matched => rw [exists_scanArguments_iff opens, matching_iff opens]
  case calls =>
    intro interface text file calls read found call listed
    exact exists_closesAt_of_mem read found listed

section Saved

/-- An interface with a single function. -/
def savingInterface : StorageInterface :=
  { StorageInterface.usual with calls := Ledger.ofList [("localStorage.setItem", .write)] }

/-- A call with brackets of two kinds and one in a literal. -/
def savedText : String := "localStorage.setItem('k', [')', f(a)])"

/-- The call. -/
def savedCall : StorageCall where
  operation := .write
  resource := .text "k"
  file := "a.ts"
  line := 1
  span := ⟨0, 38⟩
  arguments := ["[')', f(a)]"]
  callee := "localStorage.setItem"

theorem closed_exact_saved : savedText.toList[20]? = some '(' ∧
    maskComments savedText.toList = .ok savedText.toList ∧
    allIn savingInterface savedText.toList "a.ts" = .ok [savedCall] ∧
    Matching savedText.toList 20 37 ∧
    ∃ start, OpensAt savedText.toList savedCall start ∧ ClosesAt savedText.toList start 37 := by
  have masked : maskComments savedText.toList = .ok savedText.toList := by cbv
  have found : allIn savingInterface savedText.toList "a.ts" = .ok [savedCall] := by cbv
  have nests : Nest (bracketsBetween savedText.toList 20 37) :=
    .group .square (.group .round .nil .nil) .nil
  have scanned : scanArguments savedText.toList 20 = .ok ⟨[⟨21, 24⟩, ⟨26, 37⟩], 37⟩ := by cbv
  obtain ⟨scans, calls⟩ := closed_exact savedText.toList
  refine ⟨rfl, masked, found, ?_, ?_⟩
  · exact ((scans 20 rfl).2.1 37).mpr ⟨⟨_, scanned⟩, rfl, nests⟩
  · exact calls savingInterface savedText.toList "a.ts" [savedCall] masked found savedCall (by simp)

/-- A function that stores a text without its opening parentheses. -/
def savingText : String :=
  "function save(s) \x7b localStorage.setItem('k', s.replace(/[(]/g, '')); \x7d"

/-- What is found of the call in it. -/
def savingCall : StorageCall where
  operation := .write
  resource := .text "k"
  file := "a.ts"
  line := 1
  span := ⟨19, 70⟩
  arguments := ["s.replace(/[(]/g, ''));"]
  callee := "localStorage.setItem"

/-- A parenthesis in a regular expression makes a call end with the brace that closes the function
around it, although no parenthesis matches its own. -/
theorem closed_beyond :
    savingText.toList[39]? = some '(' ∧ savingText.toList[69]? = some '}' ∧
      scanArguments savingText.toList 39 = .ok ⟨[⟨40, 43⟩, ⟨45, 68⟩], 69⟩ ∧
      (∀ close, ¬ Matching savingText.toList 39 close) ∧
      maskComments savingText.toList = .ok savingText.toList ∧
      allIn savingInterface savingText.toList "a.ts" = .ok [savingCall] := by
  have opens : savingText.toList[39]? = some '(' := rfl
  have closing : savingText.toList[69]? = some '}' := rfl
  have scanned : scanArguments savingText.toList 39 = .ok ⟨[⟨40, 43⟩, ⟨45, 68⟩], 69⟩ := by cbv
  refine ⟨opens, closing, scanned, fun close matching => ?_, by cbv, by cbv⟩
  obtain ⟨spans, same⟩ := (exists_scanArguments_iff opens).mpr matching.closesAt
  obtain ⟨-, rfl⟩ : spans = [⟨40, 43⟩, ⟨45, 68⟩] ∧ close = 69 := by
    simpa using same.symm.trans scanned
  have parenthesis := matching.closing
  rw [closing] at parenthesis
  cases parenthesis

end Saved

end StorageCall

end FeatureLayout
