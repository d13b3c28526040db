import FeatureLayout.Persistence.Call
import FeatureLayout.Proofs.Code.Arguments
import FeatureLayout.Proofs.Code.Comments
import FeatureLayout.Proofs.Pattern.Order

/-!
# The storage calls of a text

Every call is made of one match of the search pattern: it starts at the name of its function, after
nothing that could continue a longer name, and ends behind the bracket that closes its arguments.
The matches stand in a row, so the calls of a text start one behind the other, although a call may
lie inside of the arguments of another one.
-/

namespace FeatureLayout

open Text Code Pattern

namespace StorageCall

variable {interface : StorageInterface} {text masked : List Char} {file : String}

/-- The start of a call: one of an interface's functions, perhaps reached through `window.`, and a
parenthesis, not continuing a longer name. -/
structure Opens (interface : StorageInterface) (cursor : Cursor) (reach callee gap : List Char)
    (found : Match Part) : Prop where
  through : reach = [] ∨ reach = "window.".toList
  listed : interface.calls.keys = [] ∨ String.ofList callee ∈ interface.calls.keys
  named : found.textOf .callee = callee
  blank : ∀ c ∈ gap, isBlank c = true
  fresh : cursor.before.any (fun c => isNameChar c || c == '.') = false
  ahead : ∃ rest, cursor.ahead = reach ++ (callee ++ (gap ++ '(' :: rest))
  start : found.span.start = cursor.offset
  stop : found.span.stop = cursor.offset + (reach.length + callee.length + gap.length) + 1

/-- Every match of the pattern of calls is the start of a call. -/
theorem exists_opens {cursor : Cursor} {found : Match Part}
    (listed : found ∈ (pattern interface).matchesAt cursor) :
    ∃ reach callee gap, Opens interface cursor reach callee gap found := by
  obtain ⟨last, fits, rfl⟩ := List.mem_map.mp listed
  obtain ⟨first, fresh, fits⟩ := List.mem_flatMap.mp fits
  obtain ⟨reached, through, fits⟩ := List.mem_flatMap.mp fits
  obtain ⟨called, names, fits⟩ := List.mem_flatMap.mp fits
  obtain ⟨spaced, blanks, closes⟩ := List.mem_flatMap.mp fits
  obtain ⟨inner, chosen, rfl⟩ := List.mem_map.mp names
  obtain ⟨callee, among, leads⟩ := leads_of_mem_choice chosen
  obtain ⟨gap, blank, across, kept⟩ := exists_of_mem_run blanks
  obtain ⟨c, rest, ahead, opening, rfl⟩ := mem_one.mp closes
  obtain rfl := beq_iff_eq.mp opening
  have start : first = ⟨cursor, []⟩ ∧
      cursor.before.any (fun c => isNameChar c || c == '.') = false := by
    rw [successes_notAfter] at fresh
    split at fresh
    · exact absurd fresh List.not_mem_nil
    · next apart => exact ⟨List.mem_singleton.mp fresh, by simpa using apart⟩
  obtain ⟨rfl, apart⟩ := start
  obtain ⟨reach, known, towards⟩ : ∃ reach, (reach = [] ∨ reach = "window.".toList) ∧
      cursor.Leads reach reached.cursor := by
    rcases List.mem_append.mp through with window | nothing
    · exact ⟨_, Or.inr rfl, leads_of_mem_exactly window⟩
    · obtain rfl := List.mem_singleton.mp nothing
      exact ⟨[], Or.inl rfl, .refl _⟩
  have text := towards.text
  have inside := leads.text
  have further := across.text
  have place := towards.offset
  have after := leads.offset
  have behind := across.offset
  dsimp only at further behind
  have order : (callees interface).Perm interface.calls.keys := List.mergeSort_perm _ _
  refine ⟨reach, callee.toList, gap, known, ?_, ?_, blank, apart, ⟨rest, ?_⟩, rfl, ?_⟩
  · rw [String.ofList_toList]
    exact among.imp (fun none => (none.1 ▸ order).symm.eq_nil) order.mem_iff.mp
  · simp [Match.textOf, Match.captured?, kept, after, inside]
  · rw [text, inside, further, ahead]
  · dsimp only
    omega

/-- A call that is made of a match: it ends at its own closing bracket, and one that lists a storage
names it first. -/
structure Made (interface : StorageInterface) (text masked : List Char) (file : String)
    (found : Match Part) (listed : Arguments) (call : StorageCall) : Prop where
  scanned : scanArguments masked (found.span.stop - 1) = .ok listed
  span : call.span = ⟨found.span.start, listed.close + 1⟩
  file : call.file = file
  callee : call.callee = String.ofList (found.textOf .callee)
  operation : interface.calls.find? (String.ofList (found.textOf .callee)) = some call.operation
  storage : call.operation = .list → ∃ first rest, listed.spans = first :: rest ∧
    storageObject (first.of text) ∈ interface.identifiers

/-- A match that stands for a call makes it. -/
theorem exists_made {found : Match Part} {call : StorageCall}
    (stands : ofMatch interface text masked file found = .ok (some call)) :
    ∃ listed, Made interface text masked file found listed call := by
  unfold ofMatch at stands
  split at stands
  · cases stands
  · cases stands
  · next listed scanned =>
    dsimp only at stands
    split at stands
    · cases stands
    · next operation known =>
      split_ifs at stands with lists
      · subst lists
        split at stands
        · next first others arguments =>
          split_ifs at stands with storage
          · obtain rfl := Option.some.inj (Except.ok.inj stands)
            refine ⟨listed, scanned, rfl, rfl, rfl, known, fun _ => ?_⟩
            cases spans : listed.spans with
            | nil => rw [spans] at arguments; cases arguments
            | cons span rest =>
              rw [spans] at arguments
              obtain ⟨rfl, -⟩ := List.cons.inj arguments
              exact ⟨span, rest, rfl, by simpa using storage⟩
          · cases Except.ok.inj stands
        · cases Except.ok.inj stands
      · obtain rfl := Option.some.inj (Except.ok.inj stands)
        exact ⟨listed, scanned, rfl, rfl, rfl, known, fun same => absurd same lists⟩

/-- The calls of a text are made of the matches of the search, some of which make none. -/
theorem exists_stands_of_allIn {calls : List StorageCall}
    (found : allIn interface text file = .ok calls) :
    ∃ masked results, maskComments text = .ok masked ∧
      List.Forall₂ (fun matched result => ofMatch interface text masked file matched = .ok result)
        ((pattern interface).search masked) results ∧ calls = results.filterMap id := by
  unfold allIn at found
  split at found
  · cases found
  · next masked read =>
    obtain ⟨results, stand, rfl⟩ := map_eq_ok.mp found
    exact ⟨masked, results, read, mapM_eq_ok.mp stand, rfl⟩

/-- The calls that matches make start where these matches do. -/
theorem starts_sublist {matched : List (Match Part)} {results : List (Option StorageCall)}
    (stand : List.Forall₂
      (fun found result => ofMatch interface text masked file found = .ok result)
      matched results) :
    ((results.filterMap id).map (·.span.start)).Sublist (matched.map (·.span.start)) := by
  induction stand with
  | nil => exact .slnil
  | @cons found result _ _ head tail inductionHypothesis =>
    cases result with
    | none => exact inductionHypothesis.cons _
    | some call =>
      obtain ⟨listed, made⟩ := exists_made head
      have start : call.span.start = found.span.start := by rw [made.span]
      rw [List.map_cons, ← start]
      exact inductionHypothesis.cons_cons call.span.start

/-- Every call of a text is made of a match of the search. -/
theorem exists_matched_of_mem {calls : List StorageCall}
    (found : allIn interface text file = .ok calls) {call : StorageCall} (listed : call ∈ calls) :
    ∃ masked matched arguments, maskComments text = .ok masked ∧
      matched ∈ (pattern interface).search masked ∧
      Made interface text masked file matched arguments call := by
  obtain ⟨masked, results, read, stand, rfl⟩ := exists_stands_of_allIn found
  obtain ⟨result, among, rfl⟩ := List.mem_filterMap.mp listed
  obtain ⟨matched, there, stands⟩ := exists_of_rel_mem stand.flip among
  obtain ⟨arguments, made⟩ := exists_made stands
  exact ⟨masked, matched, arguments, read, there, made⟩

/-- A match of the pattern of calls is not empty. -/
theorem start_lt_stop_of_mem_search {matched : Match Part}
    (listed : matched ∈ (pattern interface).search masked) :
    matched.span.start < matched.span.stop := by
  obtain ⟨front, cursor, -, starts⟩ := exists_place_of_mem_search listed
  obtain ⟨reach, callee, gap, opens⟩ := exists_opens starts
  have start := opens.start
  have stop := opens.stop
  omega

/-- The calls of a text start one behind the other. -/
theorem starts_increasing {calls : List StorageCall}
    (found : allIn interface text file = .ok calls) :
    (calls.map (·.span.start)).Pairwise (· < ·) := by
  obtain ⟨masked, results, -, stand, rfl⟩ := exists_stands_of_allIn found
  refine List.Pairwise.sublist (starts_sublist stand) (List.pairwise_map.mpr ?_)
  refine (search_row (pattern interface) masked).imp_of_mem fun first _ behind => ?_
  exact Nat.lt_of_lt_of_le (start_lt_stop_of_mem_search first) behind

/-- A call that stands in a text of a file. -/
structure StandsIn (text : List Char) (file : String) (call : StorageCall) : Prop where
  file : call.file = file
  forward : call.span.start < call.span.stop
  ends : call.span.stop ≤ text.length

/-- The calls that are found in a text stand in it. -/
theorem standsIn_of_mem {calls : List StorageCall}
    (found : allIn interface text file = .ok calls) {call : StorageCall} (listed : call ∈ calls) :
    StandsIn text file call := by
  obtain ⟨masked, matched, arguments, read, there, made⟩ := exists_matched_of_mem found listed
  obtain ⟨c, inner, d, after, whole, -, close⟩ := exists_close_of_scanArguments made.scanned
  have forward := start_lt_stop_of_mem_search there
  have length : masked.length = text.length := (CommentLayer.blanked_of_mask read).length_eq
  have inside : masked.length - (matched.span.stop - 1) = inner.length + after.length + 2 := by
    rw [← List.length_drop, whole]
    simp only [List.cons_append, List.length_cons, List.length_append]
    omega
  have start : call.span.start = matched.span.start := by rw [made.span]
  have stop : call.span.stop = arguments.close + 1 := by rw [made.span]
  exact ⟨made.file, by omega, by omega⟩

end StorageCall

end FeatureLayout
