import FeatureLayout.Proofs.Edit
import Mathlib

/-!
# What is left of a text when edits are applied

Edits are refused exactly when one of them, in the order of their places, starts in front of the end
of an earlier one, whether or not the two are neighbours: only neighbours are compared, but starts
do not decrease, so the last edit in front of such a start already reaches over it. Edits that are
not refused leave everything between them as it was. A character that no edit covers is found again,
moved by what the edits in front of it add and take away.
-/

namespace FeatureLayout

open Text

namespace Edit

/-- An edit covers a place. An insertion covers none. -/
def Covers (edit : Edit) (place : Nat) : Prop :=
  edit.span.start ≤ place ∧ place < edit.span.stop

/-- The edits that end in front of a place. -/
def before (edits : List Edit) (place : Nat) : List Edit :=
  edits.filter fun edit => edit.span.stop ≤ place

/-- How many characters some edits put in. -/
def added (edits : List Edit) : Nat := (edits.map (·.replacement.toList.length)).sum

/-- How many characters some edits take away. -/
def removed (edits : List Edit) : Nat :=
  (edits.map fun edit => edit.span.stop - edit.span.start).sum

/-- The edit that puts back what stands in the place of another one. -/
def restoring (text : List Char) (edit : Edit) : Edit :=
  ⟨edit.span, String.ofList (edit.span.of text)⟩

variable {text : List Char} {edits : List Edit}

/-- Edits do not stand in a row exactly when one starts in front of the end of an earlier one. -/
theorem not_inRow_iff : ¬ InRow edits ↔
    ∃ first second, [first, second].Sublist edits ∧ second.span.start < first.span.stop := by
  rw [InRow, List.pairwise_iff_forall_sublist]
  push Not
  exact Iff.rfl

/-- Sorted edits overlap nowhere exactly when they stand in a row. -/
theorem overlap?_ordered_eq_none_iff : overlap? (ordered edits) = none ↔ InRow (ordered edits) :=
  ⟨inRow_of_overlap? (ordered_pairwise edits), InRow.overlap?_eq_none⟩

/-- Edits are refused exactly when they do not stand in a row. -/
theorem exists_applyAll_eq_error_iff :
    (∃ overlap, applyAll edits text = .error overlap) ↔ ¬ InRow (ordered edits) := by
  rw [← overlap?_ordered_eq_none_iff, applyAll]
  cases overlap? (ordered edits) with
  | none => simp
  | some overlap => simp

/-- Edits in a row that lie in a text are applied. -/
theorem applyAll_eq_ok (within : ∀ edit ∈ edits, edit.Within text)
    (row : InRow (ordered edits)) :
    applyAll edits text = .ok (spliced text 0 (ordered edits)) := by
  have all : ∀ edit ∈ ordered edits, edit.Within text := fun edit listed =>
    within edit ((ordered_perm edits).mem_iff.mp listed)
  rw [applyAll, row.overlap?_eq_none]
  exact congrArg Except.ok (foldr_apply row all (Nat.zero_le _) fun _ _ => Nat.zero_le _).2

/-- What is between edits in a row, with what is in their places, is the text. -/
theorem spliced_restoring (row : InRow edits) (within : ∀ edit ∈ edits, edit.Within text)
    {offset : Nat} (behind : ∀ edit ∈ edits, offset ≤ edit.span.start) :
    spliced text offset (edits.map (restoring text)) = text.drop offset := by
  induction edits generalizing offset with
  | nil => rfl
  | cons edit rest inductionHypothesis =>
    obtain ⟨later, tail⟩ := List.pairwise_cons.mp row
    have others := inductionHypothesis tail
      (fun other listed => within other (List.mem_cons_of_mem edit listed)) later
    have forward := (within edit List.mem_cons_self).forward
    rw [List.map_cons, spliced, restoring, others, String.toList_ofList, Span.of,
      List.append_assoc, slice_append_drop forward,
      slice_append_drop (behind edit List.mem_cons_self)]

section Before

variable {edit : Edit} {place : Nat}

theorem before_cons_of_le (passed : edit.span.stop ≤ place) (rest : List Edit) :
    before (edit :: rest) place = edit :: before rest place :=
  List.filter_cons_of_pos (by simpa using passed)

/-- No edit ends in front of a place when all of them start behind it. -/
theorem before_eq_nil (forward : ∀ edit ∈ edits, edit.span.start ≤ edit.span.stop)
    (ahead : ∀ edit ∈ edits, place < edit.span.start) : before edits place = [] := by
  refine List.filter_eq_nil_iff.mpr fun edit listed => ?_
  have starts := ahead edit listed
  have ends := forward edit listed
  simp only [decide_eq_true_eq]
  omega

end Before

/-- A character between edits in a row is found behind as many characters as there were in front of
it, and those that the edits in front of it add, less those that they take away. -/
theorem getElem?_spliced (row : InRow edits) (within : ∀ edit ∈ edits, edit.Within text)
    {offset place : Nat} (behind : ∀ edit ∈ edits, offset ≤ edit.span.start)
    (start : offset ≤ place)
    (apart : ∀ edit ∈ edits, ¬ edit.Covers place) :
    ∃ landed,
      landed + offset + removed (before edits place) = place + added (before edits place) ∧
        (spliced text offset edits)[landed]? = text[place]? := by
  induction edits generalizing offset with
  | nil =>
    refine ⟨place - offset, ?_, ?_⟩
    · simp only [before, List.filter_nil, removed, added, List.map_nil, List.sum_nil]
      omega
    · rw [spliced, List.getElem?_drop, Nat.add_sub_cancel' start]
  | cons edit rest inductionHypothesis =>
    obtain ⟨later, tail⟩ := List.pairwise_cons.mp row
    have others : ∀ other ∈ rest, other.Within text := fun other listed =>
      within other (List.mem_cons_of_mem edit listed)
    obtain ⟨forward, ends⟩ := within edit List.mem_cons_self
    have first := behind edit List.mem_cons_self
    have gap : (slice text offset edit.span.start).length = edit.span.start - offset := by
      rw [length_slice, Nat.min_eq_left (by omega)]
    by_cases early : place < edit.span.start
    · have none : before (edit :: rest) place = [] := by
        refine before_eq_nil (fun other listed => (within other listed).forward) ?_
        intro other listed
        rcases List.mem_cons.mp listed with rfl | further
        · exact early
        · exact early.trans_le (forward.trans (later other further))
      refine ⟨place - offset, ?_, ?_⟩
      · simp only [none, removed, added, List.map_nil, List.sum_nil]
        omega
      · rw [spliced, List.append_assoc, List.getElem?_append_left (by omega), slice,
          List.getElem?_drop, Nat.add_sub_cancel' start, List.getElem?_take_of_lt early]
    · have passed : edit.span.stop ≤ place := by
        by_contra reaches
        exact apart edit List.mem_cons_self ⟨by omega, by omega⟩
      obtain ⟨landed, moves, same⟩ := inductionHypothesis tail others later passed
        fun other listed => apart other (List.mem_cons_of_mem edit listed)
      refine ⟨edit.span.start - offset + edit.replacement.toList.length + landed, ?_, ?_⟩
      · simp only [before_cons_of_le passed, removed, added, List.map_cons, List.sum_cons]
          at moves ⊢
        omega
      · have length : (slice text offset edit.span.start ++ edit.replacement.toList).length =
            edit.span.start - offset + edit.replacement.toList.length := by
          rw [List.length_append, gap]
        rw [spliced, List.getElem?_append_right (by omega), length, Nat.add_sub_cancel_left, same]

/-- Edits of a text are refused exactly when, in the order of their places, some edit starts in
front of the end of an earlier one. Otherwise the result is what is between them, in order, with the
replacement of each edit in the place of its stretch. Nothing else is lost or changed: the same
gaps with the old stretches make up the text, and a character that no edit covers is moved by what
the edits in front of it add and take away. The order in which edits are given plays no part. -/
theorem applyAll_exact (within : ∀ edit ∈ edits, edit.Within text) :
    ((∃ overlap, applyAll edits text = .error overlap) ↔
      ∃ first second, [first, second].Sublist (ordered edits) ∧
        second.span.start < first.span.stop) ∧
    ((¬ ∃ first second, [first, second].Sublist (ordered edits) ∧
        second.span.start < first.span.stop) →
      applyAll edits text = .ok (spliced text 0 (ordered edits)) ∧
      spliced text 0 ((ordered edits).map (restoring text)) = text ∧
      ∀ place, (∀ edit ∈ edits, ¬ edit.Covers place) →
        ∃ landed, landed + removed (before edits place) = place + added (before edits place) ∧
          (spliced text 0 (ordered edits))[landed]? = text[place]?) ∧
    ∀ others, others.Perm edits → applyAll others text = applyAll edits text := by
  rw [← not_inRow_iff, not_not]
  refine ⟨exists_applyAll_eq_error_iff, fun row => ⟨applyAll_eq_ok within row, ?restored, ?moved⟩,
    fun others same => applyAll_congr same text⟩
  case restored =>
    have all : ∀ edit ∈ ordered edits, edit.Within text := fun edit listed =>
      within edit ((ordered_perm edits).mem_iff.mp listed)
    exact spliced_restoring row all fun _ _ => Nat.zero_le _
  case moved =>
    intro place apart
    have kept := ordered_perm edits
    obtain ⟨landed, moves, same⟩ := getElem?_spliced row
      (fun edit listed => within edit (kept.mem_iff.mp listed)) (fun _ _ => Nat.zero_le _)
      (Nat.zero_le _) fun edit listed => apart edit (kept.mem_iff.mp listed)
    have passed := kept.filter fun edit => edit.span.stop ≤ place
    have takes : removed (before (ordered edits) place) = removed (before edits place) :=
      (passed.map _).sum_eq
    have puts : added (before (ordered edits) place) = added (before edits place) :=
      (passed.map _).sum_eq
    rw [takes, puts, Nat.add_zero] at moves
    exact ⟨landed, moves, same⟩

/-- Edits that touch: insertions in front of a replacement, at its end twice, and behind. -/
def touching : List Edit :=
  [⟨⟨3, 3⟩, "Y"⟩, ⟨⟨1, 3⟩, "xyz"⟩, ⟨⟨6, 6⟩, "!"⟩, ⟨⟨1, 1⟩, "I"⟩, ⟨⟨3, 3⟩, "X"⟩]

theorem ordered_touching : ordered touching =
    [⟨⟨1, 1⟩, "I"⟩, ⟨⟨1, 3⟩, "xyz"⟩, ⟨⟨3, 3⟩, "X"⟩, ⟨⟨3, 3⟩, "Y"⟩, ⟨⟨6, 6⟩, "!"⟩] := by
  cbv

theorem applyAll_exact_touching :
    (∀ edit ∈ touching, edit.Within "abcdef".toList) ∧
      (∀ others, others.Perm touching →
        applyAll others "abcdef".toList = .ok "aIxyzXYdef!".toList) ∧
      ∃ landed, landed + 2 = 4 + 6 ∧ "aIxyzXYdef!".toList[landed]? = some 'e' := by
  have within : ∀ edit ∈ touching, edit.Within "abcdef".toList := by
    intro edit listed
    simp only [touching, List.mem_cons, List.not_mem_nil, or_false] at listed
    rcases listed with rfl | rfl | rfl | rfl | rfl <;> exact ⟨by decide, by decide⟩
  have row : InRow (ordered touching) := by
    rw [ordered_touching, InRow]
    decide
  obtain ⟨-, applied, alike⟩ := applyAll_exact within
  obtain ⟨made, -, moved⟩ := applied (not_inRow_iff.not.mp (not_not.mpr row))
  have result : spliced "abcdef".toList 0 (ordered touching) = "aIxyzXYdef!".toList := by
    rw [ordered_touching]
    decide
  rw [result] at made moved
  refine ⟨within, fun others same => (alike others same).trans made, ?_⟩
  exact moved 4 (by simp [touching, Covers])

end Edit

end FeatureLayout
