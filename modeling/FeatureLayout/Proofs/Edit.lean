import FeatureLayout.Edit
import FeatureLayout.Proofs.Text.Sorted
import Mathlib.Data.String.Basic

/-!
# Edits in order

Sorting edits puts them in the order of their places. Edits whose places are apart do not overlap,
and are applied one after another, the last one first.

Edits that are applied at all stand in a row, and the text that they lead to is the old text with
the replacement of each edit in the place of its stretch. A place that no edit covers cuts the edits
and both texts alike.
-/

namespace FeatureLayout

open Text

namespace Edit

/-- An edit of a stretch puts its replacement there. -/
theorem apply_append {edit : Edit} {front old back : List Char}
    (covers : edit.span = ⟨front.length, front.length + old.length⟩) :
    edit.apply (front ++ (old ++ back)) = front ++ (edit.replacement.toList ++ back) := by
  rw [apply, covers, List.take_left, ← List.drop_drop, List.drop_left, List.drop_left,
    List.append_assoc]

/-- Edits are compared by their places, then by their replacements. -/
theorem atMost_eq : Edit.atMost = refined Edit.span Span.atMost fun first second =>
    Text.atMost first.replacement second.replacement := rfl

theorem sorts_atMost : Sorts Edit.atMost := by
  rw [atMost_eq]
  exact Span.sorts_atMost.refined Span.tellsApart_atMost (Text.sorts_atMost.on Edit.replacement)
    Edit.span

/-- The order of edits tells apart all that are different. -/
theorem tellsApart_atMost : TellsApart Edit.atMost := by
  intro first second one two
  rw [atMost_eq] at one two
  obtain ⟨span, one, two⟩ := Span.tellsApart_atMost.refined Edit.span one two
  have replacement := Text.tellsApart_atMost _ _ one two
  cases first
  cases second
  exact congrArg₂ Edit.mk span replacement

/-- Ordering edits keeps them. -/
theorem ordered_perm (edits : List Edit) : (ordered edits).Perm edits :=
  List.mergeSort_perm edits _

/-- Sorted edits stand in the order of their places. -/
theorem ordered_pairwise (edits : List Edit) :
    (ordered edits).Pairwise fun first second => first.atMost second = true :=
  sorts_atMost.pairwise_mergeSort edits

/-- Edits that are in order stay as they are. -/
theorem ordered_ordered (edits : List Edit) : ordered (ordered edits) = ordered edits :=
  List.mergeSort_of_pairwise (ordered_pairwise edits)

/-- The places of edits are apart, each one behind the one before. -/
def Apart (edits : List Edit) : Prop :=
  edits.Pairwise fun first second => first.span.stop < second.span.start

/-- No edit starts in front of the end of an earlier one. -/
def InRow (edits : List Edit) : Prop :=
  edits.Pairwise fun first second => first.span.stop ≤ second.span.start

/-- Edits in a row do not overlap. -/
theorem InRow.overlap?_eq_none {edits : List Edit} (row : InRow edits) : overlap? edits = none := by
  induction edits with
  | nil => rfl
  | cons first rest inductionHypothesis =>
    obtain ⟨others, later⟩ := List.pairwise_cons.mp row
    cases rest with
    | nil => rfl
    | cons second more =>
      have behind := others second List.mem_cons_self
      rw [overlap?, if_neg (by omega)]
      exact inductionHypothesis later

/-- Edits that are apart stand in a row. -/
theorem Apart.inRow {edits : List Edit} (apart : Apart edits) : InRow edits :=
  apart.imp Nat.le_of_lt

/-- Edits that are apart are applied one after another. -/
theorem Apart.applyAll {edits : List Edit} (apart : Apart (ordered edits)) (text : List Char) :
    applyAll edits text = .ok ((ordered edits).foldr apply text) := by
  rw [Edit.applyAll, apart.inRow.overlap?_eq_none]

/-- Sorted edits with different places are apart when every two places are the same or apart. -/
theorem apart_ordered {edits : List Edit} (distinct : (edits.map (·.span)).Nodup)
    (forward : ∀ edit ∈ edits, edit.span.start ≤ edit.span.stop)
    (apart : ∀ first ∈ edits, ∀ second ∈ edits, first.span = second.span ∨
      first.span.stop < second.span.start ∨ second.span.stop < first.span.start) :
    Apart (ordered edits) := by
  have kept := ordered_perm edits
  have spans : ((ordered edits).map (·.span)).Nodup := (kept.map _).nodup_iff.mpr distinct
  have different : (ordered edits).Pairwise fun first second => first.span ≠ second.span :=
    List.pairwise_map.mp spans
  refine ((ordered_pairwise edits).and different).imp_of_mem ?_
  rintro first second listed also ⟨order, differ⟩
  have ends := forward first (kept.mem_iff.mp listed)
  have otherEnds := forward second (kept.mem_iff.mp also)
  rw [atMost, if_neg differ, Span.atMost_iff] at order
  rcases apart first (kept.mem_iff.mp listed) second (kept.mem_iff.mp also)
    with same | before | behind
  · exact absurd same differ
  · exact before
  · exact absurd order (by omega)

/-- Sorted edits of which no two neighbours overlap stand in a row. -/
theorem inRow_of_overlap? {edits : List Edit}
    (sorted : edits.Pairwise fun first second => first.atMost second = true)
    (none : overlap? edits = none) : InRow edits := by
  induction edits with
  | nil => exact .nil
  | cons first rest inductionHypothesis =>
    obtain ⟨others, later⟩ := List.pairwise_cons.mp sorted
    cases rest with
    | nil => exact List.pairwise_singleton _ _
    | cons second more =>
      rw [overlap?] at none
      split at none
      · cases none
      · next apart =>
        have tail := inductionHypothesis later none
        refine List.pairwise_cons.mpr ⟨fun edit listed => ?_, tail⟩
        rcases List.mem_cons.mp listed with rfl | further
        · omega
        · have order := (List.pairwise_cons.mp later).1 edit further
          have starts : second.span.start ≤ edit.span.start := by
            unfold atMost at order
            split at order
            · next same => rw [same]
            · have := Span.atMost_iff.mp order
              omega
          omega

/-- The stretch of an edit lies in a text. -/
structure Within (text : List Char) (edit : Edit) : Prop where
  forward : edit.span.start ≤ edit.span.stop
  ends : edit.span.stop ≤ text.length

/-- A text from an offset on, with the replacements of edits in the place of their stretches. -/
def spliced (text : List Char) : Nat → List Edit → List Char
  | offset, [] => text.drop offset
  | offset, edit :: rest =>
    slice text offset edit.span.start ++ edit.replacement.toList ++ spliced text edit.span.stop rest

/-- Edits in a row change nothing in front of the first, and put their replacements in behind. -/
theorem foldr_apply {edits : List Edit} {text : List Char} (row : InRow edits)
    (within : ∀ edit ∈ edits, edit.Within text) {offset : Nat} (inside : offset ≤ text.length)
    (behind : ∀ edit ∈ edits, offset ≤ edit.span.start) :
    (edits.foldr apply text).take offset = text.take offset ∧
      (edits.foldr apply text).drop offset = spliced text offset edits := by
  induction edits generalizing offset with
  | nil => exact ⟨rfl, rfl⟩
  | cons edit rest inductionHypothesis =>
    obtain ⟨later, tail⟩ := List.pairwise_cons.mp row
    obtain ⟨forward, ends⟩ := within edit List.mem_cons_self
    have first := behind edit List.mem_cons_self
    have others : ∀ other ∈ rest, other.Within text := fun other listed =>
      within other (List.mem_cons_of_mem edit listed)
    have front : (rest.foldr apply text).take edit.span.start = text.take edit.span.start :=
      (inductionHypothesis tail others (by omega) fun other listed =>
        forward.trans (later other listed)).1
    have back : (rest.foldr apply text).drop edit.span.stop = spliced text edit.span.stop rest :=
      (inductionHypothesis tail others ends later).2
    have start : (text.take edit.span.start).length = edit.span.start := by
      rw [List.length_take]
      omega
    rw [List.foldr_cons, apply, front, back]
    constructor
    · rw [List.append_assoc, List.take_append_of_le_length (by omega), List.take_take,
        Nat.min_eq_left first]
    · rw [List.append_assoc, List.drop_append_of_le_length (by omega), ← List.append_assoc, spliced,
        slice]

/-- Edits that lie in a text are applied when they stand in a row, by putting each replacement in
the place of its stretch. -/
theorem spliced_of_applyAll {edits : List Edit} {text result : List Char}
    (within : ∀ edit ∈ edits, edit.Within text) (applied : applyAll edits text = .ok result) :
    InRow (ordered edits) ∧ result = spliced text 0 (ordered edits) := by
  unfold applyAll at applied
  split at applied
  · cases applied
  · next none =>
    have row := inRow_of_overlap? (ordered_pairwise edits) none
    have all : ∀ edit ∈ ordered edits, edit.Within text := fun edit listed =>
      within edit ((ordered_perm edits).mem_iff.mp listed)
    refine ⟨row, ?_⟩
    rw [← Except.ok.inj applied]
    exact (foldr_apply row all (Nat.zero_le _) fun edit _ => Nat.zero_le _).2

/-- Around an edit, the edits in front of it are made in the text in front of its stretch, and those
behind it in the text behind. -/
theorem spliced_append {front : List Edit} {edit : Edit} (text : List Char) (offset : Nat)
    (ahead : ∀ other ∈ front, other.span.start ≤ edit.span.start) (back : List Edit) :
    spliced text offset (front ++ edit :: back) =
      spliced (text.take edit.span.start) offset front ++
        (edit.replacement.toList ++ spliced text edit.span.stop back) := by
  induction front generalizing offset with
  | nil => exact List.append_assoc ..
  | cons first rest inductionHypothesis =>
    obtain ⟨here, later⟩ := List.forall_mem_cons.mp ahead
    have same : slice (text.take edit.span.start) offset first.span.start =
        slice text offset first.span.start := by
      rw [slice, List.take_take, Nat.min_eq_left here, slice]
    rw [List.cons_append, spliced, inductionHypothesis _ later, spliced, same, List.append_assoc,
      List.append_assoc, List.append_assoc]

/-- A stretch of a text and what follows it are the text from there on. -/
theorem slice_append_drop {start stop : Nat} (forward : start ≤ stop) (text : List Char) :
    slice text start stop ++ text.drop stop = text.drop start := by
  have rest : text.drop stop = (text.drop start).drop (stop - start) := by
    rw [List.drop_drop, Nat.add_sub_cancel' forward]
  rw [slice, List.drop_take, rest, List.take_append_drop]

/-- In front of the edits stands what stood there. -/
theorem spliced_eq_slice_append {edits : List Edit} {text : List Char} {offset place : Nat}
    (forward : offset ≤ place) (behind : ∀ edit ∈ edits, place ≤ edit.span.start) :
    spliced text offset edits = slice text offset place ++ spliced text place edits := by
  cases edits with
  | nil => exact (slice_append_drop forward text).symm
  | cons edit rest =>
    have upTo := slice_append_drop forward (text.take edit.span.start)
    rw [slice, List.take_take, Nat.min_eq_left (behind edit List.mem_cons_self)] at upTo
    rw [spliced, spliced, ← List.append_assoc, ← List.append_assoc]
    exact congrArg (· ++ edit.replacement.toList ++ spliced text edit.span.stop rest) upTo.symm

/-- A place that no edit covers cuts the edits, and what they lead to. -/
theorem spliced_append_of_le {front back : List Edit} {text : List Char} {offset place : Nat}
    (inside : offset ≤ place)
    (ahead : ∀ edit ∈ front, edit.span.start ≤ edit.span.stop ∧ edit.span.stop ≤ place)
    (behind : ∀ edit ∈ back, place ≤ edit.span.start) :
    spliced text offset (front ++ back) =
      spliced (text.take place) offset front ++ spliced text place back := by
  induction front generalizing offset with
  | nil => exact spliced_eq_slice_append inside behind
  | cons edit rest inductionHypothesis =>
    obtain ⟨⟨forward, stops⟩, later⟩ := List.forall_mem_cons.mp ahead
    have same : slice (text.take place) offset edit.span.start =
        slice text offset edit.span.start := by
      rw [slice, List.take_take, Nat.min_eq_left (forward.trans stops), slice]
    rw [List.cons_append, spliced, inductionHypothesis stops later, spliced, same,
      List.append_assoc, List.append_assoc, List.append_assoc]

/-- Edits in a row of which none reaches into a stretch are those in front of it and those behind. -/
theorem InRow.exists_append {edits : List Edit} (row : InRow edits)
    (forward : ∀ edit ∈ edits, edit.span.start ≤ edit.span.stop) {start stop : Nat}
    (apart : ∀ edit ∈ edits, edit.span.stop ≤ start ∨ stop < edit.span.start) :
    ∃ front back, edits = front ++ back ∧ (∀ edit ∈ front, edit.span.stop ≤ start) ∧
      ∀ edit ∈ back, stop < edit.span.start := by
  induction edits with
  | nil => exact ⟨[], [], rfl, by simp, by simp⟩
  | cons edit rest inductionHypothesis =>
    obtain ⟨others, later⟩ := List.pairwise_cons.mp row
    obtain ⟨here, onwards⟩ := List.forall_mem_cons.mp forward
    obtain ⟨either, more⟩ := List.forall_mem_cons.mp apart
    rcases either with stops | starts
    · obtain ⟨front, back, rfl, ahead, behind⟩ := inductionHypothesis later onwards more
      exact ⟨edit :: front, back, rfl, List.forall_mem_cons.mpr ⟨stops, ahead⟩, behind⟩
    · refine ⟨[], edit :: rest, rfl, by simp, List.forall_mem_cons.mpr ⟨starts, ?_⟩⟩
      exact fun other listed => (starts.trans_le here).trans_le (others other listed)

/-- Edits that stop in front of the last character of a text keep it at the end. -/
theorem getLast?_spliced {edits : List Edit} {text : List Char} {offset : Nat}
    (inside : offset < text.length) (ends : ∀ edit ∈ edits, edit.span.stop < text.length) :
    (spliced text offset edits).getLast? = text.getLast? := by
  induction edits generalizing offset with
  | nil => rw [spliced, List.getLast?_drop, if_neg (Nat.not_le_of_lt inside)]
  | cons edit rest inductionHypothesis =>
    obtain ⟨here, later⟩ := List.forall_mem_cons.mp ends
    have last := inductionHypothesis here later
    rw [spliced, List.getLast?_append, last]
    cases same : text.getLast? with
    | none =>
      obtain rfl := List.getLast?_eq_none_iff.mp same
      exact absurd inside (Nat.not_lt_zero _)
    | some c => rfl

/-- Edits that start behind a character of a text keep it at the start. -/
theorem head?_spliced {edits : List Edit} {text : List Char} {offset : Nat}
    (inside : offset < text.length) (starts : ∀ edit ∈ edits, offset < edit.span.start) :
    (spliced text offset edits).head? = text[offset]? := by
  cases edits with
  | nil => exact List.head?_drop
  | cons edit rest =>
    have first := starts edit List.mem_cons_self
    rw [spliced, List.append_assoc, List.head?_append, slice, List.head?_drop,
      List.getElem?_take_of_lt first, List.getElem?_eq_getElem inside]
    rfl

/-- Edits are applied alike in whatever order they are given. -/
theorem applyAll_congr {edits others : List Edit} (same : edits.Perm others) (text : List Char) :
    applyAll edits text = applyAll others text := by
  have order : ordered edits = ordered others :=
    sorts_atMost.mergeSort_congr same fun _ _ _ _ => tellsApart_atMost _ _
  rw [applyAll, order, applyAll]

end Edit

end FeatureLayout
