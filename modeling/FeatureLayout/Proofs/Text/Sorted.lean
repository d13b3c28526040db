import FeatureLayout.Proofs.Basic
import FeatureLayout.Text.Slice

/-!
# Orders that sort

A list is sorted by a test that says whether one item may stand in front of another. When the test
is an order and tells apart all that is listed, the sorted list depends on what is listed only, and
not on the order in which it is. Tests that compare one property first, and another one where the
first is equal, are such orders when their parts are.
-/

namespace FeatureLayout.Text

variable {α κ : Type}

/-- Whether one item may stand in front of another decides on an order of all items. -/
structure Sorts (before : α → α → Bool) : Prop where
  trans : ∀ first second third, before first second = true → before second third = true →
    before first third = true
  total : ∀ first second, (before first second || before second first) = true

/-- No two items may stand in front of each other. -/
def TellsApart (before : α → α → Bool) : Prop :=
  ∀ first second, before first second = true → before second first = true → first = second

/-- Comparing a property first, and the items themselves where it is equal. -/
def refined [DecidableEq α] (key : κ → α) (before : α → α → Bool) (inner : κ → κ → Bool) :
    κ → κ → Bool := fun first second =>
  if key first = key second then inner first second else before (key first) (key second)

namespace Sorts

variable {before : α → α → Bool}

/-- Items that are sorted stand in the order that sorts them. -/
theorem pairwise_mergeSort (sorts : Sorts before) (items : List α) :
    (items.mergeSort before).Pairwise (before · · = true) :=
  List.pairwise_mergeSort sorts.trans sorts.total items

/-- Sorting leads to the list of the items that is in order, when the order tells apart those that
are listed. -/
theorem mergeSort_eq (sorts : Sorts before) {items inOrder : List α} (same : items.Perm inOrder)
    (ordered : inOrder.Pairwise (before · · = true))
    (apart : ∀ first ∈ inOrder, ∀ second ∈ inOrder, before first second = true →
      before second first = true → first = second) :
    items.mergeSort before = inOrder := by
  have kept := (List.mergeSort_perm items before).trans same
  refine List.Perm.eq_of_pairwise (fun first second listed also => ?_)
    (sorts.pairwise_mergeSort items) ordered kept
  exact apart first (kept.mem_iff.mp listed) second also

/-- Sorting leads to one list, in whatever order the items are given, when the order tells apart
those that are listed. -/
theorem mergeSort_congr (sorts : Sorts before) {items others : List α} (same : items.Perm others)
    (apart : ∀ first ∈ others, ∀ second ∈ others, before first second = true →
      before second first = true → first = second) :
    items.mergeSort before = others.mergeSort before := by
  have sorted := List.mergeSort_perm others before
  refine sorts.mergeSort_eq (same.trans sorted.symm) (sorts.pairwise_mergeSort others) ?_
  intro first listed second also
  exact apart first (sorted.mem_iff.mp listed) second (sorted.mem_iff.mp also)

/-- The order of a property sorts what has the property. -/
theorem on (sorts : Sorts before) (key : κ → α) :
    Sorts fun first second => before (key first) (key second) where
  trans first second third := sorts.trans (key first) (key second) (key third)
  total first second := sorts.total (key first) (key second)

/-- An order of a property that is refined by an order of the items is an order of the items. -/
theorem refined {inner : κ → κ → Bool} [DecidableEq α] (outer : Sorts before)
    (apart : TellsApart before) (inside : Sorts inner) (key : κ → α) :
    Sorts (Text.refined key before inner) where
  trans first second third one two := by
    unfold Text.refined at one two ⊢
    by_cases same : key first = key second
    · rw [if_pos same] at one
      by_cases also : key second = key third
      · rw [if_pos also] at two
        rw [if_pos (same.trans also)]
        exact inside.trans first second third one two
      · rw [if_neg also] at two
        rwa [if_neg (same ▸ also), same]
    · rw [if_neg same] at one
      by_cases also : key second = key third
      · rwa [if_neg (also ▸ same), ← also]
      · rw [if_neg also] at two
        by_cases around : key first = key third
        · exact absurd (apart _ _ one (around ▸ two)) same
        · rw [if_neg around]
          exact outer.trans _ _ _ one two
  total first second := by
    unfold Text.refined
    by_cases same : key first = key second
    · rw [if_pos same, if_pos same.symm]
      exact inside.total first second
    · rw [if_neg same, if_neg (Ne.symm same)]
      exact outer.total (key first) (key second)

/-- Items that are sorted by a key of which no two have the same show alike when they are listed in
another order, and when they are others that show alike. -/
theorem map_mergeSort_congr {β : Type} (sorts : Sorts before) (apart : TellsApart before)
    {key : κ → α} {shown : κ → β} (told : β → α) (tells : ∀ item, told (shown item) = key item)
    {items others : List κ} (same : (items.map shown).Perm (others.map shown))
    (distinct : (items.map key).Nodup) :
    (items.mergeSort fun first second => before (key first) (key second)).map shown =
      (others.mergeSort fun first second => before (key first) (key second)).map shown := by
  have among (items : List κ) :
      (items.mergeSort fun first second => before (key first) (key second)).map shown =
        (items.map shown).mergeSort fun first second => before (told first) (told second) :=
    List.map_mergeSort fun first _ second _ => by rw [tells, tells]
  have keys : ((items.map shown).map told).Nodup := by
    rw [List.map_map]
    exact (List.map_congr_left fun item _ => tells item).symm ▸ distinct
  have alsoKeys : ((others.map shown).map told).Nodup := (same.map told).nodup_iff.mp keys
  rw [among, among]
  exact (sorts.on told).mergeSort_congr same fun first listed second also one two =>
    List.inj_on_of_nodup_map alsoKeys listed also (apart _ _ one two)

end Sorts

/-- When two items may stand in front of each other, the property is equal, and the refining order
does not tell them apart either. -/
theorem TellsApart.refined {before : α → α → Bool} {inner : κ → κ → Bool} [DecidableEq α]
    (apart : TellsApart before) (key : κ → α) {first second : κ}
    (one : Text.refined key before inner first second = true)
    (two : Text.refined key before inner second first = true) :
    key first = key second ∧ inner first second = true ∧ inner second first = true := by
  unfold Text.refined at one two
  by_cases same : key first = key second
  · rw [if_pos same] at one
    rw [if_pos same.symm] at two
    exact ⟨same, one, two⟩
  · rw [if_neg same] at one
    rw [if_neg (Ne.symm same)] at two
    exact absurd (apart _ _ one two) same

theorem sorts_atMost : Sorts atMost where
  trans _ _ _ := by simpa [atMost] using String.le_trans
  total _ _ := by simpa [atMost] using String.le_total _ _

theorem tellsApart_atMost : TellsApart atMost := fun _ _ one two =>
  String.le_antisymm (of_decide_eq_true one) (of_decide_eq_true two)

theorem sorts_listAtMost : Sorts listAtMost where
  trans _ _ _ := listAtMost_trans
  total := listAtMost_total

theorem tellsApart_listAtMost : TellsApart listAtMost := fun _ _ => eq_of_listAtMost

namespace Span

theorem atMost_iff {first second : Span} : first.atMost second = true ↔
    first.start < second.start ∨ (first.start = second.start ∧ first.stop ≤ second.stop) := by
  simp [Span.atMost]

theorem eq_iff {first second : Span} :
    first = second ↔ first.start = second.start ∧ first.stop = second.stop := by
  cases first
  cases second
  simp

theorem sorts_atMost : Sorts Span.atMost where
  trans first second third one two := by
    rw [atMost_iff] at one two ⊢
    omega
  total first second := by
    rw [Bool.or_eq_true, atMost_iff, atMost_iff]
    omega

/-- The order of spans tells all of them apart. -/
theorem tellsApart_atMost : TellsApart Span.atMost := by
  intro first second one two
  rw [atMost_iff] at one two
  rw [eq_iff]
  omega

end Span

/-- Sorted texts do not depend on their order. -/
theorem sorted_congr {texts others : List String} (same : texts.Perm others) :
    sorted texts = sorted others :=
  sorts_atMost.mergeSort_congr same fun _ _ _ _ => tellsApart_atMost _ _

/-- Neither do sorted texts without repetitions. -/
theorem sortedDistinct_congr {texts others : List String} (same : texts.Perm others) :
    sortedDistinct texts = sortedDistinct others := by
  refine sorted_congr ((List.perm_ext_iff_of_nodup (nodup_eraseDups texts)
    (nodup_eraseDups others)).mpr fun text => ?_)
  rw [List.mem_eraseDups, List.mem_eraseDups, same.mem_iff]

end FeatureLayout.Text
