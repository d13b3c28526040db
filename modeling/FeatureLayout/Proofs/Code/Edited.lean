import FeatureLayout.Proofs.Code.Comments
import FeatureLayout.Proofs.Code.Replaced
import FeatureLayout.Proofs.Edit

/-!
# Imports of an edited text

Edits that replace safe specifiers by safe specifiers keep a text readable, and the imports of the
edited text are those of the text: each one with the replacement of its own specifier, or with its
specifier when that is not edited.

Edits are applied from the last to the first. What is in front of all edits that have been applied
is untouched, what is behind the first of them has moved, and no import gets from one side to the
other.
-/

namespace FeatureLayout.Code.Import

open Text Specifier

/-- The specifier that an import has after some edits. -/
def editedSpecifier (edits : List Edit) (found : Import) : String :=
  match edits.find? (·.span == found.span) with
  | some edit => edit.replacement
  | none => found.specifier

/-- Edits of the safe specifiers of some imports, with replacements that are safe too. -/
def Edits (imports : List Import) (edits : List Edit) : Prop :=
  ∀ edit ∈ edits, IsSafe edit.replacement.toList ∧
    ∃ found ∈ imports, found.span = edit.span ∧ IsSafe found.specifier.toList

/-- An import of a text and the import that edits make of it: untouched in front of all edits, and
behind the place of the first one otherwise. -/
structure Tracked (edits : List Edit) (first second : Import) : Prop where
  specifier : second.specifier = editedSpecifier edits first
  place : (second.span = first.span ∧ ∀ edit ∈ edits, first.span.stop < edit.span.start) ∨
    ∃ edit ∈ edits, edit.span.start ≤ first.span.start ∧ edit.span.start ≤ second.span.start

section Step

variable {edit : Edit} {edits : List Edit} {first second third : Import}

theorem editedSpecifier_cons_self (same : edit.span = first.span) :
    editedSpecifier (edit :: edits) first = edit.replacement := by
  simp [editedSpecifier, same]

theorem editedSpecifier_cons_of_ne (apart : edit.span ≠ first.span) :
    editedSpecifier (edit :: edits) first = editedSpecifier edits first := by
  simp [editedSpecifier, apart]

theorem editedSpecifier_eq_self (apart : ∀ edit ∈ edits, edit.span ≠ first.span) :
    editedSpecifier edits first = first.specifier := by
  have none : edits.find? (·.span == first.span) = none :=
    List.find?_eq_none.mpr fun edit listed => by simpa using apart edit listed
  rw [editedSpecifier, none]

/-- One more edit in front of the others keeps track of an import. -/
theorem Tracked.step {hole : Hole} (apart : Edit.Apart (edit :: edits))
    (covers : edit.span = ⟨hole.start, hole.start + hole.old.length⟩)
    (puts : hole.new = edit.replacement.toList) (forward : second.span.start ≤ second.span.stop)
    (tracked : Tracked edits first second)
    (moved : hole.Moved second.span second.specifier.toList third.span third.specifier.toList) :
    Tracked (edit :: edits) first third := by
  obtain ⟨before, -⟩ := List.pairwise_cons.mp apart
  have start : edit.span.start = hole.start := congrArg Span.start covers
  have stop : edit.span.stop = hole.start + hole.old.length := congrArg Span.stop covers
  have behind (start : edit.span.start ≤ first.span.start)
      (late : edit.span.start ≤ third.span.start) :
      ∃ other ∈ edit :: edits,
        other.span.start ≤ first.span.start ∧ other.span.start ≤ third.span.start :=
    ⟨edit, List.mem_cons_self, start, late⟩
  have unchanged (differ : edit.span ≠ first.span)
      (same : third.specifier.toList = second.specifier.toList) :
      third.specifier = editedSpecifier (edit :: edits) first := by
    rw [editedSpecifier_cons_of_ne differ, ← tracked.specifier]
    exact String.toList_inj.mp same
  rcases tracked.place with ⟨same, early⟩ | ⟨other, listed, late, later⟩
  · rcases moved.split with ⟨ahead, place, text⟩ | ⟨whole, place, text⟩ | ⟨past, place, text⟩
    · constructor
      case specifier =>
        refine unchanged (fun equal => ?_) text
        rw [same, ← equal, covers] at ahead
        dsimp only at ahead
        omega
      case place =>
        refine Or.inl ⟨place.trans same, List.forall_mem_cons.mpr ⟨?_, early⟩⟩
        rw [← same, start]
        exact ahead
    · have here : edit.span = first.span := by rw [covers, ← whole, same]
      constructor
      case specifier =>
        rw [editedSpecifier_cons_self here]
        exact String.toList_inj.mp (text.trans puts)
      case place => exact Or.inr (behind (by rw [here]) (by omega))
    · have later : edit.span.start < first.span.start := by
        rw [← same, start]
        exact past
      constructor
      case specifier =>
        refine unchanged (fun equal => ?_) text
        rw [equal] at later
        exact Nat.lt_irrefl _ later
      case place => exact Or.inr (behind (Nat.le_of_lt later) (by omega))
  · have between := before other listed
    rcases moved.split with ⟨ahead, place, text⟩ | ⟨whole, place, text⟩ | ⟨past, place, text⟩
    · omega
    · rw [whole] at later
      dsimp only at later
      omega
    · constructor
      case specifier =>
        refine unchanged (fun equal => ?_) text
        rw [← equal] at late
        omega
      case place => exact Or.inr (behind (by omega) (by omega))

/-- The specifier of the next edit stands where it stood, and as it was. -/
theorem Tracked.untouched (before : ∀ other ∈ edits, edit.span.stop < other.span.start)
    (place : first.span = edit.span) (forward : first.span.start ≤ first.span.stop)
    (tracked : Tracked edits first second) :
    second.span = edit.span ∧ second.specifier = first.specifier := by
  rcases tracked.place with ⟨same, early⟩ | ⟨other, listed, late, -⟩
  · refine ⟨same.trans place, tracked.specifier.trans (editedSpecifier_eq_self ?_)⟩
    intro other listed equal
    have behind := before other listed
    rw [equal, ← place] at behind
    omega
  · have behind := before other listed
    rw [← place] at behind
    omega

end Step

/-- What stands between quotes gives way to a replacement. -/
theorem apply_quoted {edit : Edit} {quote : Char} {ahead inner after : List Char}
    (covers : edit.span = ⟨ahead.length + 1, ahead.length + 1 + inner.length⟩) :
    edit.apply (ahead ++ quote :: (inner ++ quote :: after)) =
      ahead ++ quote :: (edit.replacement.toList ++ quote :: after) := by
  have fills : edit.apply ((ahead ++ [quote]) ++ (inner ++ quote :: after)) =
      (ahead ++ [quote]) ++ (edit.replacement.toList ++ quote :: after) :=
    Edit.apply_append (by rw [covers, List.length_append, List.length_singleton])
  simpa using fills

section Places

variable {text masked : List Char} {edits : List Edit}

/-- An edit of what stands between quotes in a blanked text lies in the text. -/
theorem within_of_quoted (read : maskComments text = .ok masked) {edit : Edit} {inner : List Char}
    (quoted : Quoted masked edit.span inner) : edit.Within text := by
  have inside := quoted.stop_lt_length
  have ends := quoted.stop_eq
  rw [(CommentLayer.blanked_of_mask read).length_eq] at inside
  exact ⟨by omega, by omega⟩

/-- Edits of what stands between quotes are apart once they are sorted, when no two have the same
place. -/
theorem apart_of_quoted (quoted : ∀ edit ∈ edits, ∃ inner, Quoted masked edit.span inner)
    (distinct : (edits.map (·.span)).Nodup) : Edit.Apart (Edit.ordered edits) := by
  refine Edit.apart_ordered distinct (fun edit listed => ?forward) fun first listed second also => ?_
  case forward =>
    obtain ⟨inner, there⟩ := quoted edit listed
    have ends := there.stop_eq
    omega
  · obtain ⟨inner, there⟩ := quoted first listed
    obtain ⟨other, here⟩ := quoted second also
    exact there.apart here

end Places

/-- The specifier of an import ends behind its start. -/
theorem start_le_stop_of_mem_ofText {masked : List Char} {found : Import}
    (listed : found ∈ ofText masked) : found.span.start ≤ found.span.stop := by
  have ends := (quoted_of_mem_ofText listed).stop_eq
  omega

/-- Edits of the specifiers of a text keep it readable and keep track of its imports.

Induct on the edits, the last of which is applied first: the specifier of the next edit is untouched
and gives the hole that the edit fills. -/
theorem tracked_of_edits {text masked : List Char} (read : maskComments text = .ok masked)
    {edits : List Edit} (safe : Edits (ofText masked) edits) (apart : Edit.Apart edits) :
    ∃ edited, maskComments (edits.foldr Edit.apply text) = .ok edited ∧
      (∀ first ∈ ofText masked, ∃ second ∈ ofText edited, Tracked edits first second) ∧
      ∀ second ∈ ofText edited, ∃ first ∈ ofText masked, Tracked edits first second := by
  induction edits with
  | nil =>
    have same (found : Import) : Tracked [] found found :=
      ⟨rfl, Or.inl ⟨rfl, fun _ absent => absurd absent List.not_mem_nil⟩⟩
    exact ⟨masked, read, fun found listed => ⟨found, listed, same found⟩,
      fun found listed => ⟨found, listed, same found⟩⟩
  | cons edit edits inductionHypothesis =>
    obtain ⟨before, others⟩ := List.pairwise_cons.mp apart
    obtain ⟨edited, readable, forth, back⟩ :=
      inductionHypothesis (fun edit listed => safe edit (List.mem_cons_of_mem _ listed)) others
    obtain ⟨refilled, origin, listed, place, filled⟩ := safe edit List.mem_cons_self
    obtain ⟨current, present, tracked⟩ := forth origin listed
    have untouched := tracked.untouched before place (start_le_stop_of_mem_ofText listed)
    obtain ⟨quote, front, rest, isQuote, follows, whole, span⟩ := quoted_of_mem_ofText present
    rw [untouched.1, untouched.2] at span
    rw [untouched.2] at follows whole
    rw [whole] at readable
    obtain ⟨ahead, after, shape, length, replaced⟩ :=
      maskComments_replaced isQuote filled readable
    let hole : Hole :=
      ⟨quote, origin.specifier.toList, edit.replacement.toList, rest, front.length + 1⟩
    have safeHole : hole.IsSafe := ⟨isQuote, filled, refilled⟩
    refine ⟨front ++ hole.around hole.new, ?_, ?_, ?_⟩
    · rw [List.foldr_cons, shape, apply_quoted (by rw [span, length])]
      exact replaced _ refilled
    · intro first among
      obtain ⟨second, there, tracked⟩ := forth first among
      have forward := start_le_stop_of_mem_ofText there
      rw [whole] at there
      obtain ⟨third, found, moved⟩ := safeHole.exists_of_mem_ofText rfl there
      exact ⟨third, found, tracked.step apart span rfl forward moved⟩
    · intro third found
      obtain ⟨second, there, moved⟩ := safeHole.swap.exists_of_mem_ofText rfl found
      have inside : second ∈ ofText edited := by
        rw [whole]
        exact there
      have forward := start_le_stop_of_mem_ofText inside
      obtain ⟨first, among, tracked⟩ := back second inside
      exact ⟨first, among, tracked.step apart span rfl forward moved.swap⟩

end FeatureLayout.Code.Import
