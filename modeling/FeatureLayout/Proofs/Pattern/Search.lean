import FeatureLayout.Proofs.Pattern.Hole

/-!
# Searches through a text and through the text with a stretch replaced

When a stable pattern fits nowhere inside a hole, neither before nor after the stretch is replaced,
a search finds corresponding matches in both texts. The two searches run in step up to the hole,
pass it with nothing to report, and run in step again behind it.
-/

namespace FeatureLayout

namespace Hole

variable {hole : Hole}

/-- Corresponding offsets: equal ones up to the hole, shifted ones behind it. -/
def Offsets (hole : Hole) (first second : Nat) : Prop :=
  (first = second ∧ first ≤ hole.start) ∨
    ∃ place, hole.start < place ∧ first = place + hole.old.length ∧
      second = place + hole.new.length

theorem Beside.offsets {first second : Cursor} (places : hole.Beside first second) :
    hole.Offsets first.offset second.offset := by
  cases places with
  | ahead before front offset leads => exact Or.inl ⟨rfl, by dsimp only; omega⟩
  | behind before rest place offset other past offsetAt otherAt =>
    exact Or.inr ⟨place, past, offsetAt, otherAt⟩

theorem Landed.offsets {first second : Cursor} (places : hole.Landed first second) :
    hole.Offsets first.offset second.offset := by
  cases places with
  | beside places => exact places.offsets
  | within => exact Or.inl ⟨rfl, Nat.le_refl _⟩

/-- Corresponding offsets are equal to each other alike. -/
theorem Offsets.eq_iff {first second other another : Nat} (offsets : hole.Offsets first second)
    (others : hole.Offsets other another) : first = other ↔ second = another := by
  rcases offsets with ⟨same, early⟩ | ⟨place, past, at₁, at₂⟩ <;>
    rcases others with ⟨same', early'⟩ | ⟨place', past', at₁', at₂'⟩ <;>
    constructor <;> intro equal <;> omega

variable {κ : Type} {tracked : κ} {pattern : Pattern κ}

/-- Matches that end at corresponding offsets with corresponding captures. -/
structure Found (hole : Hole) (tracked : κ) (first second : Match κ) : Prop where
  stop : hole.Offsets first.span.stop second.span.stop
  captured : List.Forall₂ (hole.Remembered tracked) first.captured second.captured

/-- A pattern that fits nowhere from the opening to the closing quote. -/
def Barren (hole : Hole) (pattern : Pattern κ) (text : List Char) : Prop :=
  ∀ front rest before offset, text = front ++ rest → before = (hole.quote :: front).getLast? →
    pattern.matchesAt ⟨before, rest ++ hole.quote :: hole.back, offset⟩ = []

section

variable (stable : Pattern.Stable (hole.Remembered tracked) hole.Beside hole.Landed pattern)

include stable

/-- At corresponding places corresponding matches start. -/
theorem found_matchesAt {first second : Cursor} (places : hole.Beside first second) :
    List.Forall₂ (hole.Found tracked) (pattern.matchesAt first) (pattern.matchesAt second) := by
  have reached := stable ⟨first, []⟩ ⟨second, []⟩ ⟨places, .nil⟩
  have matched (one other : Reached κ)
      (alike : Pattern.Alike (hole.Remembered tracked) hole.Landed one other) :
      hole.Found tracked
        ⟨⟨first.offset, one.cursor.offset⟩, first.ahead.take (one.cursor.offset - first.offset),
          one.captured⟩
        ⟨⟨second.offset, other.cursor.offset⟩,
          second.ahead.take (other.cursor.offset - second.offset), other.captured⟩ :=
    ⟨alike.cursor.offsets, alike.captured⟩
  exact List.rel_map matched reached

/-- At corresponding places corresponding matches are reported. -/
theorem found_report {first second : Cursor} (places : hole.Beside first second) :
    List.Forall₂ (hole.Found tracked) (pattern.report first).1 (pattern.report second).1 ∧
      hole.Offsets (pattern.report first).2 (pattern.report second).2 := by
  have starts := places.offsets
  have found := found_matchesAt stable places
  have empty (one other : Match κ) (alike : hole.Found tracked one other) :
      (one.span.stop != first.offset) = (other.span.stop != second.offset) := by
    rw [Bool.eq_iff_iff, bne_iff_ne, bne_iff_ne]
    exact not_congr (alike.stop.eq_iff starts)
  unfold Pattern.report
  generalize pattern.matchesAt first = ones at found ⊢
  generalize pattern.matchesAt second = others at found ⊢
  cases found with
  | nil => exact ⟨.nil, starts⟩
  | cons head tail =>
    rename_i preferred other left right
    dsimp only
    by_cases ends : preferred.span.stop = first.offset
    · rw [if_pos ends, if_pos ((head.stop.eq_iff starts).mp ends)]
      have longer := rel_find? empty (.cons head tail)
      generalize (preferred :: left).find? _ = one at longer
      generalize (other :: right).find? _ = another at longer
      cases longer with
      | none => exact ⟨.cons head .nil, starts⟩
      | some alike => exact ⟨.cons head (.cons alike .nil), alike.stop⟩
    · rw [if_neg ends, if_neg (fun same => ends ((head.stop.eq_iff starts).mpr same))]
      exact ⟨.cons head .nil, head.stop⟩

/-- Behind the hole, searches find corresponding matches. -/
theorem found_behind (rest : List Char) (before : Option Char) (place first second : Nat)
    (past : hole.start < place)
    (resumes : (first ≤ place + hole.old.length ∧ second ≤ place + hole.new.length) ∨
      ∃ later, first = later + hole.old.length ∧ second = later + hole.new.length) :
    List.Forall₂ (hole.Found tracked)
      (pattern.searchFrom before (place + hole.old.length) first rest)
      (pattern.searchFrom before (place + hole.new.length) second rest) := by
  induction rest generalizing before place first second with
  | nil =>
    have skips : place + hole.old.length < first ↔ place + hole.new.length < second := by
      rcases resumes with ⟨one, other⟩ | ⟨later, one, other⟩ <;> omega
    simp only [Pattern.searchFrom, skips]
    split
    · exact .nil
    · exact (found_report stable (.behind before [] place _ _ past rfl rfl)).1
  | cons c rest inductionHypothesis =>
    have skips : place + hole.old.length < first ↔ place + hole.new.length < second := by
      rcases resumes with ⟨one, other⟩ | ⟨later, one, other⟩ <;> omega
    have onwards (first second : Nat)
        (resumes : (first ≤ place + 1 + hole.old.length ∧ second ≤ place + 1 + hole.new.length) ∨
          ∃ later, first = later + hole.old.length ∧ second = later + hole.new.length) :
        List.Forall₂ (hole.Found tracked)
          (pattern.searchFrom (some c) (place + hole.old.length + 1) first rest)
          (pattern.searchFrom (some c) (place + hole.new.length + 1) second rest) := by
      have later := inductionHypothesis (some c) (place + 1) first second (by omega) resumes
      rwa [Nat.add_right_comm, Nat.add_right_comm place 1] at later
    simp only [Pattern.searchFrom, skips]
    split
    · refine onwards first second ?_
      rcases resumes with ⟨one, other⟩ | later
      · exact Or.inl ⟨by omega, by omega⟩
      · exact Or.inr later
    · obtain ⟨found, offsets⟩ :=
        found_report stable (.behind before (c :: rest) place _ _ past rfl rfl)
      refine List.rel_append found (onwards _ _ ?_)
      rcases offsets with ⟨same, early⟩ | ⟨later, -, one, other⟩
      · exact Or.inl ⟨by omega, by omega⟩
      · exact Or.inr ⟨later, one, other⟩

omit stable in
/-- A search passes a stretch in which nothing fits. -/
theorem searchFrom_barren {text : List Char} (barren : hole.Barren pattern text)
    (front rest : List Char) (before : Option Char) (offset resume : Nat)
    (split : text = front ++ rest) (follows : before = (hole.quote :: front).getLast?) :
    ∃ later, (later = resume ∨ later ≤ offset + rest.length ∧ resume ≤ offset + rest.length) ∧
      pattern.searchFrom before offset resume (rest ++ hole.quote :: hole.back) =
        pattern.searchFrom (some hole.quote) (offset + rest.length + 1) later hole.back := by
  have nothing :
      pattern.report ⟨before, rest ++ hole.quote :: hole.back, offset⟩ = ([], offset) := by
    simp [Pattern.report, barren front rest before offset split follows]
  induction rest generalizing front before offset resume with
  | nil =>
    by_cases skips : offset < resume
    · exact ⟨resume, Or.inl rfl, by simp [Pattern.searchFrom, skips]⟩
    · refine ⟨offset, Or.inr ⟨Nat.le_refl _, by simpa using skips⟩, ?_⟩
      rw [List.nil_append] at nothing
      simp [Pattern.searchFrom, skips, nothing]
  | cons c rest inductionHypothesis =>
    have next : text = (front ++ [c]) ++ rest := by simp [split]
    have follows' : some c = (hole.quote :: (front ++ [c])).getLast? := by
      rw [← List.cons_append, List.getLast?_concat]
    have silent : pattern.report ⟨some c, rest ++ hole.quote :: hole.back, offset + 1⟩ =
        ([], offset + 1) := by
      simp [Pattern.report, barren _ rest (some c) (offset + 1) next follows']
    by_cases skips : offset < resume
    · obtain ⟨later, either, same⟩ :=
        inductionHypothesis (front ++ [c]) (some c) (offset + 1) resume next follows' silent
      refine ⟨later, ?_, ?_⟩
      · rw [List.length_cons]
        omega
      · rw [List.cons_append, Pattern.searchFrom, if_pos skips, same, List.length_cons]
        congr 1
        omega
    · obtain ⟨later, either, same⟩ :=
        inductionHypothesis (front ++ [c]) (some c) (offset + 1) offset next follows' silent
      refine ⟨later, ?_, ?_⟩
      · rw [List.length_cons]
        omega
      · rw [List.cons_append] at nothing ⊢
        rw [Pattern.searchFrom, if_neg skips, nothing]
        dsimp only
        rw [List.nil_append, same, List.length_cons]
        congr 1
        omega

variable (old : hole.Barren pattern hole.old) (new : hole.Barren pattern hole.new)

include old new

/-- From the opening quote on, searches find corresponding matches. -/
theorem found_within (first second : Nat) (resumes : hole.Offsets first second) :
    List.Forall₂ (hole.Found tracked)
      (pattern.searchFrom (some hole.quote) hole.start first
        (hole.old ++ hole.quote :: hole.back))
      (pattern.searchFrom (some hole.quote) hole.start second
        (hole.new ++ hole.quote :: hole.back)) := by
  obtain ⟨one, eitherOne, sameOne⟩ :=
    searchFrom_barren old [] hole.old (some hole.quote) hole.start first rfl rfl
  obtain ⟨two, eitherTwo, sameTwo⟩ :=
    searchFrom_barren new [] hole.new (some hole.quote) hole.start second rfl rfl
  rw [sameOne, sameTwo, Nat.add_right_comm, Nat.add_right_comm hole.start hole.new.length]
  refine found_behind stable hole.back _ (hole.start + 1) one two (Nat.lt_succ_self _) ?_
  rcases resumes with ⟨same, early⟩ | ⟨place, past, atOne, atTwo⟩
  · left
    omega
  · right
    exact ⟨place, by omega, by omega⟩

/-- In front of the hole, searches find corresponding matches. -/
theorem found_ahead (front : List Char) (before : Option Char) (offset first second : Nat)
    (leads : offset + front.length + 1 = hole.start) (resumes : hole.Offsets first second) :
    List.Forall₂ (hole.Found tracked)
      (pattern.searchFrom before offset first (front ++ hole.around hole.old))
      (pattern.searchFrom before offset second (front ++ hole.around hole.new)) := by
  have skips : offset < first ↔ offset < second := by
    rcases resumes with ⟨same, early⟩ | ⟨place, past, atOne, atTwo⟩ <;> omega
  induction front generalizing before offset first second with
  | nil =>
    have starts : offset + 1 = hole.start := leads
    obtain ⟨found, offsets⟩ := found_report stable (.ahead before [] offset leads)
    simp only [List.nil_append, around, Pattern.searchFrom, skips, starts] at found offsets ⊢
    split
    · exact found_within stable old new first second resumes
    · exact List.rel_append found (found_within stable old new _ _ offsets)
  | cons c rest inductionHypothesis =>
    have next : offset + 1 + rest.length + 1 = hole.start := by
      rw [← leads, List.length_cons]
      omega
    obtain ⟨found, offsets⟩ := found_report stable (.ahead before (c :: rest) offset leads)
    simp only [List.cons_append, Pattern.searchFrom, skips] at found offsets ⊢
    have later (first second : Nat) (resumes : hole.Offsets first second) :=
      inductionHypothesis (some c) (offset + 1) first second next resumes (by
        rcases resumes with ⟨same, early⟩ | ⟨place, past, atOne, atTwo⟩ <;> omega)
    split
    · exact later first second resumes
    · exact List.rel_append found (later _ _ offsets)

/-- Searches through the two texts find corresponding matches. -/
theorem found_search (front : List Char) (leads : front.length + 1 = hole.start) :
    List.Forall₂ (hole.Found tracked) (pattern.search (front ++ hole.around hole.old))
      (pattern.search (front ++ hole.around hole.new)) :=
  found_ahead stable old new front none 0 0 0 (by simpa using leads) (Or.inl ⟨rfl, Nat.zero_le _⟩)

end

end Hole

end FeatureLayout
