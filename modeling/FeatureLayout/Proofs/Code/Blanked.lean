import FeatureLayout.Code.Strings
import FeatureLayout.Proofs.Basic
import FeatureLayout.Text.Slice

/-!
# Blanked texts

Comments and the contents of literals are blanked before a text is searched. A blanked text keeps
its offsets and lines, and what it shows that is no blank stands in the text as well.
-/

namespace FeatureLayout

open Text

/-- A text is shown with some of its characters replaced by blanks, but no line break. -/
def Text.Blanked (shown text : List Char) : Prop :=
  List.Forall₂ (fun shown c => shown = c ∨ (shown = ' ' ∧ c ≠ '\n')) shown text

namespace Text.Blanked

variable {shown text other : List Char}

theorem refl (text : List Char) : Blanked text text :=
  List.forall₂_same.mpr fun _ _ => Or.inl rfl

theorem trans (first : Blanked shown text) (second : Blanked text other) : Blanked shown other := by
  induction first generalizing other with
  | nil => exact second
  | @cons shows c _ _ head _ inductionHypothesis =>
    obtain ⟨d, rest, below, later, rfl⟩ := List.forall₂_cons_left_iff.mp second
    refine .cons ?_ (inductionHypothesis later)
    rcases head with rfl | ⟨blank, line⟩
    · exact below
    · rcases below with rfl | ⟨-, also⟩
      · exact Or.inr ⟨blank, line⟩
      · exact Or.inr ⟨blank, also⟩

/-- Blanking keeps the lines. -/
theorem lineAt_eq (blanked : Blanked shown text) (place : Nat) :
    lineAt shown place = lineAt text place := by
  have counts : ∀ {shown text : List Char}, Blanked shown text →
      shown.count '\n' = text.count '\n' := by
    intro shown text blanked
    induction blanked with
    | nil => rfl
    | cons head tail inductionHypothesis =>
      rw [List.count_cons, List.count_cons, inductionHypothesis]
      rcases head with rfl | ⟨rfl, line⟩
      · rfl
      · simp [line]
  rw [lineAt, lineAt, counts (List.forall₂_take place blanked)]

/-- A character is shown as it is, or as a blank. -/
theorem getElem?_or (blanked : Blanked shown text) {place : Nat} {c : Char}
    (there : text[place]? = some c) : shown[place]? = some c ∨ shown[place]? = some ' ' := by
  induction blanked generalizing place with
  | nil => cases there
  | cons head tail inductionHypothesis =>
    cases place with
    | zero =>
      obtain rfl := Option.some.inj there
      exact head.imp (congrArg some) (fun blank => congrArg some blank.1)
    | succ place => exact inductionHypothesis there

/-- What is shown and is no blank stands in the text. -/
theorem getElem?_eq (blanked : Blanked shown text) {place : Nat} {c : Char}
    (there : shown[place]? = some c) (other : c ≠ ' ') : text[place]? = some c := by
  have inside : place < text.length := by
    rw [← blanked.length_eq]
    exact (List.getElem?_eq_some_iff.mp there).1
  rcases blanked.getElem?_or (List.getElem?_eq_getElem inside) with same | blank
  · rw [List.getElem?_eq_getElem inside, ← same, there]
  · rw [there] at blank
    exact absurd (Option.some.inj blank) other

/-- What is shown without blanks is the text. -/
theorem eq_of_plain (blanked : Blanked shown text) (plain : ∀ c ∈ shown, c ≠ ' ') :
    shown = text := by
  induction blanked with
  | nil => rfl
  | cons head tail inductionHypothesis =>
    have same := head.resolve_right fun blank => plain _ List.mem_cons_self blank.1
    rw [same, inductionHypothesis fun c listed => plain c (List.mem_cons_of_mem _ listed)]

end Text.Blanked

namespace Code

/-- Blanking comments keeps the lines. -/
theorem CommentLayer.blanked_of_mask {layer : CommentLayer} {text masked : List Char}
    (read : layer.mask text = .ok masked) : Blanked masked text := by
  induction text generalizing layer masked with
  | nil =>
    rw [mask] at read
    split at read
    · cases read
    · obtain rfl := Except.ok.inj read
      exact .nil
  | cons c rest inductionHypothesis =>
    obtain ⟨remaining, inside, rfl⟩ := map_eq_ok.mp read
    refine .cons ?_ (inductionHypothesis inside)
    by_cases line : c = '\n'
    · left
      simp [shown, line]
    · unfold shown
      split
      · exact Or.inl rfl
      · exact Or.inr ⟨rfl, line⟩

/-- Blanking the contents of literals keeps the lines. -/
theorem StringLayer.blanked_of_mask {layer : StringLayer} {text masked : List Char}
    (read : layer.mask text = .ok masked) : Blanked masked text := by
  induction text generalizing layer masked with
  | nil =>
    rw [mask] at read
    split at read
    · cases read
    · obtain rfl := Except.ok.inj read
      exact .nil
  | cons c rest inductionHypothesis =>
    obtain ⟨remaining, inside, rfl⟩ := map_eq_ok.mp read
    refine .cons ?_ (inductionHypothesis inside)
    by_cases line : c = '\n'
    · left
      simp [shown, line]
    · unfold shown
      split
      · exact Or.inr ⟨rfl, line⟩
      · exact Or.inl rfl

end Code

end FeatureLayout
