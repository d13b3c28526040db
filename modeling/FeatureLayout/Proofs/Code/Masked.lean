import FeatureLayout.Proofs.Code.Inserted

/-!
# Texts without comments

Blanking comments makes no new ones. What is left of a comment are blanks and line breaks, and both
are read as code that opens nothing: where a place lies outside of comments, the blanked text is
read as the text is, and where it lies in a comment, the blanked text is read as code. So no place
of a blanked text lies in a comment, and blanking it again changes nothing. Offsets and lines stay
valid in every blanked text, also when the contents of literals are blanked, in the text or in what
is left without comments.
-/

namespace FeatureLayout

namespace Text

/-- A text is shown with all its characters at their places, some of them as blanks, and with the
line breaks of the text and no others. -/
structure KeepsPlaces (shown text : List Char) : Prop where
  length : shown.length = text.length
  breaks : ∀ place : Nat, shown[place]? = some '\n' ↔ text[place]? = some '\n'
  shows : ∀ (place : Nat) c, text[place]? = some c →
    shown[place]? = some c ∨ shown[place]? = some ' '
  lines : ∀ offset, lineAt shown offset = lineAt text offset

namespace Blanked

variable {shown text : List Char}

/-- A line break is shown. -/
theorem getElem?_break (blanked : Blanked shown text) {place : Nat}
    (there : text[place]? = some '\n') : shown[place]? = some '\n' := by
  induction blanked generalizing place with
  | nil => cases there
  | cons head tail inductionHypothesis =>
    cases place with
    | zero =>
      obtain rfl := Option.some.inj there
      exact congrArg some (head.resolve_right fun blank => blank.2 rfl)
    | succ place => exact inductionHypothesis there

theorem keepsPlaces (blanked : Blanked shown text) : KeepsPlaces shown text where
  length := blanked.length_eq
  breaks _ := ⟨fun there => blanked.getElem?_eq there (by decide), blanked.getElem?_break⟩
  shows _ _ := blanked.getElem?_or
  lines := blanked.lineAt_eq

/-- The first character behind a place is shown as it is, or as a blank. -/
theorem head?_or (blanked : Blanked shown text) :
    shown.head? = text.head? ∨ shown.head? = some ' ' := by
  cases blanked with
  | nil => exact Or.inl rfl
  | cons head tail => exact head.imp (congrArg some) fun blank => congrArg some blank.1

end Blanked

end Text

namespace Code

open Text

namespace CommentLayer

section Step

variable {layer : CommentLayer} {reading : Reading} {c : Char} {behind shownBehind : Option Char}

/-- A marker opens a comment only in code, and only by both of its characters. -/
theorem next_eq_text
    (plain : ¬ (reading = .outside ∧ c = '/' ∧ (behind = some '/' ∨ behind = some '*'))) :
    (CommentLayer.text reading).next c behind = .text (reading.next c) := by
  unfold next
  split <;> simp_all

/-- What leads on in text opens no comment. -/
theorem not_marker_of_isText (text : ((CommentLayer.text reading).next c behind).isText = true) :
    ¬ (reading = .outside ∧ c = '/' ∧ (behind = some '/' ∨ behind = some '*')) := by
  rintro ⟨rfl, rfl, rfl | rfl⟩
  · cases text
  · cases text

/-- What is shown of a character leads on in the blanked text as the character does in the text,
whether what is behind it is shown or blanked. -/
theorem next_shown (same : shownBehind = behind ∨ shownBehind = some ' ') :
    (CommentLayer.text layer.reading).next (layer.shown (layer.next c behind) c) shownBehind =
      .text (layer.next c behind).reading := by
  rw [← reading_next]
  refine next_eq_text ?_
  cases plain : layer.isText && (layer.next c behind).isText with
  | false =>
    -- A blank or a line break opens nothing.
    rintro ⟨-, slash, -⟩
    rw [shown, plain, Bool.false_or] at slash
    split at slash
    · next line => simp [slash] at line
    · cases slash
  | true =>
    obtain ⟨here, ahead⟩ := (Bool.and_eq_true _ _).mp plain
    have shows : layer.shown (layer.next c behind) c = c := by
      rw [shown, plain, Bool.true_or, if_pos rfl]
    cases layer with
    | line | opening | block | closing => cases here
    | text reading =>
      rw [shows]
      rintro ⟨outside, slash, marker⟩
      refine not_marker_of_isText ahead ⟨outside, slash, ?_⟩
      rcases same with rfl | rfl
      · exact marker
      · simp at marker

end Step

section Blank

variable {layer : CommentLayer} {text masked : List Char}

/-- At every place, a blanked text is read as the text is where comments are blanked.

Induct on the text: each character that is shown leads on as the character does. -/
theorem layerAt_masked (read : layer.mask text = .ok masked) (place : Nat) :
    layerAt CommentLayer.next (.text layer.reading) masked place =
      .text (layerAt CommentLayer.next layer text place).reading := by
  induction text generalizing layer masked place with
  | nil =>
    obtain rfl := List.length_eq_zero_iff.mp (blanked_of_mask read).length_eq
    rfl
  | cons c rest inductionHypothesis =>
    obtain ⟨remaining, inside, rfl⟩ := map_eq_ok.mp read
    cases place with
    | zero => rfl
    | succ place =>
      rw [layerAt, layerAt, next_shown (blanked_of_mask inside).head?_or]
      exact inductionHypothesis inside place

/-- Blanking the comments of a blanked text changes nothing.

Induct on the text, with the two scans side by side. No character of the blanked text leads into a
comment, and so each is shown as it is. -/
theorem mask_masked (read : layer.mask text = .ok masked) :
    (CommentLayer.text layer.reading).mask masked = .ok masked := by
  induction text generalizing layer masked with
  | nil =>
    have closed := opensTemplate_behind_of_mask read
    obtain rfl := List.length_eq_zero_iff.mp (blanked_of_mask read).length_eq
    rw [Reading.behind_nil] at closed
    have none : (CommentLayer.text layer.reading).problem? = none := by
      rw [problem?, if_neg (Bool.eq_false_iff.mp closed)]
    rw [mask, none]
  | cons c rest inductionHypothesis =>
    obtain ⟨remaining, inside, rfl⟩ := map_eq_ok.mp read
    have next : (CommentLayer.text layer.reading).next (layer.shown (layer.next c rest.head?) c)
        remaining.head? = .text (layer.next c rest.head?).reading :=
      next_shown (blanked_of_mask inside).head?_or
    have shows : (CommentLayer.text layer.reading).shown (.text (layer.next c rest.head?).reading)
        (layer.shown (layer.next c rest.head?) c) = layer.shown (layer.next c rest.head?) c := rfl
    rw [mask, next, inductionHypothesis inside, shows]
    rfl

end Blank

end CommentLayer

/-- Every blanked text keeps the places of the text, its offsets and its lines. Where comments are
blanked no comment is left: at every place the blanked text is read outside of comments, as the text
is where it is no comment, and blanking it once more changes nothing. -/
theorem masked_exact (text : List Char) :
    (∀ masked, maskComments text = .ok masked →
      KeepsPlaces masked text ∧ maskComments masked = .ok masked ∧
        (∀ place, layerAt CommentLayer.next (.text .outside) masked place =
          .text (layerAt CommentLayer.next (.text .outside) text place).reading) ∧
        ∀ code, maskStrings masked = .ok code → KeepsPlaces code text) ∧
    ∀ code, maskStrings text = .ok code → KeepsPlaces code text := by
  constructor
  · intro masked read
    have blanked := CommentLayer.blanked_of_mask read
    refine ⟨blanked.keepsPlaces, CommentLayer.mask_masked read,
      CommentLayer.layerAt_masked read, fun code further => ?_⟩
    exact ((StringLayer.blanked_of_mask further).trans blanked).keepsPlaces
  · exact fun code read => (StringLayer.blanked_of_mask read).keepsPlaces

section Mixed

/-- A text with comments, and with markers of comments in literals. -/
def mixedText : List Char := "f('/*', `//`); // it's\n/*\"*/ g(/* ` */ 'x\ny');".toList

/-- The text without its comments. -/
def mixedCode : List Char := "f('/*', `//`);        \n      g(        'x\ny');".toList

/-- What is left without the contents of literals; the last two of them are left open. -/
def mixedShown : List Char := "f('  ', `  `);        \n      g(        ' \ny'  ".toList

theorem masked_mixed : maskComments mixedText = .ok mixedCode := by decide

theorem shown_mixed : maskStrings mixedCode = .ok mixedShown := by decide

theorem masked_exact_mixed :
    maskComments mixedText = .ok mixedCode ∧ KeepsPlaces mixedCode mixedText ∧
    maskComments mixedCode = .ok mixedCode ∧
    maskStrings mixedCode = .ok mixedShown ∧ KeepsPlaces mixedShown mixedCode ∧
    KeepsPlaces mixedShown mixedText := by
  obtain ⟨kept, settled, -, further⟩ := (masked_exact mixedText).1 mixedCode masked_mixed
  exact ⟨masked_mixed, kept, settled, shown_mixed,
    (masked_exact mixedCode).2 mixedShown shown_mixed, further mixedShown shown_mixed⟩

end Mixed

end Code

end FeatureLayout
