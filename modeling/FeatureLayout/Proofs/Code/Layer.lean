import FeatureLayout.Proofs.Code.Standing
import FeatureLayout.Proofs.Pattern.Shared

/-!
# The layers of a text

A scan goes through a text in layers, one for each place, and each character with the one behind it
leads from the layer of its place to the next one. What is shown of a character depends on the layers
next to it and on nothing else of the text.
-/

namespace FeatureLayout.Code

open Text

section Scan

variable {Layer : Type} (next : Layer → Char → Option Char → Layer)

/-- The layer at a place of a text that starts in a layer. -/
def layerAt : Layer → List Char → Nat → Layer
  | layer, [], _ => layer
  | layer, _ :: _, 0 => layer
  | layer, c :: rest, place + 1 => layerAt (next layer c rest.head?) rest place

variable {layer : Layer} {text : List Char} {place : Nat} {c : Char}

theorem layerAt_zero : layerAt next layer text 0 = layer := by
  cases text <;> rfl

/-- A character leads from the layer of its place to that of the next one. -/
theorem layerAt_succ (there : text[place]? = some c) :
    layerAt next layer text (place + 1) = next (layerAt next layer text place) c text[place + 1]? := by
  induction text generalizing layer place with
  | nil => cases there
  | cons d rest inductionHypothesis =>
    cases place with
    | zero =>
      obtain rfl := Option.some.inj there
      rw [layerAt_zero, layerAt, layerAt_zero, List.getElem?_cons_succ, List.head?_eq_getElem?]
    | succ place =>
      rw [layerAt, layerAt, List.getElem?_cons_succ]
      exact inductionHypothesis there

/-- From any place on, the layers are those of a text that starts in the layer of the place. -/
theorem layerAt_drop (count : Nat) :
    layerAt next (layerAt next layer text place) (text.drop place) count =
      layerAt next layer text (place + count) := by
  induction text generalizing layer place with
  | nil =>
    rw [List.drop_nil]
    rfl
  | cons d rest inductionHypothesis =>
    cases place with
    | zero => rw [layerAt_zero, List.drop_zero, Nat.zero_add]
    | succ place =>
      rw [Nat.add_right_comm]
      exact inductionHypothesis

/-- What characters lead to from the first layer holds of all layers. -/
theorem layerAt_preserves {holds : Layer → Prop}
    (kept : ∀ layer c behind, holds layer → holds (next layer c behind)) (start : holds layer) :
    holds (layerAt next layer text place) := by
  induction text generalizing layer place with
  | nil => exact start
  | cons d rest inductionHypothesis =>
    cases place with
    | zero => exact start
    | succ place => exact inductionHypothesis (kept layer d rest.head? start)

/-- A text from a place on starts with the character there. -/
theorem drop_eq_cons (there : text[place]? = some c) :
    text.drop place = c :: text.drop (place + 1) := by
  obtain ⟨inside, rfl⟩ := List.getElem?_eq_some_iff.mp there
  exact List.drop_eq_getElem_cons inside

/-- A way to blank a text that shows each character by the layer of its place and by what is behind
it. -/
def Masks (shown : Layer → Char → Option Char → Char)
    (mask : Layer → List Char → Except ScanProblem (List Char)) : Prop :=
  ∀ layer c rest, mask layer (c :: rest) =
    (mask (next layer c rest.head?) rest).map (shown layer c rest.head? :: ·)

variable {next} {shown : Layer → Char → Option Char → Char}
  {mask : Layer → List Char → Except ScanProblem (List Char)} {masked : List Char}

/-- From any place on, a text is shown as one that starts in the layer of the place. -/
theorem Masks.drop (masks : Masks next shown mask) (read : mask layer text = .ok masked)
    (inside : place ≤ text.length) :
    mask (layerAt next layer text place) (text.drop place) = .ok (masked.drop place) := by
  induction text generalizing layer masked place with
  | nil =>
    obtain rfl := Nat.le_zero.mp inside
    exact read
  | cons d rest inductionHypothesis =>
    cases place with
    | zero => exact read
    | succ place =>
      obtain ⟨remaining, further, rfl⟩ := map_eq_ok.mp ((masks layer d rest).symm.trans read)
      exact inductionHypothesis further (Nat.le_of_succ_le_succ inside)

/-- A character is shown by the layer of its place. -/
theorem Masks.getElem? (masks : Masks next shown mask) (read : mask layer text = .ok masked)
    (there : text[place]? = some c) :
    masked[place]? = some (shown (layerAt next layer text place) c text[place + 1]?) := by
  have inside := (List.getElem?_eq_some_iff.mp there).1
  have later := masks.drop read (Nat.le_of_lt inside)
  rw [drop_eq_cons there, masks] at later
  obtain ⟨remaining, -, same⟩ := map_eq_ok.mp later
  have head := congrArg List.head? same
  rw [List.head?_cons, List.head?_drop, List.head?_drop] at head
  exact head.symm

end Scan

namespace CommentLayer

theorem masks : Masks CommentLayer.next (fun layer c behind => layer.shown (layer.next c behind) c)
    mask :=
  fun _ _ _ => rfl

/-- What is shown of a character when comments are blanked. -/
theorem getElem?_of_mask {layer : CommentLayer} {text masked : List Char} {place : Nat} {c : Char}
    (read : layer.mask text = .ok masked) (there : text[place]? = some c) :
    masked[place]? = some ((layerAt CommentLayer.next layer text place).shown
      (layerAt CommentLayer.next layer text (place + 1)) c) := by
  rw [layerAt_succ _ there]
  exact masks.getElem? read there

end CommentLayer

namespace StringLayer

variable {layer : StringLayer} {text code : List Char} {place : Nat} {c : Char}

theorem masks : Masks StringLayer.next shown mask := fun _ _ _ => rfl

/-- What is shown of a character when the contents of literals are blanked. -/
theorem getElem?_of_mask (read : layer.mask text = .ok code) (there : text[place]? = some c) :
    code[place]? =
      some ((layerAt StringLayer.next layer text place).shown c text[place + 1]?) :=
  masks.getElem? read there

/-- A place of a text lies in code, and not in a literal. -/
def IsCodeAt (text : List Char) (place : Nat) : Prop :=
  (layerAt StringLayer.next (.flat .outside) text place).IsCode

/-- All layers of a text are layers that a text can lead to. -/
theorem Sound.layerAt (sound : layer.Sound) (text : List Char) (place : Nat) :
    (layerAt StringLayer.next layer text place).Sound :=
  layerAt_preserves _ (fun _ c behind sound => sound.next c behind) sound

/-- Code is shown as it is, up to a character that may end it and with this character. -/
theorem IsCode.shared (isCode : layer.IsCode) (read : layer.mask text = .ok code) :
    Shared isStill text code := by
  induction text generalizing layer code with
  | nil =>
    have nothing := (blanked_of_mask read).length_eq
    obtain rfl := List.length_eq_zero_iff.mp nothing
    exact .stop rfl rfl
  | cons c rest inductionHypothesis =>
    obtain ⟨remaining, further, rfl⟩ := map_eq_ok.mp read
    rw [isCode.shown_eq]
    cases still : isStill c with
    | true => exact .cons still (inductionHypothesis (isCode.next still) further)
    | false => exact .stop rfl still

/-- A dollar sign that is shown in front of a brace leads to code. -/
theorem isCode_next_of_dollar (sound : layer.Sound)
    (shows : layer.shown '$' (some '{') = '$') : (layer.next '$' (some '{')).IsCode := by
  by_cases isCode : layer.IsCode
  · exact isCode.next (by decide)
  · cases layer with
    | flat reading =>
      cases reading with
      | outside => exact absurd trivial isCode
      | inside quote escaped =>
        have other : ('$' == quote) = false := by
          by_contra same
          obtain rfl : '$' = quote := by simpa using same
          cases sound
        cases escaped <;> simp [shown, blanks, other, bne] at shows
    | template escaped =>
      cases escaped with
      | true => exact absurd shows (by decide)
      | false => trivial
    | hole depth reading => exact absurd trivial isCode

/-- The character in front of code is shown. -/
theorem shown_of_isCode_next {behind : Option Char} (isCode : (layer.next c behind).IsCode) :
    layer.shown c behind = c := by
  cases layer with
  | flat reading =>
    cases reading with
    | outside => rfl
    | inside quote escaped =>
      cases escaped with
      | true => exact isCode.elim
      | false =>
        by_cases closes : c = quote
        · simp [shown, blanks, closes]
        · by_cases line : c = '\n'
          · simp [shown, line]
          · by_cases slash : c = '\\'
            · simp [StringLayer.next, Reading.next, slash, IsCode] at isCode
            · simp [StringLayer.next, Reading.next, slash, closes, line, IsCode] at isCode
  | template escaped =>
    unfold StringLayer.next at isCode
    split at isCode <;> simp_all [shown, blanks, IsCode]
  | hole depth reading => rfl

end StringLayer

end FeatureLayout.Code
