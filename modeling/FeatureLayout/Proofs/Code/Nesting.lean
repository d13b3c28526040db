import FeatureLayout.Proofs.Code.Layer

/-!
# Literals inside of templates

A template holds text and expressions, an expression is code and may hold literals, and these may be
templates again. What is open at a place is a stack: a literal and what it stands in, from the
inside out.

The scan that blanks the contents of literals keeps no stack. It shows an expression as it is, with
the literals in it, and passes over these from quote to quote without a look at what they hold. It
agrees with the stack on what is the contents of a literal outside of expressions as long as no
literal stands in an expression of a template that itself stands in an expression.
-/

namespace FeatureLayout.Code

open Text

/-- What may be open at a place of a text. -/
inductive Frame where
  /-- A quoted literal; `escaped` right after a backslash. -/
  | quoted (quote : Char) (escaped : Bool)
  /-- The text of a template; `escaped` right after a backslash. -/
  | template (escaped : Bool)
  /-- An expression inside a template, below `depth` open braces. -/
  | expression (depth : Nat)
  deriving DecidableEq, Repr

namespace Frame

/-- Whether the characters in a frame are the contents of a literal. -/
def isLiteral : Frame → Bool
  | .expression _ => false
  | _ => true

/-- What is open after a character of code. -/
def enter (frames : List Frame) (c : Char) : List Frame :=
  if c = '`' then .template false :: frames
  else if isQuote c then .quoted c false :: frames
  else frames

/-- What is open after one more character, which the character behind it may decide. -/
def next : List Frame → Char → Option Char → List Frame
  | [], c, _ => enter [] c
  | .quoted quote true :: outer, _, _ => .quoted quote false :: outer
  | .quoted quote false :: outer, c, _ =>
    if c = '\\' then .quoted quote true :: outer
    else if c = quote ∨ c = '\n' then outer
    else .quoted quote false :: outer
  | .template true :: outer, _, _ => .template false :: outer
  | .template false :: outer, c, behind =>
    if c = '\\' then .template true :: outer
    else if c = '`' then outer
    else if c = '$' ∧ behind = some '{' then .expression 0 :: .template false :: outer
    else .template false :: outer
  | .expression depth :: outer, c, _ =>
    if c = '{' then .expression (depth + 1) :: outer
    else if c = '}' then if depth ≤ 1 then outer else .expression (depth - 1) :: outer
    else enter (.expression depth :: outer) c

end Frame

/-- What is open at a place of a text, from the inside out. -/
def openAt (text : List Char) (place : Nat) : List Frame := layerAt Frame.next [] text place

/-- A place lies in the contents of a literal, whatever the literal stands in. -/
def InLiteral (text : List Char) (place : Nat) : Prop :=
  ∃ frame outer, openAt text place = frame :: outer ∧ frame.isLiteral = true

/-- A place lies in the contents of a literal that stands in no expression. -/
def InOuterLiteral (text : List Char) (place : Nat) : Prop :=
  ∃ frame, openAt text place = [frame] ∧ frame.isLiteral = true

/-- A place lies in code, be it in an expression of a template. -/
def InCode (text : List Char) (place : Nat) : Prop :=
  openAt text place = [] ∨ ∃ depth outer, openAt text place = .expression depth :: outer

/-- No literal stands in an expression of a template that itself stands in an expression. -/
def Shallow (text : List Char) : Prop :=
  ∀ place ≤ text.length, (openAt text place).length ≤ 4

instance (text : List Char) : Decidable (Shallow text) :=
  inferInstanceAs (Decidable (∀ place ≤ text.length, (openAt text place).length ≤ 4))

section Open

variable {text : List Char} {place : Nat}

theorem inLiteral_iff :
    InLiteral text place ↔ (openAt text place).head?.any Frame.isLiteral = true := by
  unfold InLiteral
  cases openAt text place <;> simp

theorem inOuterLiteral_iff : InOuterLiteral text place ↔
    (openAt text place).tail = [] ∧ (openAt text place).head?.any Frame.isLiteral = true := by
  unfold InOuterLiteral
  cases openAt text place <;> simp [and_comm]

instance : Decidable (InLiteral text place) := decidable_of_iff' _ inLiteral_iff

instance : Decidable (InOuterLiteral text place) := decidable_of_iff' _ inOuterLiteral_iff

/-- Code and the contents of literals are all that there is. -/
theorem inCode_iff : InCode text place ↔ ¬ InLiteral text place := by
  unfold InCode InLiteral
  cases openAt text place with
  | nil => simp
  | cons frame outer => cases frame <;> simp [Frame.isLiteral]

theorem InOuterLiteral.inLiteral (inside : InOuterLiteral text place) : InLiteral text place := by
  obtain ⟨frame, same, literal⟩ := inside
  exact ⟨frame, [], same, literal⟩

end Open

/-- What is open and the layer of the scan belong together. A template in an expression is one
literal to the scan, and so is an expression in it. -/
inductive Agrees : List Frame → StringLayer → Prop
  | code : Agrees [] (.flat .outside)
  | quoted {quote : Char} (escaped : Bool) (single : quote ≠ '`') :
    Agrees [.quoted quote escaped] (.flat (.inside quote escaped))
  | template (escaped : Bool) : Agrees [.template escaped] (.template escaped)
  | expression (depth : Nat) :
    Agrees [.expression depth, .template false] (.hole depth .outside)
  | nestedQuoted {quote : Char} (escaped : Bool) (depth : Nat) (single : quote ≠ '`') :
    Agrees [.quoted quote escaped, .expression depth, .template false]
      (.hole depth (.inside quote escaped))
  | nestedTemplate (escaped : Bool) (depth : Nat) :
    Agrees [.template escaped, .expression depth, .template false]
      (.hole depth (.inside '`' escaped))
  | nestedExpression (inner depth : Nat) (escaped : Bool) :
    Agrees [.expression inner, .template false, .expression depth, .template false]
      (.hole depth (.inside '`' escaped))

namespace Agrees

variable {frames : List Frame} {layer : StringLayer} {c : Char} {behind : Option Char}

/-- A character that is no backtick leads on in code as it does without templates. -/
theorem next_flat (plain : c ≠ '`') : (StringLayer.flat .outside).next c behind =
    .flat (if isQuote c then .inside c false else .outside) := by
  have next : (StringLayer.flat .outside).next c behind = .flat (Reading.outside.next c) := by
    unfold StringLayer.next
    split <;> simp_all
  rw [next, Reading.next]

/-- The text of a template goes on over a character that starts no escape and no expression and does
not close the template. -/
theorem next_text (slash : c ≠ '\\') (tick : c ≠ '`') (leads : ¬ (c = '$' ∧ behind = some '{')) :
    (StringLayer.template false).next c behind = .template false := by
  unfold StringLayer.next
  split <;> simp_all

/-- In an expression, a character that is no brace leads on as in code. -/
theorem next_hole {depth : Nat} (opening : c ≠ '{') (closing : c ≠ '}') :
    (StringLayer.hole depth .outside).next c behind =
      .hole depth (if isQuote c then .inside c false else .outside) := by
  have next : (StringLayer.hole depth .outside).next c behind =
      .hole depth (Reading.outside.next c) := by
    unfold StringLayer.next
    split <;> simp_all
  rw [next, Reading.next]

/-- Inside of a literal, the scan of an expression reads on. -/
theorem next_nested {depth : Nat} {quote : Char} {escaped : Bool} :
    (StringLayer.hole depth (.inside quote escaped)).next c behind =
      .hole depth ((Reading.inside quote escaped).next c) := by
  unfold StringLayer.next
  split <;> simp_all

/-- A quoted literal goes on or ends, in the stack as in the reading. -/
theorem next_quoted {quote : Char} (single : quote ≠ '`') (escaped : Bool) (outer : List Frame)
    (c : Char) (behind : Option Char) :
    (∃ later, (Reading.inside quote escaped).next c = .inside quote later ∧
      Frame.next (.quoted quote escaped :: outer) c behind = .quoted quote later :: outer) ∨
    ((Reading.inside quote escaped).next c = .outside ∧
      Frame.next (.quoted quote escaped :: outer) c behind = outer) := by
  cases escaped with
  | true => exact Or.inl ⟨false, rfl, rfl⟩
  | false =>
    rw [Reading.next, Frame.next]
    by_cases slash : c = '\\'
    · exact Or.inl ⟨true, if_pos slash, if_pos slash⟩
    · by_cases ends : c = quote ∨ c = '\n'
      · right
        rw [if_neg slash, if_neg slash, if_pos ends]
        refine ⟨?_, rfl⟩
        rcases ends with closes | line
        · exact if_pos closes
        · have both : c = '\n' ∧ quote ≠ '`' := ⟨line, single⟩
          rw [if_pos both, ite_self]
      · left
        obtain ⟨other, inLine⟩ := not_or.mp ends
        refine ⟨false, ?_, ?_⟩
        · rw [if_neg slash, if_neg other, if_neg (fun both => inLine both.1)]
        · rw [if_neg slash, if_neg ends]

/-- Up to a backtick, the scan of an expression stays in the template that it reads as a literal. -/
theorem next_passed (escaped : Bool) (plain : c ≠ '`') :
    ∃ later, (Reading.inside '`' escaped).next c = .inside '`' later ∧
      (c ≠ '\\' → later = false) := by
  cases escaped with
  | true => exact ⟨false, rfl, fun _ => rfl⟩
  | false =>
    rw [Reading.next]
    by_cases slash : c = '\\'
    · exact ⟨true, if_pos slash, fun other => absurd slash other⟩
    · refine ⟨false, ?_, fun _ => rfl⟩
      rw [if_neg slash, if_neg plain, if_neg (fun both => both.2 rfl)]

/-- A character leads on alike, as long as no literal is opened too deep. -/
theorem next (agrees : Agrees frames layer) (shallow : (Frame.next frames c behind).length ≤ 4) :
    Agrees (Frame.next frames c behind) (layer.next c behind) := by
  cases agrees with
  | code =>
    simp only [Frame.next, Frame.enter]
    split_ifs with tick quote
    · subst tick
      exact .template false
    · rw [next_flat tick, if_pos quote]
      exact .quoted false tick
    · rw [next_flat tick, if_neg quote]
      exact .code
  | @quoted quote escaped single =>
    have step : (StringLayer.flat (.inside quote escaped)).next c behind =
        .flat ((Reading.inside quote escaped).next c) := rfl
    rw [step]
    rcases next_quoted single escaped [] c behind with ⟨later, reads, opens⟩ | ⟨reads, opens⟩
    · rw [reads, opens]
      exact .quoted later single
    · rw [reads, opens]
      exact .code
  | template escaped =>
    cases escaped with
    | true => exact .template false
    | false =>
      rw [Frame.next]
      split_ifs with slash tick leads
      · subst slash
        exact .template true
      · subst tick
        exact .code
      · obtain ⟨rfl, rfl⟩ := leads
        exact .expression 0
      · rw [next_text slash tick leads]
        exact .template false
  | expression depth =>
    rw [Frame.next]
    by_cases opening : c = '{'
    · rw [if_pos opening]
      subst opening
      exact .expression (depth + 1)
    · rw [if_neg opening]
      by_cases closing : c = '}'
      · rw [if_pos closing]
        subst closing
        rw [StringLayer.next]
        split_ifs
        · exact .template false
        · exact .expression (depth - 1)
      · rw [if_neg closing, next_hole opening closing, Frame.enter]
        split_ifs with tick quote quote
        · subst tick
          exact .nestedTemplate false depth
        · subst tick
          exact absurd rfl quote
        · exact .nestedQuoted false depth tick
        · exact .expression depth
  | @nestedQuoted quote escaped depth single =>
    rw [next_nested]
    rcases next_quoted single escaped [.expression depth, .template false] c behind with
      ⟨later, reads, opens⟩ | ⟨reads, opens⟩
    · rw [reads, opens]
      exact .nestedQuoted later depth single
    · rw [reads, opens]
      exact .expression depth
  | nestedTemplate escaped depth =>
    rw [next_nested]
    cases escaped with
    | true => exact .nestedTemplate false depth
    | false =>
      rw [Frame.next]
      split_ifs with slash tick leads
      · subst slash
        exact .nestedTemplate true depth
      · subst tick
        exact .expression depth
      · obtain ⟨rfl, rfl⟩ := leads
        exact .nestedExpression 0 depth false
      · obtain ⟨later, reads, still⟩ := next_passed false tick
        rw [reads, still slash]
        exact .nestedTemplate false depth
  | nestedExpression inner depth escaped =>
    rw [next_nested]
    rw [Frame.next] at shallow ⊢
    have tick : c ≠ '`' := by
      rintro rfl
      simp [Frame.enter] at shallow
    obtain ⟨later, reads, still⟩ := next_passed escaped tick
    rw [reads]
    by_cases opening : c = '{'
    · rw [if_pos opening]
      exact .nestedExpression (inner + 1) depth later
    · rw [if_neg opening] at shallow ⊢
      by_cases closing : c = '}'
      · rw [if_pos closing]
        subst closing
        rw [still (by decide)]
        split_ifs
        · exact .nestedTemplate false depth
        · exact .nestedExpression (inner - 1) depth false
      · rw [if_neg closing, Frame.enter, if_neg tick] at shallow ⊢
        split_ifs at shallow ⊢ with quote
        · simp at shallow
        · exact .nestedExpression inner depth later

/-- The scan shows a character outside of the literals that stand in no expression, and only there.
-/
theorem isCode_iff (agrees : Agrees frames layer) :
    layer.IsCode ↔ ¬ ∃ frame, frames = [frame] ∧ frame.isLiteral = true := by
  cases agrees <;> simp [StringLayer.IsCode, Frame.isLiteral]

end Agrees

/-- What is open and the layer of the scan belong together at every place. -/
theorem agrees_openAt {text : List Char} (shallow : Shallow text) {place : Nat}
    (inside : place ≤ text.length) :
    Agrees (openAt text place) (layerAt StringLayer.next (.flat .outside) text place) := by
  induction place with
  | zero =>
    rw [openAt, layerAt_zero, layerAt_zero]
    exact .code
  | succ place inductionHypothesis =>
    have there := List.getElem?_eq_getElem (Nat.lt_of_succ_le inside)
    have deep := shallow (place + 1) inside
    rw [openAt, layerAt_succ _ there] at deep ⊢
    rw [layerAt_succ _ there]
    exact (inductionHypothesis (Nat.le_of_succ_le inside)).next deep

/-- The scan takes for code what is not the contents of a literal outside of expressions. -/
theorem isCodeAt_iff {text : List Char} (shallow : Shallow text) {place : Nat}
    (inside : place ≤ text.length) :
    StringLayer.IsCodeAt text place ↔ ¬ InOuterLiteral text place :=
  (agrees_openAt shallow inside).isCode_iff

namespace StringLayer

section Shown

variable {layer : StringLayer} {text code name : List Char} {place : Nat} {c : Char}

theorem isWord_of_isQuote (quote : isQuote c = true) : isWord c = false := by
  simp only [isQuote, Bool.or_eq_true, beq_iff_eq] at quote
  rcases quote with (rfl | rfl) | rfl <;> decide

/-- No word character is shown of the contents of a literal. -/
theorem isWord_shown (sound : layer.Sound) (hidden : ¬ layer.IsCode) (c : Char)
    (behind : Option Char) : isWord (layer.shown c behind) = false := by
  cases blanked : layer.blanks c behind && c != '\n' with
  | true => simp only [shown, blanked, if_true]; decide
  | false =>
    simp only [shown, blanked, Bool.false_eq_true, if_false]
    by_cases line : c = '\n'
    · subst line
      decide
    · have kept : layer.blanks c behind = false := by simpa [line] using blanked
      cases layer with
      | flat reading =>
        cases reading with
        | outside => exact absurd trivial hidden
        | inside quote escaped =>
          have closes : c = quote := by
            cases escaped <;> simp_all [blanks]
          subst closes
          exact isWord_of_isQuote sound
      | template escaped =>
        cases escaped with
        | true => cases kept
        | false =>
          simp only [blanks, Bool.not_eq_false', Bool.or_eq_true, Bool.and_eq_true,
            beq_iff_eq] at kept
          rcases kept with rfl | ⟨rfl, -⟩
          · decide
          · decide
      | hole depth reading => exact absurd trivial hidden

/-- What is code is shown as it is. -/
theorem getElem?_of_isCodeAt (read : maskStrings text = .ok code) (isCode : IsCodeAt text place) :
    code[place]? = text[place]? := by
  cases there : text[place]? with
  | none =>
    have length := (blanked_of_mask read).length_eq
    rw [List.getElem?_eq_none_iff] at there ⊢
    omega
  | some c => rw [getElem?_of_mask read there, isCode.shown_eq]

/-- What is the contents of a literal shows no word characters. -/
theorem isWord_of_not_isCodeAt (read : maskStrings text = .ok code)
    (hidden : ¬ IsCodeAt text place) (shows : code[place]? = some c) : isWord c = false := by
  have inside := (List.getElem?_eq_some_iff.mp shows).1
  rw [(blanked_of_mask read).length_eq] at inside
  rw [getElem?_of_mask read (List.getElem?_eq_getElem inside)] at shows
  rw [← Option.some.inj shows]
  have sound : (StringLayer.flat .outside).Sound := trivial
  exact isWord_shown (sound.layerAt text place) hidden _ _

/-- A name that starts in code is in code up to its end. -/
theorem isCodeAt_add (whole : IsWhole name)
    (letters : ∀ shift c, name[shift]? = some c → text[place + shift]? = some c)
    (isCode : IsCodeAt text place) {shift : Nat} (inside : shift ≤ name.length) :
    IsCodeAt text (place + shift) := by
  induction shift with
  | zero => exact isCode
  | succ shift inductionHypothesis =>
    have before := inductionHypothesis (Nat.le_of_succ_le inside)
    have there := letters shift _ (List.getElem?_eq_getElem (Nat.lt_of_succ_le inside))
    rw [IsCodeAt, ← Nat.add_assoc, layerAt_succ _ there]
    exact before.next (isStill_of_isNameChar (whole.letters _ (List.getElem_mem _)))

/-- A name that is shown starts in code. -/
theorem isCodeAt_of_standsAt (whole : IsWhole name) (read : maskStrings text = .ok code)
    (stands : StandsAt name code place) : IsCodeAt text place := by
  obtain ⟨c, others, starts⟩ := List.exists_cons_of_ne_nil whole.ne_nil
  have letter : isNameChar c = true := whole.letters c (starts ▸ List.mem_cons_self)
  have shows := stands.letters 0 c (by rw [starts]; rfl)
  have blanked := blanked_of_mask read
  have filled : c ≠ ' ' := ne_of_isNameChar letter (by decide)
  have there := blanked.getElem?_eq shows filled
  rw [Nat.add_zero] at shows there
  rw [getElem?_of_mask read there] at shows
  have sound : (StringLayer.flat .outside).Sound := trivial
  refine isCode_of_shown (sound.layerAt text place) (isStill_of_isNameChar letter) filled
    (ne_of_isNameChar letter (by decide)) ?_ (Option.some.inj shows)
  -- A dollar sign is no whole name, and so another letter of the name is behind it.
  rintro rfl behind
  cases others with
  | nil =>
    obtain ⟨d, last, word⟩ := whole.last
    rw [starts] at last
    obtain rfl := Option.some.inj last
    exact absurd word (by decide)
  | cons d more =>
    have also := whole.letters d (by simp [starts])
    have next := blanked.getElem?_eq (stands.letters 1 d (by rw [starts]; rfl))
      (ne_of_isNameChar also (by decide))
    rw [next] at behind
    obtain rfl := Option.some.inj behind
    exact absurd also (by decide)

/-- The names that are shown are those that stand in code. -/
theorem standsAt_shown_iff (whole : IsWhole name) (read : maskStrings text = .ok code) :
    StandsAt name code place ↔ StandsAt name text place ∧ IsCodeAt text place := by
  have blanked := blanked_of_mask read
  constructor
  · intro stands
    have isCode := isCodeAt_of_standsAt whole read stands
    have letters (shift : Nat) (c : Char) (there : name[shift]? = some c) :
        text[place + shift]? = some c :=
      blanked.getElem?_eq (stands.letters shift c there)
        (ne_of_isNameChar (whole.letters c (List.mem_of_getElem? there)) (by decide))
    refine ⟨⟨letters, ?fresh, ?ends⟩, isCode⟩
    case fresh =>
      intro before c same there
      subst same
      rw [IsCodeAt, layerAt_succ _ there] at isCode
      refine stands.fresh before c rfl ?_
      rw [getElem?_of_mask read there, shown_of_isCode_next isCode]
    case ends =>
      intro c there
      refine stands.ends c ?_
      rwa [getElem?_of_isCodeAt read (isCodeAt_add whole letters isCode (Nat.le_refl _))]
  · rintro ⟨stands, isCode⟩
    refine stands.of_blanked blanked fun shift c there => ?_
    have inside := Nat.le_of_lt (List.getElem?_eq_some_iff.mp there).1
    rw [getElem?_of_isCodeAt read (isCodeAt_add whole stands.letters isCode inside)]
    exact stands.letters shift c there

end Shown

end StringLayer

end FeatureLayout.Code
