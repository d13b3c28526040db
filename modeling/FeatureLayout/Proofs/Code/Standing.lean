import FeatureLayout.Proofs.Code.Comments
import FeatureLayout.Proofs.Text.Words
import FeatureLayout.Code.Strings

/-!
# Names that stand in a text

A name stands at a place when it continues no longer name there and no word character follows. What
is made of such names, and of other characters that neither open nor close literals or braces, is
code as a whole when its first character is: such characters lead from code to code.
-/

namespace FeatureLayout.Code

open Text

/-- A name that a search can find as a whole: it is made of the characters of names, and its last
one is a word character. -/
structure IsWhole (name : List Char) : Prop where
  letters : ∀ c ∈ name, isNameChar c = true
  last : ∃ c, name.getLast? = some c ∧ isWord c = true

/-- A name stands at a place of a text: it continues no longer name, and no word character follows.
-/
structure StandsAt (name text : List Char) (place : Nat) : Prop where
  letters : ∀ shift c, name[shift]? = some c → text[place + shift]? = some c
  fresh : ∀ before c, place = before + 1 → text[before]? = some c → isNameChar c = false
  ends : ∀ c, text[place + name.length]? = some c → isWord c = false

theorem IsWhole.ne_nil {name : List Char} (whole : IsWhole name) : name ≠ [] := by
  rintro rfl
  obtain ⟨c, last, -⟩ := whole.last
  cases last

/-- A name starts with a character that is no blank. -/
theorem IsWhole.exists_head {name : List Char} (whole : IsWhole name) :
    ∃ c, name.head? = some c ∧ c ≠ ' ' ∧ c ≠ '\n' := by
  obtain ⟨c, others, first⟩ := List.exists_cons_of_ne_nil whole.ne_nil
  have letter := whole.letters c (first ▸ List.mem_cons_self)
  exact ⟨c, by rw [first]; rfl, ne_of_isNameChar letter (by decide),
    ne_of_isNameChar letter (by decide)⟩

/-- A name stands at a place when it is ahead of it, behind no character that it could continue and
in front of no word character. -/
theorem standsAt_append_iff {front text name : List Char} :
    StandsAt name (front ++ text) front.length ↔ front.getLast?.any isNameChar = false ∧
      ∃ rest, text = name ++ rest ∧ rest.head?.any isWord = false := by
  have ahead (shift : Nat) : (front ++ text)[front.length + shift]? = text[shift]? := by
    rw [List.getElem?_append_right (Nat.le_add_right _ _), Nat.add_sub_cancel_left]
  have behind {before : Nat} (place : front.length = before + 1) :
      (front ++ text)[before]? = front.getLast? := by
    rw [List.getElem?_append_left (by omega), List.getLast?_eq_getElem?, place, Nat.add_sub_cancel]
  constructor
  · intro stands
    constructor
    · cases place : front.length with
      | zero =>
        rw [List.length_eq_zero_iff.mp place]
        rfl
      | succ before =>
        cases last : front.getLast? with
        | none => rfl
        | some c => exact stands.fresh before c place ((behind place).trans last)
    · obtain ⟨rest, same⟩ : name <+: text := by
        refine List.prefix_iff_getElem?.mpr fun shift inside => ?_
        rw [← ahead]
        exact stands.letters shift _ (List.getElem?_eq_getElem inside)
      refine ⟨rest, same.symm, ?_⟩
      have next := ahead name.length
      rw [← same, List.getElem?_append_right (Nat.le_refl _), Nat.sub_self] at next
      cases rest with
      | nil => rfl
      | cons c others => exact stands.ends c (same ▸ next)
  · rintro ⟨fresh, rest, rfl, edge⟩
    constructor
    case letters =>
      intro shift c there
      rw [ahead, List.getElem?_append_left (List.getElem?_eq_some_iff.mp there).1, there]
    case fresh =>
      intro before c place there
      rw [behind place] at there
      rw [there] at fresh
      exact fresh
    case ends =>
      intro c there
      rw [ahead, List.getElem?_append_right (Nat.le_refl _), Nat.sub_self] at there
      rw [List.head?_eq_getElem?, there] at edge
      exact edge

/-- A name stands in what is shown of a text when all of it is shown. -/
theorem StandsAt.of_blanked {shown text name : List Char} {place : Nat}
    (stands : StandsAt name text place) (blanked : Blanked shown text)
    (letters : ∀ shift c, name[shift]? = some c → shown[place + shift]? = some c) :
    StandsAt name shown place := by
  constructor
  case letters => exact letters
  case fresh =>
    intro before c same there
    by_cases blank : c = ' '
    · rw [blank]
      decide
    · exact stands.fresh before c same (blanked.getElem?_eq there blank)
  case ends =>
    intro c there
    by_cases blank : c = ' '
    · rw [blank]
      decide
    · exact stands.ends c (blanked.getElem?_eq there blank)

namespace StringLayer

/-- Whether a character neither opens nor closes literals or braces. -/
def isStill (c : Char) : Bool := !isQuote c && c != '{' && c != '}'

/-- A layer that a text can lead to. -/
def Sound : StringLayer → Prop
  | .flat reading => reading.Sound
  | .hole _ reading => reading.Sound
  | .template _ => True

/-- A layer whose characters are shown. -/
def IsCode : StringLayer → Prop
  | .flat .outside => True
  | .hole _ _ => True
  | _ => False

variable {layer : StringLayer} {c : Char} {behind : Option Char}

theorem isStill_iff : isStill c = true ↔ isQuote c = false ∧ c ≠ '{' ∧ c ≠ '}' := by
  simp [isStill, and_assoc]

theorem isStill_of_isNameChar (letter : isNameChar c = true) : isStill c = true := by
  have other (refused : Char) (rejected : isNameChar refused = false) : c ≠ refused :=
    ne_of_isNameChar letter rejected
  refine isStill_iff.mpr ⟨?_, other '{' (by decide), other '}' (by decide)⟩
  simp [isQuote, other '\'' (by decide), other '"' (by decide), other '`' (by decide)]

theorem Sound.next (sound : layer.Sound) (c : Char) (behind : Option Char) :
    (layer.next c behind).Sound := by
  unfold StringLayer.next
  split
  · trivial
  · exact Reading.Sound.next sound c
  · trivial
  · trivial
  · trivial
  · trivial
  · trivial
  · trivial
  · split
    · trivial
    · trivial
  · exact Reading.Sound.next sound c

/-- The characters of code are shown. -/
theorem IsCode.shown_eq (code : layer.IsCode) (c : Char) (behind : Option Char) :
    layer.shown c behind = c := by
  cases layer with
  | flat reading =>
    cases reading with
    | outside => rfl
    | inside quote escaped => exact code.elim
  | template escaped => exact code.elim
  | hole depth reading => rfl

/-- Characters that open and close nothing lead from code to code. -/
theorem IsCode.next (code : layer.IsCode) (still : isStill c = true) :
    (layer.next c behind).IsCode := by
  obtain ⟨plain, opening, closing⟩ := isStill_iff.mp still
  cases layer with
  | flat reading =>
    cases reading with
    | outside =>
      have next : (StringLayer.flat .outside).next c behind = .flat (Reading.outside.next c) := by
        unfold StringLayer.next
        split <;> simp_all [isQuote]
      rw [next, Reading.next, plain]
      trivial
    | inside quote escaped => exact code.elim
  | template escaped => exact code.elim
  | hole depth reading =>
    have next : (StringLayer.hole depth reading).next c behind =
        .hole depth (reading.next c) := by
      unfold StringLayer.next
      split <;> simp_all
    rw [next]
    trivial

/-- A character that opens and closes nothing is shown in code only, a blank and the dollar sign in
front of an expression apart. -/
theorem isCode_of_shown (sound : layer.Sound) (still : isStill c = true) (filled : c ≠ ' ')
    (line : c ≠ '\n') (plain : c = '$' → behind ≠ some '{') (shows : layer.shown c behind = c) :
    layer.IsCode := by
  obtain ⟨apart, -, -⟩ := isStill_iff.mp still
  have kept : layer.blanks c behind = false := by
    cases hidden : layer.blanks c behind with
    | false => rfl
    | true =>
      rw [shown, hidden, Bool.true_and, if_pos (by simpa using line)] at shows
      exact absurd shows.symm filled
  cases layer with
  | flat reading =>
    cases reading with
    | outside => trivial
    | inside quote escaped =>
      have other : c ≠ quote := by
        rintro rfl
        exact absurd sound (by simp [Sound, Reading.Sound, apart])
      cases escaped with
      | true => simp [blanks, other] at kept
      | false => simp [blanks, other] at kept
  | template escaped =>
    have tick : c ≠ '`' := by
      rintro rfl
      exact absurd apart (by decide)
    cases escaped with
    | true => simp [blanks] at kept
    | false =>
      simp only [blanks, Bool.not_eq_false', Bool.or_eq_true, Bool.and_eq_true, beq_iff_eq] at kept
      rcases kept with same | ⟨dollar, brace⟩
      · exact absurd same tick
      · exact absurd brace (plain dollar)
  | hole depth reading => trivial

/-- Code that opens and closes nothing is shown as it is. -/
theorem IsCode.mask_append (code : layer.IsCode) {word rest masked : List Char}
    (still : ∀ c ∈ word, isStill c = true) (read : layer.mask (word ++ rest) = .ok masked) :
    ∃ more, masked = word ++ more := by
  induction word generalizing layer masked with
  | nil => exact ⟨masked, rfl⟩
  | cons c letters inductionHypothesis =>
    obtain ⟨remaining, inside, rfl⟩ := map_eq_ok.mp read
    obtain ⟨more, rfl⟩ := inductionHypothesis (code.next (still c List.mem_cons_self))
      (fun d listed => still d (List.mem_cons_of_mem c listed)) inside
    exact ⟨more, by rw [code.shown_eq, List.cons_append]⟩

/-- What opens and closes nothing is shown as a whole when its first character is shown. -/
theorem Sound.exists_append_of_mask (sound : layer.Sound) {front word rest masked : List Char}
    (still : ∀ c ∈ word, isStill c = true)
    (first : ∃ c letters, word = c :: letters ∧ c ≠ ' ' ∧ c ≠ '\n' ∧
      (c = '$' → (letters ++ rest).head? ≠ some '{'))
    (read : layer.mask (front ++ (word ++ rest)) = .ok masked)
    (shows : masked[front.length]? = word.head?) :
    ∃ before more, masked = before ++ (word ++ more) ∧ before.length = front.length := by
  induction front generalizing layer masked with
  | nil =>
    obtain ⟨c, letters, rfl, filled, line, plain⟩ := first
    have code : layer.IsCode := by
      obtain ⟨remaining, -, rfl⟩ := map_eq_ok.mp read
      exact isCode_of_shown sound (still c List.mem_cons_self) filled line plain
        (Option.some.inj shows)
    obtain ⟨more, rfl⟩ := code.mask_append still read
    exact ⟨[], more, rfl, rfl⟩
  | cons d others inductionHypothesis =>
    rw [List.cons_append] at read
    obtain ⟨remaining, inside, rfl⟩ := map_eq_ok.mp read
    obtain ⟨before, more, rfl, length⟩ := inductionHypothesis (sound.next d _) inside shows
    exact ⟨_ :: before, more, rfl, congrArg (· + 1) length⟩

end StringLayer

end FeatureLayout.Code
