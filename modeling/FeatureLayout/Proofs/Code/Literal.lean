import FeatureLayout.Proofs.Code.Layer
import FeatureLayout.Proofs.Index.Consistent
import Mathlib

/-!
# Specifiers and the literals of a text

The forms of imports ask for a specifier between quotes, and do not ask whether the statement around
it is code. A specifier is the whole content of a literal exactly when the quote in front of it
stands in code and no backslash at its end escapes the quote behind it. Its quotes are then shown
when the contents of literals are blanked, it is the same literal as another one or apart from it,
and no comment has been blanked in it when the quote in front of it opens a literal for the scan of
comments as well. When an apostrophe in markup makes the quotes change their roles, or when the
statement is part of a message, a specifier is found all the same.
-/

namespace FeatureLayout.Code

open Text Specifier

/-- Whether the last character of a text is a backslash that escapes what follows. -/
def escapes (text : List Char) : Bool :=
  text.foldl (fun escaped c => !escaped && c == '\\') false

section Inside

variable {Layer : Type} {next : Layer → Char → Option Char → Layer}
  {reading? : Layer → Option Reading}

/-- A scan that follows its literals to their ends. -/
def TracksLiterals (next : Layer → Char → Option Char → Layer)
    (reading? : Layer → Option Reading) : Prop :=
  ∀ layer quote escaped c behind, reading? layer = some (.inside quote escaped) →
    reading? (next layer c behind) = some ((Reading.inside quote escaped).next c)

/-- A scan that is inside of a literal stays there over a specifier. -/
theorem TracksLiterals.stays (tracks : TracksLiterals next reading?) {layer : Layer}
    {text inner : List Char} {quote : Char} {place : Nat} (isQuote : quote = '\'' ∨ quote = '"')
    (plain : ∀ c ∈ inner, isInner c = true)
    (opened : reading? (layerAt next layer text place) = some (.inside quote false))
    (stands : ∀ shift c escaped, inner[shift]? = some c →
      reading? (layerAt next layer text (place + shift)) = some (.inside quote escaped) →
        text[place + shift]? = some c) {count : Nat} (within : count ≤ inner.length) :
    reading? (layerAt next layer text (place + count)) =
      some (.inside quote (escapes (inner.take count))) := by
  induction count with
  | zero => exact opened
  | succ count inductionHypothesis =>
    have before := inductionHypothesis (Nat.le_of_succ_le within)
    have listed := List.getElem?_eq_getElem (Nat.lt_of_succ_le within)
    have there := stands count _ _ listed before
    rw [← Nat.add_assoc, layerAt_succ next there, tracks _ _ _ _ _ before,
      Reading.next_of_isInner isQuote (plain _ (List.getElem_mem _)), List.take_add_one, listed,
      escapes, escapes, Option.toList_some, List.foldl_append, List.foldl_cons, List.foldl_nil]

end Inside

namespace CommentLayer

/-- Where a place outside of comments stands with respect to literals. -/
def reading? : CommentLayer → Option Reading
  | .text reading => some reading
  | _ => none

theorem tracksLiterals : TracksLiterals CommentLayer.next reading? := by
  intro layer quote escaped c behind inside
  cases layer with
  | text reading =>
    obtain rfl := Option.some.inj inside
    rfl
  | line | opening | block | closing => cases inside

/-- A quote outside of literals opens one. -/
theorem opened_of_outside {layer : CommentLayer} (outside : layer.reading? = some .outside)
    {quote : Char} (isQuote : quote = '\'' ∨ quote = '"') (behind : Option Char) :
    (layer.next quote behind).reading? = some (.inside quote false) := by
  cases layer with
  | text reading =>
    obtain rfl := Option.some.inj outside
    rcases isQuote with rfl | rfl <;> rfl
  | line | opening | block | closing => cases outside

/-- What is inside of a literal is shown when comments are blanked. -/
theorem shown_of_inside {layer : CommentLayer} {quote c : Char} {escaped : Bool}
    {behind : Option Char} (inside : layer.reading? = some (.inside quote escaped)) :
    layer.shown (layer.next c behind) c = c := by
  cases layer with
  | text reading =>
    obtain rfl := Option.some.inj inside
    rfl
  | line | opening | block | closing => cases inside

/-- For the scan of comments, a place of a text stands outside of comments and literals. -/
def IsOutsideAt (text : List Char) (place : Nat) : Prop :=
  (layerAt CommentLayer.next (.text .outside) text place).reading? = some .outside

end CommentLayer

namespace StringLayer

/-- Where a place outside of the text of templates stands with respect to quoted literals. -/
def reading? : StringLayer → Option Reading
  | .flat reading | .hole _ reading => some reading
  | .template _ => none

theorem tracksLiterals : TracksLiterals StringLayer.next reading? := by
  intro layer quote escaped c behind inside
  cases layer with
  | flat reading | hole _ reading =>
    obtain rfl := Option.some.inj inside
    rfl
  | template escaped => cases inside

/-- Where a place of a text stands with respect to quoted literals. -/
def readingAt (text : List Char) (place : Nat) : Option Reading :=
  (layerAt StringLayer.next (.flat .outside) text place).reading?

/-- A place outside of literals is code. -/
theorem isCode_of_outside {layer : StringLayer} (outside : layer.reading? = some .outside) :
    layer.IsCode := by
  cases layer with
  | flat reading =>
    obtain rfl := Option.some.inj outside
    trivial
  | hole depth reading => trivial
  | template escaped => cases outside

/-- A quote in code opens a literal. -/
theorem opened_of_outside {layer : StringLayer} (outside : layer.reading? = some .outside)
    {quote : Char} (isQuote : quote = '\'' ∨ quote = '"') (behind : Option Char) :
    (layer.next quote behind).reading? = some (.inside quote false) := by
  cases layer with
  | flat reading | hole _ reading =>
    obtain rfl := Option.some.inj outside
    rcases isQuote with rfl | rfl <;> rfl
  | template escaped => cases outside

/-- The quote that closes a literal is shown. -/
theorem shown_of_closing {layer : StringLayer} {quote : Char}
    (inside : layer.reading? = some (.inside quote false)) (behind : Option Char) :
    layer.shown quote behind = quote := by
  cases layer with
  | flat reading =>
    obtain rfl := Option.some.inj inside
    simp [shown, blanks]
  | hole depth reading => rfl
  | template escaped => cases inside

end StringLayer

/-- A stretch of a text is the whole content of a quoted literal: the quote in front of it opens the
literal in code, and the quote behind it is the one that closes it. -/
structure IsContent (text : List Char) (quote : Char) (before : Nat) (span : Span) : Prop where
  start : span.start = before + 1
  forward : span.start ≤ span.stop
  opening : text[before]? = some quote
  outside : StringLayer.readingAt text before = some .outside
  inside : ∀ place, span.start ≤ place → place ≤ span.stop →
    ∃ escaped, StringLayer.readingAt text place = some (.inside quote escaped)
  closing : text[span.stop]? = some quote
  closed : StringLayer.readingAt text (span.stop + 1) = some .outside

/-- A stretch of a text is the whole content of some literal. -/
def IsLiteral (text : List Char) (span : Span) : Prop :=
  ∃ quote before, IsContent text quote before span

section Content

variable {text code inner : List Char} {quote : Char} {before : Nat} {span other : Span}

/-- No backslash escapes the quote that closes a literal. -/
theorem IsContent.unescaped (content : IsContent text quote before span) :
    StringLayer.readingAt text span.stop = some (.inside quote false) := by
  obtain ⟨escaped, inside⟩ := content.inside span.stop content.forward (Nat.le_refl _)
  have closed := content.closed
  rw [StringLayer.readingAt, layerAt_succ _ content.closing,
    StringLayer.tracksLiterals _ _ _ _ _ inside, Option.some_inj] at closed
  cases escaped with
  | true => cases closed
  | false => exact inside

/-- The quotes of a literal are shown when the contents of literals are blanked. -/
theorem IsContent.shown (content : IsContent text quote before span)
    (blanked : maskStrings text = .ok code) :
    code[before]? = some quote ∧ code[span.stop]? = some quote := by
  constructor
  · rw [StringLayer.getElem?_of_mask blanked content.opening,
      (StringLayer.isCode_of_outside content.outside).shown_eq]
  · rw [StringLayer.getElem?_of_mask blanked content.closing,
      StringLayer.shown_of_closing content.unescaped]

/-- Two literals of a text are the same one or apart. -/
theorem IsLiteral.apart (first : IsLiteral text span) (second : IsLiteral text other) :
    span = other ∨ span.stop < other.start ∨ other.stop < span.start := by
  obtain ⟨quote, before, one⟩ := first
  obtain ⟨quote', before', two⟩ := second
  have differs {quote : Char} {before place : Nat} {span : Span}
      (content : IsContent text quote before span)
      (outside : StringLayer.readingAt text place = some .outside) :
      ¬ (span.start ≤ place ∧ place ≤ span.stop) := by
    rintro ⟨late, early⟩
    obtain ⟨escaped, inside⟩ := content.inside place late early
    rw [outside] at inside
    cases inside
  have opening := differs one two.outside
  have closing := differs one two.closed
  have opening' := differs two one.outside
  have closing' := differs two one.closed
  have start := one.start
  have start' := two.start
  have forward := one.forward
  have forward' := two.forward
  obtain ⟨from₁, to₁⟩ := span
  obtain ⟨from₂, to₂⟩ := other
  dsimp only at *
  rw [Span.mk.injEq]
  omega

/-- A specifier is the content of a literal exactly when the quote in front of it stands in code and
nothing escapes the quote behind it. -/
theorem exists_isContent_iff (quoted : Quoted text span inner) :
    ∃ quote before, (quote = '\'' ∨ quote = '"') ∧ span.start = before + 1 ∧
      text[before]? = some quote ∧ text[span.stop]? = some quote ∧
      (IsContent text quote before span ↔
        StringLayer.readingAt text before = some .outside ∧ escapes inner = false) := by
  obtain ⟨quote, before, isQuote, rfl, opening, closing, stands⟩ := quoted.exists_places
  refine ⟨quote, before, isQuote, rfl, opening, closing, ?_⟩
  have run (outside : StringLayer.readingAt text before = some .outside) {count : Nat}
      (within : count ≤ inner.length) :
      StringLayer.readingAt text (before + 1 + count) =
        some (.inside quote (escapes (inner.take count))) := by
    refine StringLayer.tracksLiterals.stays isQuote quoted.plain ?_
      (fun shift c _ listed _ => stands shift c listed) within
    rw [layerAt_succ _ opening]
    exact StringLayer.opened_of_outside outside isQuote _
  constructor
  · intro content
    refine ⟨content.outside, ?_⟩
    have last := run content.outside (Nat.le_refl _)
    rw [List.take_length, content.unescaped] at last
    simpa using last.symm
  · rintro ⟨outside, unescaped⟩
    have last := run outside (Nat.le_refl _)
    rw [List.take_length, unescaped] at last
    refine ⟨rfl, Nat.le_add_right _ _, opening, outside, ?inside, closing, ?closed⟩
    case inside =>
      intro place late early
      obtain ⟨count, rfl⟩ := Nat.exists_eq_add_of_le late
      exact ⟨_, run outside (Nat.le_of_add_le_add_left early)⟩
    case closed =>
      rw [StringLayer.readingAt, layerAt_succ _ closing,
        StringLayer.tracksLiterals _ _ _ _ _ last]
      rcases isQuote with rfl | rfl <;> rfl

/-- When the scan of comments takes the quote in front of a specifier to open a literal, no comment
has been blanked in the specifier. -/
theorem of_eq_of_isOutsideAt {masked : List Char} (read : maskComments text = .ok masked)
    (quoted : Quoted masked span inner) (start : span.start = before + 1)
    (outside : CommentLayer.IsOutsideAt text before) : span.of text = inner := by
  have blanked := CommentLayer.blanked_of_mask read
  obtain ⟨quote, front, isQuote, rfl, first, -, shows⟩ := quoted.exists_places
  obtain rfl : front = before := Nat.succ.inj start
  have opening : text[front]? = some quote := by
    refine blanked.getElem?_eq first ?_
    rcases isQuote with rfl | rfl <;> decide
  have opened : (layerAt CommentLayer.next (.text .outside) text (front + 1)).reading? =
      some (.inside quote false) := by
    rw [layerAt_succ _ opening]
    exact CommentLayer.opened_of_outside outside isQuote _
  have stands (shift : Nat) (c : Char) (escaped : Bool) (listed : inner[shift]? = some c)
      (inside : (layerAt CommentLayer.next (.text .outside) text (front + 1 + shift)).reading? =
        some (.inside quote escaped)) : text[front + 1 + shift]? = some c := by
    have shown := shows shift c listed
    obtain ⟨d, there⟩ : ∃ d, text[front + 1 + shift]? = some d := by
      have within := (List.getElem?_eq_some_iff.mp shown).1
      rw [blanked.length_eq] at within
      exact ⟨_, List.getElem?_eq_getElem within⟩
    have same := CommentLayer.getElem?_of_mask read there
    rw [layerAt_succ _ there, CommentLayer.shown_of_inside inside, shown] at same
    rw [there, same]
  have whole (shift : Nat) (within : shift < inner.length) :
      text[front + 1 + shift]? = inner[shift]? := by
    have listed := List.getElem?_eq_getElem within
    rw [listed]
    exact stands shift _ _ listed
      (CommentLayer.tracksLiterals.stays isQuote quoted.plain opened stands (Nat.le_of_lt within))
  refine List.ext_getElem? fun shift => ?_
  rw [Span.of, slice, List.getElem?_drop]
  by_cases within : shift < inner.length
  · rw [List.getElem?_take_of_lt (Nat.add_lt_add_left within _), whole shift within]
  · rw [List.getElem?_eq_none (Nat.le_of_not_lt within), List.getElem?_eq_none]
    rw [List.length_take]
    dsimp only
    omega

end Content

/-- The specifier of every import stands between quotes in the text without comments. It is the
content of a literal exactly when the quote in front of it stands in code and nothing escapes the
quote behind it. Then both quotes are shown when the contents of literals are blanked, and the
specifier is apart from every other literal, so that replacing it changes none of them. No comment
has been blanked in it when the scan of comments takes the quote in front of it to open a literal. -/
theorem Module.specifiers_literal {path : String} {text : List Char} {found : Module}
    (read : Module.ofText text path = .ok found) {imported : Import}
    (listed : imported ∈ found.imports) :
    ∃ masked quote before, maskComments text = .ok masked ∧ (quote = '\'' ∨ quote = '"') ∧
      imported.span.start = before + 1 ∧ masked[before]? = some quote ∧
      masked[imported.span.stop]? = some quote ∧
      imported.span.of masked = imported.specifier.toList ∧
      (CommentLayer.IsOutsideAt text before →
        imported.span.of text = imported.specifier.toList) ∧
      (IsContent masked quote before imported.span ↔
        StringLayer.readingAt masked before = some .outside ∧
          escapes imported.specifier.toList = false) ∧
      (IsContent masked quote before imported.span →
        (∀ code, maskStrings masked = .ok code →
          code[before]? = some quote ∧ code[imported.span.stop]? = some quote) ∧
        ∀ other, IsLiteral masked other →
          imported.span = other ∨ imported.span.stop < other.start ∨
            other.stop < imported.span.start) := by
  obtain ⟨masked, blanked, imports⟩ := exists_ofText_iff.mp ⟨found, read, rfl⟩
  rw [← imports] at listed
  have quoted := Import.quoted_of_mem_ofText listed
  obtain ⟨quote, before, isQuote, start, opening, closing, literal⟩ := exists_isContent_iff quoted
  refine ⟨masked, quote, before, blanked, isQuote, start, opening, closing, quoted.of_eq,
    of_eq_of_isOutsideAt blanked quoted start, literal, fun content => ⟨?shown, ?apart⟩⟩
  case shown => exact fun code shown => content.shown shown
  case apart => exact fun other also => IsLiteral.apart ⟨quote, before, content⟩ also

section Messages

/-- A text with a message in front of an import. -/
def greetingText : String := "log('it is'); import './b';"

theorem masked_greeting : maskComments greetingText.toList = .ok greetingText.toList := by
  cbv

theorem ofText_greeting : ∃ found, Module.ofText greetingText.toList "a.ts" = .ok found ∧
    found.imports = [⟨"./b", ["*"], 1, ⟨22, 25⟩, false, false⟩] :=
  Module.exists_ofText_iff.mpr ⟨_, masked_greeting, by cbv⟩

theorem specifiers_literal_greeting :
    (∃ found, Module.ofText greetingText.toList "a.ts" = .ok found ∧
      found.imports = [⟨"./b", ["*"], 1, ⟨22, 25⟩, false, false⟩]) ∧
    IsContent greetingText.toList '\'' 21 ⟨22, 25⟩ ∧
    Span.of ⟨22, 25⟩ greetingText.toList = "./b".toList := by
  obtain ⟨found, parsed, imports⟩ := ofText_greeting
  obtain ⟨masked, quote, before, read, -, start, opening, -, -, same, literal, -⟩ :=
    Module.specifiers_literal parsed (imports ▸ List.mem_singleton_self _)
  obtain rfl := Except.ok.inj (masked_greeting.symm.trans read)
  obtain rfl : 21 = before := Nat.succ.inj start
  obtain rfl : '\'' = quote := Option.some.inj opening
  exact ⟨ofText_greeting, literal.mpr ⟨by decide, by decide⟩, same rfl⟩

/-- A message that mentions an import. -/
def hintText : String := "export const HINT = \"import './theme'\";"

/-- The message with the contents of its literal blanked. -/
def hintCode : List Char := "export const HINT = \"                \";".toList

/-- Markup with an apostrophe in front of an import. -/
def apostropheText : String := "<p>don't</p>; import('./a/*b*/c');"

/-- The specifier that is found in a message is a piece of a literal, and behind an apostrophe in
markup a stretch is blanked that is part of a specifier. -/
theorem specifiers_misread :
    (∃ found, Module.ofText hintText.toList "utils/hint.ts" = .ok found ∧
      found.imports = [⟨"./theme", ["*"], 1, ⟨29, 36⟩, false, false⟩]) ∧
    maskComments hintText.toList = .ok hintText.toList ∧
    maskStrings hintText.toList = .ok hintCode ∧ hintText.toList[28]? = some '\'' ∧
    hintCode[28]? = some ' ' ∧ ¬ IsLiteral hintText.toList ⟨29, 36⟩ ∧
    (∃ found, Module.ofText apostropheText.toList "pages/Home.tsx" = .ok found ∧
      found.imports = [⟨"./a     c", ["*"], 1, ⟨22, 31⟩, false, true⟩]) ∧
    Span.of ⟨22, 31⟩ apostropheText.toList = "./a/*b*/c".toList := by
  have masked : maskComments hintText.toList = .ok hintText.toList := by cbv
  have blanked : maskStrings hintText.toList = .ok hintCode := by cbv
  refine ⟨?hint, masked, blanked, rfl, rfl, ?piece, ?apostrophe, by decide⟩
  case hint => exact Module.exists_ofText_iff.mpr ⟨_, masked, by cbv⟩
  case piece =>
    rintro ⟨quote, before, content⟩
    obtain rfl : 28 = before := Nat.succ.inj content.start
    have shown := (content.shown blanked).1
    have there := content.opening
    obtain rfl : '\'' = quote := Option.some.inj there
    exact absurd shown (by decide)
  case apostrophe =>
    have comment : maskComments apostropheText.toList =
        .ok "<p>don't</p>; import('./a     c');".toList := by
      cbv
    exact Module.exists_ofText_iff.mpr ⟨_, comment, by cbv⟩

end Messages

end FeatureLayout.Code
