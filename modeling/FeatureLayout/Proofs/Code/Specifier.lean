import FeatureLayout.Code.Import
import FeatureLayout.Proofs.Pattern.Search

/-!
# Specifiers between quotes

A specifier fits its pattern in one way: it is all that stands between a quote and the next one. Two
specifiers of one text are therefore the same or apart. When a specifier of safe characters is
replaced by another one, the pattern goes on fitting everywhere else as before.
-/

namespace FeatureLayout

open Text Pattern

namespace Specifier

/-- The characters that may stand between the quotes. -/
def isInner (c : Char) : Bool := c != '\'' && c != '"' && c != '\n'

/-- The characters of safe specifiers. -/
def isSafeChar (c : Char) : Bool := c.isAlphanum || ['@', '~', '.', '_', '-', '/'].contains c

/-- Whether a text ends in a word. -/
def EndsInWord (word text : List Char) : Prop :=
  ∃ front, text = front ++ word ∧ ∀ c, front.getLast? = some c → isWord c = false

/-- Whether replacing a specifier by another one that is safe as well changes nothing else. -/
structure IsSafe (specifier : List Char) : Prop where
  nonempty : specifier ≠ []
  letters : ∀ c ∈ specifier, isSafeChar c = true
  /-- No line comment starts in it. -/
  slashes : ¬ ['/', '/'] <:+: specifier
  /-- No import starts in it. -/
  word : ¬ EndsInWord "import".toList specifier

/-- What does not end in some letters does not end in the word. -/
theorem not_endsInWord {word text : List Char} (other : ¬ word <:+ text) : ¬ EndsInWord word text :=
  fun ⟨front, same, _⟩ => other ⟨front, same.symm⟩

/-- Safe characters are printed ASCII characters from the hyphen on. -/
theorem toNat_of_isSafeChar {c : Char} (safe : isSafeChar c = true) :
    0x2d ≤ c.toNat ∧ c.toNat ≤ 0x7e := by
  simp only [isSafeChar, Bool.or_eq_true, List.contains_iff_mem, List.mem_cons, List.not_mem_nil,
    or_false] at safe
  rcases safe with letter | rfl | rfl | rfl | rfl | rfl | rfl
  · have ranges : c.isAlphanum = (decide ('A'.val ≤ c.val ∧ c.val ≤ 'Z'.val) ||
        (decide ('a'.val ≤ c.val) && decide (c.val ≤ 'z'.val)) ||
        (decide ('0'.val ≤ c.val) && decide (c.val ≤ '9'.val))) := rfl
    rw [ranges] at letter
    simp only [Bool.or_eq_true, Bool.and_eq_true, decide_eq_true_eq,
      UInt32.le_iff_toNat_le] at letter
    have same : c.toNat = c.val.toNat := rfl
    rw [same]
    rcases letter with (⟨low, high⟩ | ⟨low, high⟩) | ⟨low, high⟩
    all_goals
      simp at low high
      omega
  all_goals decide

theorem isBlank_of_isSafeChar {c : Char} (safe : isSafeChar c = true) : isBlank c = false := by
  obtain ⟨low, high⟩ := toNat_of_isSafeChar safe
  simp [isBlank]
  omega

theorem ne_of_isSafeChar {c other : Char} (safe : isSafeChar c = true)
    (refused : isSafeChar other = false) : c ≠ other := by
  rintro rfl
  rw [safe] at refused
  cases refused

theorem isInner_of_isSafeChar {c : Char} (safe : isSafeChar c = true) : isInner c = true := by
  have single : c ≠ '\'' := ne_of_isSafeChar safe (by decide)
  have double : c ≠ '"' := ne_of_isSafeChar safe (by decide)
  have line : c ≠ '\n' := ne_of_isSafeChar safe (by decide)
  simp [isInner, single, double, line]

/-- A specifier with its quotes at a place, and the text behind it. -/
structure Follows (quote : Char) (text inner rest : List Char) : Prop where
  text : text = quote :: (inner ++ quote :: rest)
  nonempty : inner ≠ []
  plain : ∀ c ∈ inner, isInner c = true

/-- A specifier between quotes, at its place in a text. -/
def Quoted (text : List Char) (span : Span) (inner : List Char) : Prop :=
  ∃ quote front rest, (quote = '\'' ∨ quote = '"') ∧
    Follows quote (quote :: (inner ++ quote :: rest)) inner rest ∧
    text = front ++ quote :: (inner ++ quote :: rest) ∧
    span = ⟨front.length + 1, front.length + 1 + inner.length⟩

theorem isInner_quote {quote : Char} (isQuote : quote = '\'' ∨ quote = '"') :
    isInner quote = false := by
  rcases isQuote with rfl | rfl <;> rfl

namespace Quoted

variable {text inner other : List Char} {span second : Span}

/-- A span is as long as its specifier. -/
theorem stop_eq (quoted : Quoted text span inner) : span.stop = span.start + inner.length := by
  obtain ⟨quote, front, rest, -, -, -, rfl⟩ := quoted
  rfl

/-- A specifier is what its span covers. -/
theorem of_eq (quoted : Quoted text span inner) : span.of text = inner := by
  obtain ⟨quote, front, rest, -, -, rfl, rfl⟩ := quoted
  have opened : front ++ quote :: (inner ++ quote :: rest) =
      (front ++ [quote]) ++ (inner ++ quote :: rest) := by
    simp
  have length : front.length + 1 = (front ++ [quote]).length := by simp
  rw [Span.of, slice, opened, length, List.take_length_add_append, List.drop_left, List.take_left]

/-- A specifier is made of characters of specifiers. -/
theorem plain (quoted : Quoted text span inner) : ∀ c ∈ inner, isInner c = true := by
  obtain ⟨_, _, _, -, follows, -, -⟩ := quoted
  exact follows.plain

/-- A specifier stands behind a quote, character for character, and in front of the same quote. -/
theorem exists_places (quoted : Quoted text span inner) :
    ∃ quote before, (quote = '\'' ∨ quote = '"') ∧ span = ⟨before + 1, before + 1 + inner.length⟩ ∧
      text[before]? = some quote ∧ text[before + 1 + inner.length]? = some quote ∧
      ∀ shift c, inner[shift]? = some c → text[before + 1 + shift]? = some c := by
  obtain ⟨quote, front, rest, isQuote, -, rfl, rfl⟩ := quoted
  have ahead (shift : Nat) : (front ++ quote :: (inner ++ quote :: rest))[front.length + shift]? =
      (quote :: (inner ++ quote :: rest))[shift]? := by
    rw [List.getElem?_append_right (Nat.le_add_right _ _), Nat.add_sub_cancel_left]
  refine ⟨quote, front.length, isQuote, rfl, ahead 0, ?_, fun shift c listed => ?_⟩
  · rw [Nat.add_assoc, ahead, Nat.add_comm 1, List.getElem?_cons_succ,
      List.getElem?_append_right (Nat.le_refl _), Nat.sub_self]
    rfl
  · rw [Nat.add_assoc, ahead, Nat.add_comm 1, List.getElem?_cons_succ,
      List.getElem?_append_left (List.getElem?_eq_some_iff.mp listed).1, listed]

/-- A specifier stands between two characters that stand in none. -/
theorem around (quoted : Quoted text span inner) :
    0 < span.start ∧ (∃ c, text[span.start - 1]? = some c ∧ isInner c = false) ∧
      ∃ c, text[span.stop]? = some c ∧ isInner c = false := by
  obtain ⟨quote, before, isQuote, rfl, opening, closing, -⟩ := quoted.exists_places
  exact ⟨Nat.succ_pos _, ⟨quote, opening, isInner_quote isQuote⟩, quote, closing,
    isInner_quote isQuote⟩

/-- A text goes on behind its specifiers. -/
theorem stop_lt_length (quoted : Quoted text span inner) : span.stop < text.length := by
  obtain ⟨-, -, c, closing, -⟩ := quoted.around
  exact (List.getElem?_eq_some_iff.mp closing).1

/-- Between its ends there are only characters of specifiers. -/
theorem inside (quoted : Quoted text span inner) {place : Nat} (behind : span.start ≤ place)
    (before : place < span.stop) : ∃ c, text[place]? = some c ∧ isInner c = true := by
  obtain ⟨quote, front, -, rfl, -, -, stands⟩ := quoted.exists_places
  obtain ⟨shift, rfl⟩ := Nat.exists_eq_add_of_le behind
  have within : shift < inner.length := by
    dsimp only at before
    omega
  exact ⟨_, stands shift _ (List.getElem?_eq_getElem within),
    quoted.plain _ (List.getElem_mem within)⟩

/-- A specifier does not contain the end of another one. -/
theorem start_le_of_stop (quoted : Quoted text span inner) {place : Nat} {c : Char}
    (found : text[place]? = some c) (refused : isInner c = false) :
    place < span.start ∨ span.stop ≤ place := by
  by_contra within
  obtain ⟨behind, before⟩ : span.start ≤ place ∧ place < span.stop := by omega
  obtain ⟨d, there, plain⟩ := quoted.inside behind before
  obtain rfl := Option.some.inj (found.symm.trans there)
  rw [plain] at refused
  cases refused

/-- Two specifiers of a text are the same one or apart. -/
theorem apart (first : Quoted text span inner) (later : Quoted text second other) :
    span = second ∨ span.stop < second.start ∨ second.stop < span.start := by
  obtain ⟨positive, ⟨c, opening, opens⟩, d, closing, closes⟩ := first.around
  obtain ⟨also, ⟨c', opening', opens'⟩, d', closing', closes'⟩ := later.around
  have fromOpening := later.start_le_of_stop opening opens
  have fromClosing := later.start_le_of_stop closing closes
  have toOpening := first.start_le_of_stop opening' opens'
  have toClosing := first.start_le_of_stop closing' closes'
  have length := first.stop_eq
  have length' := later.stop_eq
  obtain ⟨start, stop⟩ := span
  obtain ⟨start', stop'⟩ := second
  dsimp only at *
  rw [Span.mk.injEq]
  omega

end Quoted

section Form

theorem specifierIn_eq (quote : Char) : Code.Import.specifierIn quote =
    .seq (.one (· == quote))
      (.seq (.capture .specifier (.seq (.one isInner) (.run isInner))) (.one (· == quote))) := rfl

variable {quote : Char} (refused : isInner quote = false)

include refused

/-- Two stretches without quotes up to a quote are the same stretch. -/
theorem append_inj {first second left right : List Char} (plain : ∀ c ∈ first, isInner c = true)
    (also : ∀ c ∈ second, isInner c = true)
    (same : first ++ quote :: left = second ++ quote :: right) : first = second ∧ left = right := by
  have taken (part remaining : List Char) (plain : ∀ c ∈ part, isInner c = true) :
      (part ++ quote :: remaining).takeWhile isInner = part := by
    rw [List.takeWhile_append_of_pos plain, List.takeWhile_cons_of_neg (by simp [refused]),
      List.append_nil]
  have whole : first = second := by
    rw [← taken first left plain, same, taken second right also]
  subst whole
  exact ⟨rfl, (List.cons.inj (List.append_cancel_left same)).2⟩

/-- A specifier between quotes fits in one way, and is captured. -/
theorem successes_specifierIn {cursor : Cursor} {inner rest : List Char}
    (follows : Follows quote cursor.ahead inner rest)
    (captured : List (Captured Code.Import.Part)) :
    (Code.Import.specifierIn quote).successes ⟨cursor, captured⟩ =
      [⟨⟨some quote, rest, cursor.offset + inner.length + 2⟩,
        ⟨.specifier, ⟨cursor.offset + 1, cursor.offset + 1 + inner.length⟩, inner⟩ ::
          captured⟩] := by
  obtain ⟨before, ahead, offset⟩ := cursor
  obtain ⟨rfl, nonempty, plain⟩ := follows
  obtain ⟨c, others, rfl⟩ := List.exists_cons_of_ne_nil nonempty
  have fits : isInner c = true := plain c List.mem_cons_self
  have stops : ∀ d, (d == quote) = true → isInner d = false := by
    intro d same
    rw [beq_iff_eq.mp same]
    exact refused
  have runs : (Pattern.seq (.run isInner) (.one (· == quote))).successes
      ⟨⟨some c, others ++ quote :: rest, offset + 2⟩, captured⟩ =
        [⟨⟨some quote, rest, offset + 2 + others.length + 1⟩, captured⟩] :=
    successes_run_one stops (fun d listed => plain d (List.mem_cons_of_mem c listed))
      (beq_self_eq_true quote) (some c) rest (offset + 2) captured
  rw [specifierIn_eq, successes_seq, successes_one (· == quote) (beq_self_eq_true quote),
    List.flatMap_singleton, successes_capture_one, successes_seq_assoc, successes_seq,
    List.cons_append, successes_one isInner fits, List.flatMap_singleton, runs]
  have stop : offset + 2 + others.length + 1 = offset + (c :: others).length + 2 := by
    rw [List.length_cons]
    omega
  have length : offset + 2 + others.length + 1 - 1 = offset + 1 + (c :: others).length := by
    rw [List.length_cons]
    omega
  have taken : (c :: (others ++ quote :: rest)).take
      (offset + 1 + (c :: others).length - (offset + 1)) = c :: others := by
    rw [Nat.add_sub_cancel_left, ← List.cons_append, List.take_left]
  rw [List.map_cons, List.map_nil]
  dsimp only
  rw [length, taken, stop]

omit refused in
/-- Where a specifier between quotes fits, there is one. -/
theorem exists_of_mem_specifierIn {start found : Reached Code.Import.Part}
    (listed : found ∈ (Code.Import.specifierIn quote).successes start) :
    ∃ inner rest, Follows quote start.cursor.ahead inner rest := by
  rw [specifierIn_eq] at listed
  obtain ⟨opened, opening, listed⟩ := List.mem_flatMap.mp listed
  obtain ⟨c, ahead, shape, same, rfl⟩ := mem_one.mp opening
  obtain rfl := beq_iff_eq.mp same
  rw [successes_capture_one] at listed
  obtain ⟨closed, listed, -⟩ := List.mem_map.mp listed
  rw [successes_seq_assoc] at listed
  obtain ⟨entered, entering, listed⟩ := List.mem_flatMap.mp listed
  obtain ⟨d, remaining, more, fits, rfl⟩ := mem_one.mp entering
  obtain ⟨passed, last, rest, further, all, ends⟩ := exists_of_mem_run_one listed
  obtain rfl := beq_iff_eq.mp ends
  dsimp only at shape more further
  refine ⟨d :: passed, rest, ?_, List.cons_ne_nil _ _, List.forall_mem_cons.mpr ⟨fits, all⟩⟩
  rw [shape, more, further, List.cons_append]

end Form

end Specifier

/-- A hole that is filled with safe specifiers. -/
structure Hole.IsSafe (hole : Hole) : Prop where
  quote : hole.quote = '\'' ∨ hole.quote = '"'
  old : Specifier.IsSafe hole.old
  new : Specifier.IsSafe hole.new

namespace Hole.IsSafe

open Specifier Code.Import

variable {hole : Hole} (safe : hole.IsSafe)

include safe

theorem swap : hole.swap.IsSafe := ⟨safe.quote, safe.new, safe.old⟩

/-- A specifier that starts in front of the hole or behind it stands there in both texts. One that
starts at the hole is replaced, and one that ends at the hole leads into it. -/
theorem follows {quote : Char} (refused : isInner quote = false) {first second : Cursor}
    (places : hole.Beside first second) {inner rest : List Char}
    (follows : Follows quote first.ahead inner rest) :
    ∃ other further, Follows quote second.ahead other further ∧
      hole.Landed ⟨some quote, rest, first.offset + inner.length + 2⟩
        ⟨some quote, further, second.offset + other.length + 2⟩ ∧
      hole.Moved ⟨first.offset + 1, first.offset + 1 + inner.length⟩ inner
        ⟨second.offset + 1, second.offset + 1 + other.length⟩ other := by
  obtain ⟨text, nonempty, plain⟩ := follows
  have old : ∀ c ∈ hole.old, isInner c = true := fun c listed =>
    isInner_of_isSafeChar (safe.old.letters c listed)
  have new : ∀ c ∈ hole.new, isInner c = true := fun c listed =>
    isInner_of_isSafeChar (safe.new.letters c listed)
  cases places with
  | behind before remaining place offset other past offsetAt otherAt =>
    refine ⟨inner, rest, ⟨text, nonempty, plain⟩,
      .beside (.behind _ _ (place + inner.length + 2) _ _ (by omega) ?_ ?_),
      .behind (place + 1) _ _ _ (by omega) ?_ ?_ rfl rfl⟩
    all_goals
      dsimp only
      omega
  | ahead before front offset leads =>
    cases front with
    | nil =>
      obtain ⟨rfl, same⟩ := List.cons.inj text
      obtain ⟨rfl, rfl⟩ := append_inj refused old plain same
      have starts : offset + 1 = hole.start := leads
      refine ⟨hole.new, hole.back, ⟨rfl, safe.new.nonempty, new⟩, .beside (.behind _ _
        (hole.start + 1) _ _ (Nat.lt_succ_self _) ?_ ?_), ?_⟩
      · dsimp only
        omega
      · dsimp only
        omega
      · dsimp only
        rw [starts]
        exact .whole
    | cons c more =>
      obtain ⟨rfl, same⟩ := List.cons.inj text
      have outside : hole.quote ∉ inner := fun listed => by
        have refuses := isInner_quote safe.quote
        rw [plain _ listed] at refuses
        cases refuses
      obtain ⟨between, whole, split⟩ := exists_append_of_not_mem same outside
      have length : offset + (inner.length + between.length + 1) + 1 = hole.start := by
        rw [← leads, whole, List.length_cons, List.length_append]
      have early : offset + 1 + inner.length < hole.start := by omega
      cases between with
      | nil =>
        obtain ⟨quoted, rfl⟩ := List.cons.inj split.symm
        refine ⟨inner, hole.new ++ hole.quote :: hole.back, ⟨?_, nonempty, plain⟩, ?_,
          .ahead _ _ early⟩
        · simp [whole, around, quoted]
        · have lands : offset + inner.length + 2 = hole.start := by
            simp only [List.length_nil] at length
            omega
          dsimp only
          rw [lands, ← quoted]
          exact .within
      | cons d others =>
        obtain ⟨rfl, rfl⟩ := List.cons.inj split.symm
        refine ⟨inner, others ++ hole.around hole.new, ⟨?_, nonempty, plain⟩,
          .beside (.ahead _ _ _ ?_), .ahead _ _ early⟩
        · simp [whole]
        · simp only [List.length_cons] at length
          dsimp only
          omega

/-- A specifier between quotes is a stable pattern. -/
theorem stable_specifierIn {quote : Char} (refused : isInner quote = false) :
    Stable (hole.Remembered .specifier) hole.Beside hole.Landed (specifierIn quote) := by
  refine stable_of_forms
    (fun cursor (form : List Char × List Char) => Follows quote cursor.ahead form.1 form.2)
    (fun cursor form => ⟨some quote, form.2, cursor.offset + form.1.length + 2⟩)
    (fun cursor form =>
      [⟨.specifier, ⟨cursor.offset + 1, cursor.offset + 1 + form.1.length⟩, form.1⟩]) ?_ ?_ ?_ ?_
  · intro cursor form captured follows
    exact successes_specifierIn refused follows captured
  · intro cursor captured some
    obtain ⟨found, listed⟩ := List.exists_mem_of_ne_nil _ some
    obtain ⟨inner, rest, follows⟩ := exists_of_mem_specifierIn listed
    exact ⟨⟨inner, rest⟩, follows⟩
  · intro first second form places follows
    obtain ⟨inner, rest, there, landed, moved⟩ := safe.follows refused places follows
    exact ⟨⟨inner, rest⟩, there, landed, .cons ⟨rfl, fun _ => moved⟩ .nil⟩
  · intro first second form places follows
    obtain ⟨inner, rest, there, -⟩ := safe.swap.follows refused places.swap follows
    exact ⟨⟨inner, rest⟩, there⟩

/-- A specifier is a stable pattern. -/
theorem stable_specifierPattern :
    Stable (hole.Remembered .specifier) hole.Beside hole.Landed specifierPattern :=
  (safe.stable_specifierIn rfl).either (safe.stable_specifierIn rfl)

end Hole.IsSafe

end FeatureLayout
