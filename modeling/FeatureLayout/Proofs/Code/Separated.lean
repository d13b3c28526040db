import FeatureLayout.Proofs.Code.Brackets

/-!
# What stands between the arguments of a call

A comma separates two arguments of a call when a walk from the parenthesis on, which passes every
literal as a whole, comes to it with no other bracket open. The arguments of a call are what is left
between its separators when blanks are taken off at the ends: they stand in a row, no separator is in
one of them, and nothing but blanks and separators is outside of them. So nothing that is written in
a call is lost, and nothing belongs to two of its arguments.
-/

namespace FeatureLayout.Code

open Text

section Place

variable {text : List Char} {start place : Nat}

/-- The stretch up to a place ends with the character in front of the place. -/
theorem slice_succ {first : Nat} (forward : first ≤ place) {c : Char}
    (there : text[place]? = some c) : slice text first (place + 1) = slice text first place ++ [c] := by
  have inside := (List.getElem?_eq_some_iff.mp there).1
  rw [slice, slice, List.take_add_one, there, Option.toList_some, List.drop_append_of_le_length]
  rw [List.length_take, Nat.min_eq_left (Nat.le_of_lt inside)]
  exact forward

/-- The brackets of two texts, one behind the other. -/
theorem brackets_append (reading : Reading) (front back : List Char) :
    brackets reading (front ++ back) =
      brackets reading front ++ brackets (reading.behind front) back := by
  induction front generalizing reading with
  | nil => rfl
  | cons c rest inductionHypothesis =>
    rw [List.cons_append, brackets, brackets, Reading.behind_cons, inductionHypothesis]
    split <;> rfl

/-- Where a place behind the parenthesis of a call stands. -/
def readingAt (text : List Char) (start place : Nat) : Reading :=
  Reading.outside.behind (slice text (start + 1) place)

/-- How many brackets are open at a place behind the parenthesis of a call, the parenthesis
included. -/
def depthAt (text : List Char) (start place : Nat) : Int :=
  1 + level (bracketsBetween text start place)

theorem readingAt_succ (behind : start < place) {c : Char} (there : text[place]? = some c) :
    readingAt text start (place + 1) = (readingAt text start place).next c := by
  rw [readingAt, slice_succ behind there, Reading.behind_append]
  rfl

theorem depthAt_succ (behind : start < place) {c : Char} (there : text[place]? = some c) :
    depthAt text start (place + 1) = depthAt text start place +
      if readingAt text start place = .outside then depthChange c else 0 := by
  rw [depthAt, bracketsBetween, slice_succ behind there, brackets_append, level_append,
    ← bracketsBetween, ← readingAt, ← Int.add_assoc, ← depthAt, level_brackets_cons, brackets,
    level_nil, Int.add_zero]

@[simp] theorem readingAt_start : readingAt text start (start + 1) = .outside := by
  simp [readingAt, slice_eq_take]

@[simp] theorem depthAt_start : depthAt text start (start + 1) = 1 := by
  simp [depthAt, bracketsBetween, slice_eq_take, brackets]

end Place

/-- A walk from the parenthesis of a call on comes to a place, with some brackets open. It goes over
characters of code one by one, and over literals as a whole. -/
inductive Reaches (text : List Char) (start : Nat) : Nat → Int → Prop where
  | opened : Reaches text start (start + 1) 1
  | code {place : Nat} {depth : Int} {c : Char} (earlier : Reaches text start place depth)
    (there : text[place]? = some c) (plain : isQuote c = false) :
    Reaches text start (place + 1) (depth + depthChange c)
  | literal {place stop : Nat} {depth : Int} {c : Char} (earlier : Reaches text start place depth)
    (there : text[place]? = some c) (quote : isQuote c = true)
    (ends : literalEnd text place = some (.ok stop)) : Reaches text start stop depth

/-- A comma separates two arguments of a call: it stands in code, in no other brackets than those of
the call. -/
def Separates (text : List Char) (start place : Nat) : Prop :=
  text[place]? = some ',' ∧ Reaches text start place 1

section Literal

variable {quote c : Char} {escaped : Bool} {rest : List Char}

/-- A literal ends with its quote or in front of a line break. -/
theorem Reading.next_inside_cases (quote : Char) (escaped : Bool) (c : Char) :
    (∃ also, (Reading.inside quote escaped).next c = .inside quote also) ∨
      (Reading.inside quote escaped).next c = .outside ∧ escaped = false ∧
        (c = quote ∨ c = '\n' ∧ quote ≠ '`') := by
  cases escaped with
  | true => exact Or.inl ⟨false, rfl⟩
  | false =>
    rw [Reading.next]
    split_ifs with slash same line
    · exact Or.inl ⟨true, rfl⟩
    · exact Or.inr ⟨rfl, rfl, Or.inl same⟩
    · exact Or.inr ⟨rfl, rfl, Or.inr line⟩
    · exact Or.inl ⟨false, rfl⟩

theorem literalLength_of_outside (ended : (Reading.inside quote escaped).next c = .outside) :
    literalLength (.inside quote escaped) (c :: rest) = .ok (if c = quote then 1 else 0) := by
  rw [literalLength, ended]

theorem literalLength_of_inside {also : Bool}
    (stays : (Reading.inside quote escaped).next c = .inside quote also) :
    literalLength (.inside quote escaped) (c :: rest) =
      (literalLength (.inside quote also) rest).map (· + 1) := by
  rw [literalLength, stays]

/-- A quote is no bracket. -/
theorem depthChange_of_isQuote (isQuote : isQuote c = true) : depthChange c = 0 := by
  simp only [Code.isQuote, Bool.or_eq_true, beq_iff_eq] at isQuote
  rcases isQuote with (rfl | rfl) | rfl <;> rfl

end Literal

section Reach

variable {text : List Char} {start place : Nat} {depth : Int} {quote : Char} {escaped : Bool}

/-- A place stands in code, or in front of the line break or the end of the text that ends a quoted
literal. -/
def IsFree (text : List Char) (start place : Nat) : Prop :=
  readingAt text start place = .outside ∨
    ∃ quote escaped, readingAt text start place = .inside quote escaped ∧
      ∀ c, text[place]? = some c → c = '\n' ∧ (Reading.inside quote escaped).next c = .outside

/-- Behind a literal, a place is free, and as many brackets are open as in front of it. -/
theorem isFree_behind {length : Nat} (behind : start < place)
    (inside : readingAt text start place = .inside quote escaped)
    (measured : literalLength (.inside quote escaped) (text.drop place) = .ok length) :
    IsFree text start (place + length) ∧
      depthAt text start (place + length) = depthAt text start place := by
  generalize left : text.drop place = rest at measured
  induction rest generalizing place escaped length with
  | nil =>
    rw [literalLength] at measured
    split_ifs at measured
    obtain rfl := Except.ok.inj measured
    have none : text[place]? = none := by
      rw [← Nat.add_zero place, ← List.getElem?_drop, left]
      rfl
    refine ⟨Or.inr ⟨quote, escaped, inside, fun c there => ?_⟩, rfl⟩
    rw [Nat.add_zero, none] at there
    cases there
  | cons c rest inductionHypothesis =>
    have there : text[place]? = some c := by
      rw [← Nat.add_zero place, ← List.getElem?_drop, left]
      rfl
    have next : text.drop (place + 1) = rest := by rw [← List.drop_drop, left]; rfl
    have reads := readingAt_succ behind there
    have kept : depthAt text start (place + 1) = depthAt text start place := by
      rw [depthAt_succ behind there, inside, if_neg (by simp), Int.add_zero]
    rw [inside] at reads
    rcases Reading.next_inside_cases quote escaped c with ⟨also, stays⟩ | ⟨ended, rfl, how⟩
    · rw [literalLength_of_inside stays] at measured
      obtain ⟨length, later, rfl⟩ := map_eq_ok.mp measured
      obtain ⟨free, same⟩ :=
        inductionHypothesis (Nat.lt_succ_of_lt behind) (reads.trans stays) next later
      have further : place + (length + 1) = place + 1 + length := by omega
      rw [further]
      exact ⟨free, same.trans kept⟩
    · rw [literalLength_of_outside ended] at measured
      obtain rfl := Except.ok.inj measured
      split
      · exact ⟨Or.inl (reads.trans ended), kept⟩
      · next other =>
        have line := how.resolve_left other
        refine ⟨Or.inr ⟨quote, false, inside, fun d found => ?_⟩, rfl⟩
        obtain rfl := Option.some.inj (there.symm.trans found)
        exact ⟨line.1, ended⟩

/-- Where a literal ends, measured from its quote. -/
theorem exists_length_of_literalEnd {stop : Nat} (there : text[place]? = some quote)
    (ends : literalEnd text place = some (.ok stop)) :
    ∃ length, literalLength (.inside quote false) (text.drop (place + 1)) = .ok length ∧
      stop = place + 1 + length := by
  obtain ⟨inside, same⟩ := List.getElem?_eq_some_iff.mp there
  rw [literalEnd, List.drop_eq_getElem_cons inside, same] at ends
  obtain ⟨length, measured, rfl⟩ := map_eq_ok.mp (Option.some.inj ends)
  exact ⟨length, measured, rfl⟩

theorem literalEnd_eq (there : text[place]? = some quote) :
    literalEnd text place =
      some ((literalLength (.inside quote false) (text.drop (place + 1))).map (place + 1 + ·)) := by
  obtain ⟨inside, same⟩ := List.getElem?_eq_some_iff.mp there
  rw [literalEnd, List.drop_eq_getElem_cons inside, same]

/-- The places that a walk comes to are free, with the brackets open that it counts. -/
theorem Reaches.isFree (reaches : Reaches text start place depth) :
    start < place ∧ IsFree text start place ∧ depthAt text start place = depth := by
  induction reaches with
  | opened => exact ⟨Nat.lt_succ_self _, Or.inl readingAt_start, depthAt_start⟩
  | @code place depth c earlier there plain inductionHypothesis =>
    obtain ⟨behind, free, counted⟩ := inductionHypothesis
    have reads := readingAt_succ behind there
    have counts := depthAt_succ behind there
    refine ⟨Nat.lt_succ_of_lt behind, Or.inl ?_, ?_⟩
    · rcases free with outside | ⟨quote, escaped, inside, line⟩
      · rw [reads, outside, Reading.next, plain, if_neg Bool.false_ne_true]
      · rw [reads, inside, (line c there).2]
    · rcases free with outside | ⟨quote, escaped, inside, line⟩
      · rw [counts, outside, if_pos rfl, counted]
      · obtain ⟨rfl, -⟩ := line c there
        rw [counts, inside, if_neg (by simp), counted]
        rfl
  | @literal place stop depth c earlier there quote ends inductionHypothesis =>
    obtain ⟨behind, free, counted⟩ := inductionHypothesis
    obtain ⟨length, measured, rfl⟩ := exists_length_of_literalEnd there ends
    have outside : readingAt text start place = .outside := by
      refine free.resolve_right ?_
      rintro ⟨_, _, -, line⟩
      rw [(line c there).1] at quote
      exact absurd quote (by decide)
    have reads : readingAt text start (place + 1) = .inside c false := by
      rw [readingAt_succ behind there, outside, Reading.next, if_pos quote]
    have counts : depthAt text start (place + 1) = depthAt text start place := by
      rw [depthAt_succ behind there, outside, if_pos rfl, depthChange_of_isQuote quote,
        Int.add_zero]
    obtain ⟨freed, same⟩ := isFree_behind (Nat.lt_succ_of_lt behind) reads measured
    exact ⟨by omega, freed, same.trans (counts.trans counted)⟩

/-- A walk comes to every place of code, and to the quote of every literal in front of what stands
in it. -/
theorem reaches_or_opened (count : Nat) (within : start + 1 + count ≤ text.length) :
    (readingAt text start (start + 1 + count) = .outside →
      Reaches text start (start + 1 + count) (depthAt text start (start + 1 + count))) ∧
    ∀ quote escaped, readingAt text start (start + 1 + count) = .inside quote escaped →
      ∃ opening, Reaches text start opening (depthAt text start (start + 1 + count)) ∧
        text[opening]? = some quote ∧ isQuote quote = true ∧
        ∀ length,
          literalLength (.inside quote escaped) (text.drop (start + 1 + count)) = .ok length →
            literalEnd text opening = some (.ok (start + 1 + count + length)) := by
  induction count with
  | zero =>
    rw [Nat.add_zero, readingAt_start, depthAt_start]
    exact ⟨fun _ => .opened, fun _ _ inside => by cases inside⟩
  | succ count inductionHypothesis =>
    obtain ⟨code, literal⟩ := inductionHypothesis (by omega)
    obtain ⟨c, there⟩ : ∃ c, text[start + 1 + count]? = some c :=
      ⟨_, List.getElem?_eq_getElem (by omega)⟩
    have left : text.drop (start + 1 + count) = c :: text.drop (start + 1 + count + 1) := by
      obtain ⟨inside, same⟩ := List.getElem?_eq_some_iff.mp there
      rw [List.drop_eq_getElem_cons inside, same]
    have behind : start < start + 1 + count := by omega
    have reads := readingAt_succ behind there
    have counts := depthAt_succ behind there
    rw [← Nat.add_assoc]
    cases here : readingAt text start (start + 1 + count) with
    | outside =>
      have reached := code here
      rw [here] at reads
      rw [here, if_pos rfl] at counts
      cases opens : isQuote c with
      | false =>
        rw [Reading.next, opens, if_neg Bool.false_ne_true] at reads
        refine ⟨fun _ => counts ▸ reached.code there opens, fun quote escaped inside => ?_⟩
        rw [reads] at inside
        cases inside
      | true =>
        rw [Reading.next, opens, if_pos rfl] at reads
        rw [depthChange_of_isQuote opens, Int.add_zero] at counts
        refine ⟨fun outside => ?_, fun quote escaped inside => ?_⟩
        · rw [reads] at outside
          cases outside
        · obtain ⟨rfl, rfl⟩ := Reading.inside.inj (reads.symm.trans inside)
          refine ⟨start + 1 + count, counts ▸ reached, there, opens, fun length measured => ?_⟩
          rw [literalEnd_eq there, measured]
          rfl
    | inside quote escaped =>
      obtain ⟨opening, reached, opened, isQuote, ends⟩ := literal quote escaped here
      rw [here] at reads
      rw [here, if_neg (by simp), Int.add_zero] at counts
      rw [left] at ends
      rcases Reading.next_inside_cases quote escaped c with ⟨also, stays⟩ | ⟨ended, rfl, how⟩
      · refine ⟨fun outside => ?_, fun other escaped inside => ?_⟩
        · rw [reads, stays] at outside
          cases outside
        · obtain ⟨rfl, rfl⟩ := Reading.inside.inj ((reads.trans stays).symm.trans inside)
          refine ⟨opening, counts ▸ reached, opened, isQuote, fun length measured => ?_⟩
          rw [literalLength_of_inside stays] at ends
          have shifted := ends (length + 1) (map_eq_ok.mpr ⟨length, measured, rfl⟩)
          rwa [show start + 1 + count + (length + 1) = start + 1 + count + 1 + length by omega]
            at shifted
      · refine ⟨fun _ => ?_, fun other escaped inside => ?_⟩
        · rw [literalLength_of_outside ended] at ends
          have stop := ends _ rfl
          split at stop
          · exact counts ▸ reached.literal opened isQuote stop
          · next other =>
            -- The line break that ends the literal is passed as code.
            obtain ⟨rfl, -⟩ := how.resolve_left other
            have passed := (reached.literal opened isQuote stop).code there (by decide)
            have same : depthChange '\n' = 0 := rfl
            rwa [same, Int.add_zero, ← counts] at passed
        · rw [reads, ended] at inside
          cases inside

/-- A comma separates arguments exactly when it stands in code with one bracket open. -/
theorem separates_iff : Separates text start place ↔
    start < place ∧ text[place]? = some ',' ∧ readingAt text start place = .outside ∧
      depthAt text start place = 1 := by
  constructor
  · rintro ⟨there, reaches⟩
    obtain ⟨behind, free, counted⟩ := reaches.isFree
    refine ⟨behind, there, free.resolve_right ?_, counted⟩
    rintro ⟨_, _, -, line⟩
    exact absurd (line ',' there).1 (by decide)
  · rintro ⟨behind, there, outside, counted⟩
    obtain ⟨count, rfl⟩ := Nat.exists_eq_add_of_le (Nat.succ_le_of_lt behind)
    have inside := (List.getElem?_eq_some_iff.mp there).1
    have reaches := (reaches_or_opened count (Nat.le_of_lt inside)).1 outside
    rw [counted] at reaches
    exact ⟨there, reaches⟩

end Reach

/-- Whether a stretch covers a place. -/
def Covered (spans : List Span) (place : Nat) : Prop :=
  ∃ span ∈ spans, span.start ≤ place ∧ place < span.stop

/-- Stretches of a part of a text: there is something in each of them and no blank at its ends, they
stand in a row, no separator is in them, and nothing but blanks and separators is outside of them. -/
structure Pieces (text : List Char) (separates : Nat → Prop) (first last : Nat)
    (spans : List Span) : Prop where
  within : ∀ span ∈ spans, first ≤ span.start ∧ span.start < span.stop ∧ span.stop ≤ last
  trimmed : ∀ span ∈ spans, (∃ c, text[span.start]? = some c ∧ isBlank c = false) ∧
    ∃ c, text[span.stop - 1]? = some c ∧ isBlank c = false
  row : spans.Pairwise fun one other => one.stop < other.start
  between : ∀ place, first ≤ place → place < last → ¬ Covered spans place →
    (∃ c, text[place]? = some c ∧ isBlank c = true) ∨ separates place
  whole : ∀ place, separates place → ¬ Covered spans place

namespace Pieces

variable {text : List Char} {separates : Nat → Prop} {first middle last : Nat}

/-- Two parts around a separator. -/
theorem join {front back : List Span} (one : Pieces text separates first middle front)
    (here : separates middle) (other : Pieces text separates (middle + 1) last back)
    (forward : first ≤ middle) (further : middle < last) :
    Pieces text separates first last (front ++ back) where
  within span listed := by
    rcases List.mem_append.mp listed with early | late
    · have := one.within span early
      omega
    · have := other.within span late
      omega
  trimmed span listed := by
    rcases List.mem_append.mp listed with early | late
    · exact one.trimmed span early
    · exact other.trimmed span late
  row := by
    refine List.pairwise_append.mpr ⟨one.row, other.row, fun span early second late => ?_⟩
    have ends := one.within span early
    have starts := other.within second late
    omega
  between place behind before uncovered := by
    have apart (spans : List Span) (among : ∀ span ∈ spans, span ∈ front ++ back) :
        ¬ Covered spans place := fun ⟨span, listed, covers⟩ =>
      uncovered ⟨span, among span listed, covers⟩
    rcases Nat.lt_trichotomy place middle with early | rfl | late
    · exact one.between place behind early (apart front fun span => List.mem_append_left back)
    · exact Or.inr here
    · exact other.between place late before (apart back fun span => List.mem_append_right front)
  whole place separator := by
    rintro ⟨span, listed, covers⟩
    rcases List.mem_append.mp listed with early | late
    · exact one.whole place separator ⟨span, early, covers⟩
    · exact other.whole place separator ⟨span, late, covers⟩

end Pieces

namespace Arguments

variable {text : List Char} {separates : Nat → Prop} {first offset : Nat} {read : List Char}

/-- What has been read of an argument: all that stands behind the last separator. -/
structure Current (text : List Char) (separates : Nat → Prop) (first offset : Nat)
    (read : List Char) : Prop where
  length : first + read.length = offset
  read : slice text first offset = read.reverse
  single : ∀ place, first ≤ place → place < offset → ¬ separates place

theorem Current.nil (text : List Char) (separates : Nat → Prop) (offset : Nat) :
    Current text separates offset offset [] where
  length := rfl
  read := by simp [slice_eq_take]
  single place behind before := absurd before (Nat.not_lt.mpr behind)

/-- One more character is read. -/
theorem Current.cons (current : Current text separates first offset read) {c : Char}
    (there : text[offset]? = some c) (stays : ¬ separates offset) :
    Current text separates first (offset + 1) (c :: read) where
  length := by
    rw [← current.length, List.length_cons, Nat.add_assoc]
  read := by
    have forward : first ≤ offset := current.length ▸ Nat.le_add_right _ _
    rw [slice_succ forward there, current.read, List.reverse_cons]
  single place behind before := by
    rcases Nat.lt_or_eq_of_le (Nat.le_of_lt_succ before) with early | rfl
    · exact current.single place behind early
    · exact stays

/-- What has been read stands in the text. -/
theorem Current.getElem?_eq (current : Current text separates first offset read) {shift : Nat}
    (within : shift < read.length) : text[first + shift]? = read.reverse[shift]? := by
  have inside : shift < offset - first := by
    rw [← current.length, Nat.add_sub_cancel_left]
    exact within
  rw [← current.read, slice_eq_take, List.getElem?_take, if_pos inside, List.getElem?_drop]

/-- What has been read is one argument, or nothing but blanks. -/
theorem Current.pieces (current : Current text separates first offset read) :
    Pieces text separates first offset (argument? read offset).toList := by
  have length := current.length
  cases found : argument? read offset with
  | none =>
    have blank := isBlank_of_argument? found
    refine ⟨by simp, by simp, .nil, fun place behind before _ => Or.inl ?_, fun place _ => ?_⟩
    · obtain ⟨shift, rfl⟩ := Nat.exists_eq_add_of_le behind
      have within : shift < read.length := by omega
      rw [current.getElem?_eq within]
      have inside : shift < read.reverse.length := by rwa [List.length_reverse]
      exact ⟨_, List.getElem?_eq_getElem inside,
        blank _ (List.mem_reverse.mp (List.getElem_mem inside))⟩
    · rintro ⟨_, listed, -⟩
      cases listed
  | some span =>
    obtain ⟨gap, body, back, whole, blank, also, rfl, ⟨c, head, opens⟩, d, end_, closes⟩ :=
      exists_of_argument? found (by omega)
    have lengths := congrArg List.length whole
    simp only [List.length_reverse, List.length_append] at lengths
    have base : offset - read.length = first := by omega
    have filled : 0 < body.length := by
      cases body with
      | nil => cases head
      | cons => exact Nat.succ_pos _
    have stands {shift : Nat} {c : Char} (listed : body[shift]? = some c) :
        text[first + gap.length + shift]? = some c := by
      have inside := (List.getElem?_eq_some_iff.mp listed).1
      rw [Nat.add_assoc, current.getElem?_eq (by omega), whole,
        List.getElem?_append_right (Nat.le_add_right _ _), Nat.add_sub_cancel_left,
        List.getElem?_append_left inside, listed]
    rw [base, Option.toList_some]
    refine ⟨?within, ?trimmed, List.pairwise_singleton _ _, ?between, ?whole⟩
    case within =>
      intro span listed
      obtain rfl := List.mem_singleton.mp listed
      dsimp only
      omega
    case trimmed =>
      intro span listed
      obtain rfl := List.mem_singleton.mp listed
      refine ⟨⟨c, stands (List.head?_eq_getElem?.symm.trans head), opens⟩, d, ?_, closes⟩
      rw [List.getLast?_eq_getElem?] at end_
      dsimp only
      rw [Nat.add_sub_assoc filled]
      exact stands end_
    case between =>
      intro place behind before uncovered
      obtain ⟨shift, rfl⟩ := Nat.exists_eq_add_of_le behind
      have outside : ¬ (gap.length ≤ shift ∧ shift < gap.length + body.length) := fun covers =>
        uncovered ⟨_, List.mem_singleton_self _, by dsimp only; omega⟩
      rw [current.getElem?_eq (by omega), whole]
      by_cases early : shift < gap.length
      · rw [List.getElem?_append_left early]
        exact Or.inl ⟨_, List.getElem?_eq_getElem early, blank _ (List.getElem_mem early)⟩
      · have late : shift - gap.length - body.length < back.length := by omega
        rw [List.getElem?_append_right (by omega), List.getElem?_append_right (by omega)]
        exact Or.inl ⟨_, List.getElem?_eq_getElem late, also _ (List.getElem_mem late)⟩
    case whole =>
      rintro place separator ⟨span, listed, covers⟩
      obtain rfl := List.mem_singleton.mp listed
      dsimp only at covers
      exact current.single place (by omega) (by omega) separator

/-- What a scan lists are the pieces between the separators that it meets. -/
theorem pieces_of_scanFrom {start : Nat} {depth : Int} {rest : List Char} {listed : Arguments}
    (scanned : scanFrom start (readingAt text start offset) depth read offset rest = .ok listed)
    (left : text.drop offset = rest) (behind : start < offset)
    (counted : depthAt text start offset = depth)
    (current : Current text (Separates text start) first offset read) :
    offset ≤ listed.close ∧
      Pieces text (Separates text start) first listed.close listed.spans := by
  induction rest generalizing offset depth read first listed with
  | nil =>
    rw [scanFrom] at scanned
    split at scanned <;> cases scanned
  | cons c rest inductionHypothesis =>
    have there : text[offset]? = some c := by
      rw [← Nat.add_zero offset, ← List.getElem?_drop, left]
      rfl
    have next : text.drop (offset + 1) = rest := by rw [← List.drop_drop, left]; rfl
    have reads := readingAt_succ behind there
    have counts := depthAt_succ behind there
    have onwards {following : Reading} {deeper : Int} {listed : Arguments}
        (scanned : scanFrom start following deeper (c :: read) (offset + 1) rest = .ok listed)
        (reading : readingAt text start (offset + 1) = following)
        (change : depthAt text start (offset + 1) = deeper)
        (stays : ¬ Separates text start offset) :
        offset ≤ listed.close ∧
          Pieces text (Separates text start) first listed.close listed.spans := by
      obtain ⟨further, pieces⟩ := inductionHypothesis (reading ▸ scanned) next
        (Nat.lt_succ_of_lt behind) change (current.cons there stays)
      exact ⟨Nat.le_of_succ_le further, pieces⟩
    cases here : readingAt text start offset with
    | inside quote escaped =>
      rw [here] at scanned reads
      rw [here, if_neg (by simp), Int.add_zero, counted] at counts
      refine onwards scanned reads counts fun separator => ?_
      rw [separates_iff, here] at separator
      cases separator.2.2.1
    | outside =>
      rw [here] at scanned reads
      rw [here, if_pos rfl, counted] at counts
      have other (apart : c ≠ ',') : ¬ Separates text start offset := by
        rintro ⟨comma, -⟩
        exact apart (Option.some.inj (there.symm.trans comma))
      rw [scanFrom] at scanned
      split_ifs at scanned with opening closing last comma
      · rw [depthChange_of_opening opening] at counts
        rw [Reading.next_outside_of_bracket (Or.inl opening)] at reads
        exact onwards scanned reads counts (other (by rintro rfl; exact absurd opening (by decide)))
      · obtain rfl := Except.ok.inj scanned
        exact ⟨Nat.le_refl _, current.pieces⟩
      · rw [depthChange_of_closing closing] at counts
        rw [Reading.next_outside_of_bracket (Or.inr closing)] at reads
        exact onwards scanned reads counts (other (by rintro rfl; exact absurd closing (by decide)))
      · obtain ⟨later, inside, rfl⟩ := map_eq_ok.mp scanned
        obtain ⟨rfl, rfl⟩ := comma
        have separator : Separates text start offset :=
          separates_iff.mpr ⟨behind, there, here, counted⟩
        have code : readingAt text start (offset + 1) = .outside := reads
        obtain ⟨further, pieces⟩ := inductionHypothesis (code.symm ▸ inside) next
          (Nat.lt_succ_of_lt behind) counts (.nil text _ (offset + 1))
        refine ⟨Nat.le_of_succ_le further, current.pieces.join separator pieces ?_ further⟩
        rw [← current.length]
        exact Nat.le_add_right _ _
      · rw [depthChange_of_plain opening closing, Int.add_zero] at counts
        refine onwards scanned reads counts fun separator => ?_
        have facts := separates_iff.mp separator
        exact comma ⟨Option.some.inj (there.symm.trans facts.2.1), counted.symm.trans facts.2.2.2⟩

end Arguments

/-- The arguments of a call are what its separators leave between its parenthesis and the bracket
that ends it, without the blanks around them. -/
theorem scanArguments_pieces {text : List Char} {start : Nat} {listed : Arguments}
    (opens : text[start]? = some '(') (scanned : scanArguments text start = .ok listed) :
    start < listed.close ∧
      Pieces text (Separates text start) (start + 1) listed.close listed.spans := by
  rw [scanArguments_eq opens] at scanned
  have outside : readingAt text start (start + 1) = .outside := readingAt_start
  exact Arguments.pieces_of_scanFrom (outside.symm ▸ scanned) rfl (Nat.lt_succ_self _) depthAt_start
    (.nil text _ (start + 1))

/-- A call with a comma in a literal and one in brackets, neither of which separates anything. -/
theorem scanArguments_pieces_nested :
    scanArguments "f( a , ')', [b, c])".toList 1 = .ok ⟨[⟨3, 4⟩, ⟨7, 10⟩, ⟨12, 18⟩], 18⟩ ∧
      1 < 18 ∧ Pieces "f( a , ')', [b, c])".toList (Separates "f( a , ')', [b, c])".toList 1) 2 18
        [⟨3, 4⟩, ⟨7, 10⟩, ⟨12, 18⟩] := by
  have scanned : scanArguments "f( a , ')', [b, c])".toList 1 =
    .ok ⟨[⟨3, 4⟩, ⟨7, 10⟩, ⟨12, 18⟩], 18⟩ := rfl
  exact ⟨scanned, scanArguments_pieces rfl scanned⟩

end FeatureLayout.Code
