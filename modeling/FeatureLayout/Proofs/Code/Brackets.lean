import FeatureLayout.Proofs.Code.Arguments

/-!
# The bracket that closes a call

A scan of arguments counts the brackets outside of literals and does not look at their kinds. It ends
at the first closing bracket, of whatever kind, in front of which as many brackets have been closed
as opened. When the parenthesis of the call has a partner, with brackets between them that nest by
their kinds, this bracket is the partner. Where there is no such bracket at all, the scan fails, and
what it reports depends on whether a template is left open.
-/

namespace FeatureLayout.Code

open Text

namespace Reading

/-- Where a place stands that a text leads to. -/
def behind (reading : Reading) (text : List Char) : Reading := text.foldl Reading.next reading

@[simp] theorem behind_nil (reading : Reading) : reading.behind [] = reading := rfl

@[simp] theorem behind_cons (reading : Reading) (c : Char) (rest : List Char) :
    reading.behind (c :: rest) = (reading.next c).behind rest := rfl

@[simp] theorem behind_append (reading : Reading) (front back : List Char) :
    reading.behind (front ++ back) = (reading.behind front).behind back := List.foldl_append

/-- A bracket opens no literal. -/
theorem next_outside_of_bracket {c : Char} (bracket : isOpening c = true ∨ isClosing c = true) :
    Reading.outside.next c = .outside := by
  have plain : isQuote c = false := by
    simp only [isOpening, isClosing, Bool.or_eq_true, beq_iff_eq] at bracket
    rcases bracket with ((rfl | rfl) | rfl) | (rfl | rfl) | rfl <;> rfl
  rw [Reading.next, plain]
  rfl

end Reading

/-- The brackets of a text that stand outside of its literals. -/
def brackets : Reading → List Char → List Char
  | _, [] => []
  | reading, c :: rest =>
    if reading = .outside ∧ depthChange c ≠ 0 then c :: brackets (reading.next c) rest
    else brackets (reading.next c) rest

/-- How many more brackets are opened than closed, whatever their kinds. -/
def level : List Char → Int
  | [] => 0
  | c :: rest => depthChange c + level rest

/-- A bracket, and the one that closes it. -/
inductive IsPair : Char → Char → Prop where
  | round : IsPair '(' ')'
  | square : IsPair '[' ']'
  | curly : IsPair '{' '}'

/-- Brackets that nest: every one that is opened is closed by one of its own kind. -/
inductive Nest : List Char → Prop where
  | nil : Nest []
  | group {opening closing : Char} {inner rest : List Char} (pair : IsPair opening closing)
      (inside : Nest inner) (later : Nest rest) : Nest (opening :: (inner ++ closing :: rest))

/-- The brackets between two places, outside of the literals that are read from the first on. -/
def bracketsBetween (text : List Char) (start close : Nat) : List Char :=
  brackets .outside (slice text (start + 1) close)

/-- The parentheses at two places belong together: what is between them ends outside of literals,
and its brackets nest. -/
structure Matching (text : List Char) (start close : Nat) : Prop where
  forward : start < close
  opening : text[start]? = some '('
  closing : text[close]? = some ')'
  outside : Reading.outside.behind (slice text (start + 1) close) = .outside
  nests : Nest (bracketsBetween text start close)

/-- A closing bracket outside of literals is the first one, of whatever kind, in front of which as
many brackets have been closed as opened since a place. -/
structure ClosesAt (text : List Char) (start close : Nat) : Prop where
  forward : start < close
  closing : ∃ c, text[close]? = some c ∧ isClosing c = true
  outside : Reading.outside.behind (slice text (start + 1) close) = .outside
  even : level (bracketsBetween text start close) = 0
  above : ∀ place, start < place → place ≤ close → 0 ≤ level (bracketsBetween text start place)

section Level

theorem depthChange_of_opening {c : Char} (opening : isOpening c = true) : depthChange c = 1 := by
  rw [depthChange, if_pos opening]

theorem depthChange_of_closing {c : Char} (closing : isClosing c = true) : depthChange c = -1 := by
  have other : isOpening c = false := by
    simp only [isClosing, Bool.or_eq_true, beq_iff_eq] at closing
    rcases closing with (rfl | rfl) | rfl <;> rfl
  rw [depthChange, other, if_neg Bool.false_ne_true, if_pos closing]

theorem depthChange_of_plain {c : Char} (opening : ¬ isOpening c = true)
    (closing : ¬ isClosing c = true) : depthChange c = 0 := by
  rw [depthChange, if_neg opening, if_neg closing]

@[simp] theorem level_nil : level [] = 0 := rfl

@[simp] theorem level_cons (c : Char) (rest : List Char) :
    level (c :: rest) = depthChange c + level rest := rfl

@[simp] theorem level_append (front back : List Char) :
    level (front ++ back) = level front + level back := by
  induction front with
  | nil => rw [List.nil_append, level_nil, Int.zero_add]
  | cons c rest inductionHypothesis =>
    rw [List.cons_append, level_cons, level_cons, inductionHypothesis, Int.add_assoc]

/-- A character outside of literals changes the level of what follows. -/
theorem level_brackets_outside (c : Char) (rest : List Char) :
    level (brackets .outside (c :: rest)) =
      depthChange c + level (brackets (Reading.outside.next c) rest) := by
  by_cases plain : depthChange c = 0
  · simp [brackets, plain]
  · simp [brackets, plain]

/-- What stands in a literal changes nothing. -/
theorem brackets_inside (quote : Char) (escaped : Bool) (c : Char) (rest : List Char) :
    brackets (.inside quote escaped) (c :: rest) =
      brackets ((Reading.inside quote escaped).next c) rest := by
  simp [brackets]

/-- The brackets at the start of a text come first among its brackets. -/
theorem exists_brackets_take (reading : Reading) (text : List Char) (count : Nat) :
    ∃ few, brackets reading (text.take count) = (brackets reading text).take few := by
  induction text generalizing reading count with
  | nil => exact ⟨0, by rw [List.take_nil]; rfl⟩
  | cons c rest inductionHypothesis =>
    cases count with
    | zero => exact ⟨0, rfl⟩
    | succ count =>
      obtain ⟨few, same⟩ := inductionHypothesis (reading.next c) count
      rw [List.take_succ_cons, brackets, brackets]
      split_ifs
      · exact ⟨few + 1, by rw [same, List.take_succ_cons]⟩
      · exact ⟨few, same⟩

theorem IsPair.depthChange_eq {opening closing : Char} (pair : IsPair opening closing) :
    depthChange opening = 1 ∧ depthChange closing = -1 := by
  cases pair <;> exact ⟨rfl, rfl⟩

/-- Brackets that nest are closed as often as they are opened. -/
theorem Nest.level_eq {brackets : List Char} (nest : Nest brackets) : level brackets = 0 := by
  induction nest with
  | nil => rfl
  | group pair _ _ inside later =>
    rw [level_cons, level_append, level_cons, inside, later, pair.depthChange_eq.1,
      pair.depthChange_eq.2]
    rfl

/-- Of brackets that nest, none is closed before it is opened. -/
theorem Nest.level_take {brackets : List Char} (nest : Nest brackets) (count : Nat) :
    0 ≤ level (brackets.take count) := by
  induction nest generalizing count with
  | nil => simp
  | @group opening closing inner rest pair nested _ inside later =>
    obtain ⟨opens, closes⟩ := pair.depthChange_eq
    cases count with
    | zero => simp
    | succ count =>
      rw [List.take_succ_cons, level_cons, opens, List.take_append, level_append]
      have early := inside count
      cases left : count - inner.length with
      | zero =>
        rw [List.take_zero, level_nil]
        omega
      | succ more =>
        have whole : inner.take count = inner := List.take_of_length_le (by omega)
        have late := later more
        rw [List.take_succ_cons, level_cons, closes, whole, nested.level_eq]
        omega

end Level

section Scan

variable {start offset count : Nat} {reading : Reading} {depth : Int} {read rest : List Char}

/-- A closing bracket that stands behind some characters is the first one that closes all of the
brackets that are open in front of them. -/
structure Closes (reading : Reading) (depth : Int) (rest : List Char) (count : Nat) : Prop where
  closing : ∃ c, rest[count]? = some c ∧ isClosing c = true
  outside : reading.behind (rest.take count) = .outside
  last : depth + level (brackets reading (rest.take count)) = 1
  above : ∀ few ≤ count, 1 ≤ depth + level (brackets reading (rest.take few))

/-- The level in front of a text is the one in front of what its first character leaves. -/
theorem level_brackets_cons (reading : Reading) (c : Char) (rest : List Char) :
    level (brackets reading (c :: rest)) =
      (if reading = .outside then depthChange c else 0) +
        level (brackets (reading.next c) rest) := by
  cases reading with
  | outside => rw [level_brackets_outside, if_pos rfl]
  | inside quote escaped => simp [brackets_inside]

theorem closes_zero_iff {c : Char} :
    Closes reading depth (c :: rest) 0 ↔ isClosing c = true ∧ reading = .outside ∧ depth = 1 := by
  constructor
  · intro closes
    obtain ⟨d, there, closing⟩ := closes.closing
    obtain rfl := Option.some.inj there
    have last := closes.last
    rw [List.take_zero, brackets, level_nil, Int.add_zero] at last
    exact ⟨closing, closes.outside, last⟩
  · rintro ⟨closing, rfl, rfl⟩
    refine ⟨⟨c, rfl, closing⟩, rfl, rfl, fun few none => ?_⟩
    obtain rfl := Nat.le_zero.mp none
    exact Int.le_refl _

theorem closes_succ_iff {c : Char} :
    Closes reading depth (c :: rest) (count + 1) ↔ 1 ≤ depth ∧
      Closes (reading.next c) (depth + if reading = .outside then depthChange c else 0) rest
        count := by
  have step (few : Nat) : depth + level (brackets reading ((c :: rest).take (few + 1))) =
      (depth + if reading = .outside then depthChange c else 0) +
        level (brackets (reading.next c) (rest.take few)) := by
    rw [List.take_succ_cons, level_brackets_cons, Int.add_assoc]
  constructor
  · intro closes
    refine ⟨?_, closes.closing, closes.outside, (step count).symm.trans closes.last, ?_⟩
    · simpa [brackets] using closes.above 0 (Nat.zero_le _)
    · intro few within
      rw [← step]
      exact closes.above (few + 1) (Nat.succ_le_succ within)
  · rintro ⟨here, closes⟩
    refine ⟨closes.closing, closes.outside, (step count).trans closes.last, fun few within => ?_⟩
    cases few with
    | zero => simpa [brackets] using here
    | succ few =>
      rw [step]
      exact closes.above few (Nat.le_of_succ_le_succ within)

theorem not_closes_nil : ¬ Closes reading depth [] count := by
  rintro ⟨⟨c, there, -⟩, -⟩
  cases there

namespace Arguments

/-- A scan that ends stops at the first bracket that closes all open ones. -/
theorem closes_of_scanFrom {listed : Arguments} (deep : 1 ≤ depth)
    (scanned : scanFrom start reading depth read offset rest = .ok listed) :
    ∃ count, listed.close = offset + count ∧ Closes reading depth rest count := by
  induction rest generalizing reading depth read offset listed with
  | nil =>
    rw [scanFrom] at scanned
    split at scanned <;> cases scanned
  | cons c rest inductionHypothesis =>
    have onwards {following : Reading} {deeper : Int} {read : List Char} {listed : Arguments}
        (next : reading.next c = following)
        (change : depth + (if reading = .outside then depthChange c else 0) = deeper)
        (further : 1 ≤ deeper)
        (scanned : scanFrom start following deeper read (offset + 1) rest = .ok listed) :
        ∃ count, listed.close = offset + count ∧ Closes reading depth (c :: rest) count := by
      obtain ⟨count, close, closes⟩ := inductionHypothesis further scanned
      refine ⟨count + 1, by omega, closes_succ_iff.mpr ⟨deep, ?_⟩⟩
      rwa [next, change]
    cases reading with
    | inside quote escaped => exact onwards rfl (Int.add_zero depth) deep scanned
    | outside =>
      have plain (opening : ¬ isOpening c = true) (closing : ¬ isClosing c = true) :
          depth + (if Reading.outside = .outside then depthChange c else 0) = depth := by
        rw [if_pos rfl, depthChange_of_plain opening closing, Int.add_zero]
      rw [scanFrom] at scanned
      split_ifs at scanned with opening closing last comma
      · exact onwards (Reading.next_outside_of_bracket (Or.inl opening))
          (by rw [if_pos rfl, depthChange_of_opening opening]) (by omega) scanned
      · obtain rfl := Except.ok.inj scanned
        exact ⟨0, rfl, closes_zero_iff.mpr ⟨closing, rfl, last⟩⟩
      · exact onwards (Reading.next_outside_of_bracket (Or.inr closing))
          (by rw [if_pos rfl, depthChange_of_closing closing]; rfl) (by omega) scanned
      · obtain ⟨later, inside, rfl⟩ := map_eq_ok.mp scanned
        obtain ⟨rfl, -⟩ := comma
        have ended := onwards rfl (plain opening closing) deep inside
        exact ended
      · exact onwards rfl (plain opening closing) deep scanned

/-- A scan stops at the first bracket that closes all open ones. -/
theorem exists_scanFrom_of_closes (closes : Closes reading depth rest count) :
    ∃ spans, scanFrom start reading depth read offset rest = .ok ⟨spans, offset + count⟩ := by
  induction rest generalizing reading depth read offset count with
  | nil => exact absurd closes not_closes_nil
  | cons c rest inductionHypothesis =>
    cases count with
    | zero =>
      obtain ⟨closing, rfl, rfl⟩ := closes_zero_iff.mp closes
      have other : ¬ isOpening c = true := by
        intro opening
        have both := (depthChange_of_opening opening).symm.trans (depthChange_of_closing closing)
        omega
      rw [scanFrom, if_neg other, if_pos closing, if_pos rfl]
      exact ⟨_, rfl⟩
    | succ count =>
      obtain ⟨deep, closes⟩ := closes_succ_iff.mp closes
      have place : offset + (count + 1) = offset + 1 + count := by omega
      rw [place]
      cases reading with
      | inside quote escaped =>
        rw [if_neg (by simp), Int.add_zero] at closes
        rw [scanFrom]
        exact inductionHypothesis closes
      | outside =>
        rw [if_pos rfl] at closes
        rw [scanFrom]
        split_ifs with opening closing last comma
        · rw [depthChange_of_opening opening,
            Reading.next_outside_of_bracket (Or.inl opening)] at closes
          exact inductionHypothesis closes
        · rw [depthChange_of_closing closing, last] at closes
          have above := closes.above 0 (Nat.zero_le _)
          simp [brackets] at above
        · rw [depthChange_of_closing closing,
            Reading.next_outside_of_bracket (Or.inr closing)] at closes
          exact inductionHypothesis closes
        · rw [depthChange_of_plain opening closing, Int.add_zero] at closes
          obtain ⟨rfl, -⟩ := comma
          obtain ⟨spans, scanned⟩ : ∃ spans, scanFrom start .outside depth [] (offset + 1) rest =
              .ok ⟨spans, offset + 1 + count⟩ := inductionHypothesis closes
          exact ⟨_, map_eq_ok.mpr ⟨_, scanned, rfl⟩⟩
        · rw [depthChange_of_plain opening closing, Int.add_zero] at closes
          exact inductionHypothesis closes

/-- Why a scan fails: it comes to the end of the text, perhaps in a template. -/
theorem problem_of_scanFrom {problem : CallProblem}
    (failed : scanFrom start reading depth read offset rest = .error problem) :
    problem = if (reading.behind rest).opensTemplate then .openTemplate else .unbalanced start := by
  induction rest generalizing reading depth read offset with
  | nil =>
    rw [scanFrom] at failed
    rw [Reading.behind_nil]
    split_ifs at failed ⊢ with opens <;> exact (Except.error.inj failed).symm
  | cons c rest inductionHypothesis =>
    rw [Reading.behind_cons]
    cases reading with
    | inside quote escaped =>
      rw [scanFrom] at failed
      exact inductionHypothesis failed
    | outside =>
      rw [scanFrom] at failed
      split_ifs at failed with opening closing last comma
      · rw [Reading.next_outside_of_bracket (Or.inl opening)]
        exact inductionHypothesis failed
      · rw [Reading.next_outside_of_bracket (Or.inr closing)]
        exact inductionHypothesis failed
      · obtain ⟨rfl, -⟩ := comma
        exact inductionHypothesis (eq_error_of_map failed)
      · exact inductionHypothesis failed

end Arguments

end Scan

section Exact

variable {text : List Char} {start close : Nat}

/-- What stands behind a place, up to another one. -/
theorem slice_eq_take (text : List Char) (start stop : Nat) :
    slice text start stop = (text.drop start).take (stop - start) := List.drop_take

/-- A call is closed at a place when the brackets behind its parenthesis are closed there. -/
theorem closesAt_iff : ClosesAt text start close ↔
    ∃ count, close = start + 1 + count ∧ Closes .outside 1 (text.drop (start + 1)) count := by
  constructor
  · intro closes
    have place : close = start + 1 + (close - (start + 1)) := by
      have := closes.forward
      omega
    refine ⟨close - (start + 1), place, ?_, ?_, ?_, fun few within => ?_⟩
    · rw [List.getElem?_drop, ← place]
      exact closes.closing
    · rw [← slice_eq_take]
      exact closes.outside
    · rw [← slice_eq_take, ← bracketsBetween, closes.even]
      rfl
    · have above := closes.above (start + 1 + few) (by omega) (by omega)
      rw [bracketsBetween, slice_eq_take, Nat.add_sub_cancel_left] at above
      omega
  · rintro ⟨count, rfl, closes⟩
    have same (few : Nat) : bracketsBetween text start (start + 1 + few) =
        brackets .outside ((text.drop (start + 1)).take few) := by
      rw [bracketsBetween, slice_eq_take, Nat.add_sub_cancel_left]
    refine ⟨by omega, ?_, ?_, ?_, fun place behind within => ?_⟩
    · rw [← List.getElem?_drop]
      exact closes.closing
    · rw [slice_eq_take, Nat.add_sub_cancel_left]
      exact closes.outside
    · have last := closes.last
      rw [same]
      omega
    · obtain ⟨few, rfl⟩ := Nat.exists_eq_add_of_lt behind
      have above := closes.above few (by omega)
      rw [Nat.add_right_comm, same]
      omega

/-- A matching parenthesis closes the call. -/
theorem Matching.closesAt (matching : Matching text start close) : ClosesAt text start close where
  forward := matching.forward
  closing := ⟨')', matching.closing, rfl⟩
  outside := matching.outside
  even := matching.nests.level_eq
  above place behind within := by
    have shorter : slice text (start + 1) place =
        (slice text (start + 1) close).take (place - (start + 1)) := by
      rw [slice_eq_take, slice_eq_take, List.take_take, Nat.min_eq_left (by omega)]
    obtain ⟨few, same⟩ := exists_brackets_take .outside (slice text (start + 1) close)
      (place - (start + 1))
    rw [bracketsBetween, shorter, same]
    exact matching.nests.level_take few

/-- The bracket that closes a call is the matching parenthesis exactly when it is a parenthesis and
the brackets in front of it nest. -/
theorem matching_iff (opens : text[start]? = some '(') : Matching text start close ↔
    ClosesAt text start close ∧ text[close]? = some ')' ∧ Nest (bracketsBetween text start close) :=
  ⟨fun matching => ⟨matching.closesAt, matching.closing, matching.nests⟩,
    fun ⟨closes, closing, nests⟩ => ⟨closes.forward, opens, closing, closes.outside, nests⟩⟩

variable (opens : text[start]? = some '(')

include opens

theorem scanArguments_eq : scanArguments text start =
    Arguments.scanFrom start .outside 1 [] (start + 1) (text.drop (start + 1)) := by
  obtain ⟨inside, same⟩ := List.getElem?_eq_some_iff.mp opens
  rw [scanArguments, List.drop_eq_getElem_cons inside, same]
  rfl

/-- The arguments of a call can be listed exactly up to the bracket that closes it. -/
theorem exists_scanArguments_iff :
    (∃ spans, scanArguments text start = .ok ⟨spans, close⟩) ↔ ClosesAt text start close := by
  rw [scanArguments_eq opens, closesAt_iff]
  constructor
  · rintro ⟨spans, scanned⟩
    exact Arguments.closes_of_scanFrom (Int.le_refl 1) scanned
  · rintro ⟨count, rfl, closes⟩
    exact Arguments.exists_scanFrom_of_closes closes

/-- The arguments of a call cannot be listed exactly when no bracket closes it. -/
theorem scanArguments_eq_error_iff {problem : CallProblem} :
    scanArguments text start = .error problem ↔ (∀ close, ¬ ClosesAt text start close) ∧
      problem = if (Reading.outside.behind (text.drop start)).opensTemplate then .openTemplate
        else .unbalanced start := by
  have same : Reading.outside.behind (text.drop start) =
      Reading.outside.behind (text.drop (start + 1)) := by
    obtain ⟨inside, there⟩ := List.getElem?_eq_some_iff.mp opens
    rw [List.drop_eq_getElem_cons inside, there]
    rfl
  constructor
  · intro failed
    refine ⟨fun close closes => ?_, ?_⟩
    · obtain ⟨spans, scanned⟩ := (exists_scanArguments_iff opens).mpr closes
      rw [failed] at scanned
      cases scanned
    · rw [same]
      rw [scanArguments_eq opens] at failed
      exact Arguments.problem_of_scanFrom failed
  · rintro ⟨unclosed, rfl⟩
    cases scanned : scanArguments text start with
    | ok listed => exact absurd ((exists_scanArguments_iff opens).mp ⟨_, scanned⟩) (unclosed _)
    | error problem =>
      rw [scanArguments_eq opens] at scanned
      rw [Arguments.problem_of_scanFrom scanned, same]

end Exact

end FeatureLayout.Code
