import FeatureLayout.Code.Arguments
import FeatureLayout.Proofs.Basic
import Mathlib.Data.List.TakeWhile
import Mathlib.Tactic.SplitIfs

/-!
# Where calls end and where their arguments stand

A call whose arguments can be listed ends at a closing bracket behind its parenthesis. Its first
argument follows the parenthesis with nothing but blanks and commas in between, and only a blank, a
comma or a closing bracket follows the argument.
-/

namespace FeatureLayout.Code

open Text

namespace Arguments

/-- A scan ends at a closing bracket of the text that it reads. -/
theorem exists_close {start offset : Nat} {reading : Reading} {depth : Int} {read rest : List Char}
    {listed : Arguments} (scanned : scanFrom start reading depth read offset rest = .ok listed) :
    ∃ inner c after, rest = inner ++ c :: after ∧ isClosing c = true ∧
      listed.close = offset + inner.length := by
  induction rest generalizing reading depth read offset listed with
  | nil =>
    rw [scanFrom] at scanned
    split at scanned <;> cases scanned
  | cons c rest inductionHypothesis =>
    have onwards {reading : Reading} {depth : Int} {read : List Char} {listed : Arguments}
        (scanned : scanFrom start reading depth read (offset + 1) rest = .ok listed) :
        ∃ inner d after, c :: rest = inner ++ d :: after ∧ isClosing d = true ∧
          listed.close = offset + inner.length := by
      obtain ⟨inner, d, after, rfl, closing, place⟩ := inductionHypothesis scanned
      exact ⟨c :: inner, d, after, rfl, closing, by rw [place, List.length_cons]; omega⟩
    cases reading with
    | inside quote escaped => exact onwards scanned
    | outside =>
      rw [scanFrom] at scanned
      split_ifs at scanned with opening closing last comma
      · exact onwards scanned
      · obtain rfl := Except.ok.inj scanned
        exact ⟨[], c, rest, rfl, closing, rfl⟩
      · exact onwards scanned
      · obtain ⟨later, inside, rfl⟩ := map_eq_ok.mp scanned
        have ended := onwards inside
        exact ended
      · exact onwards scanned

/-- An argument that is read stands in what was read, with blanks at its ends that it leaves out. -/
theorem exists_of_argument? {read : List Char} {stop : Nat} {span : Span}
    (found : argument? read stop = some span) (long : read.length ≤ stop) :
    ∃ gap body back, read.reverse = gap ++ (body ++ back) ∧ (∀ c ∈ gap, isBlank c = true) ∧
      (∀ c ∈ back, isBlank c = true) ∧
      span = ⟨stop - read.length + gap.length, stop - read.length + gap.length + body.length⟩ ∧
      (∃ c, body.head? = some c ∧ isBlank c = false) ∧
      ∃ c, body.getLast? = some c ∧ isBlank c = false := by
  unfold argument? at found
  dsimp only at found
  split_ifs at found with empty
  obtain rfl := Option.some.inj found
  have filled : read.dropWhile isBlank ≠ [] := by simpa using empty
  have whole : read.takeWhile isBlank ++ read.dropWhile isBlank = read :=
    List.takeWhile_append_dropWhile
  have inner : (read.dropWhile isBlank).reverse.takeWhile isBlank ++
      (read.dropWhile isBlank).reverse.dropWhile isBlank = (read.dropWhile isBlank).reverse :=
    List.takeWhile_append_dropWhile
  have last := List.head_dropWhile_not isBlank filled
  obtain ⟨d, others, body⟩ := List.exists_cons_of_ne_nil filled
  simp only [body, List.head_cons] at last
  have full : (read.dropWhile isBlank).reverse.dropWhile isBlank ≠ [] := by
    intro none
    have all := List.dropWhile_eq_nil_iff.mp none d (by simp [body])
    rw [last] at all
    cases all
  have first := List.head_dropWhile_not isBlank full
  obtain ⟨c, more, front⟩ := List.exists_cons_of_ne_nil full
  refine ⟨(read.dropWhile isBlank).reverse.takeWhile isBlank,
    (read.dropWhile isBlank).reverse.dropWhile isBlank, (read.takeWhile isBlank).reverse,
    ?_, ?_, ?_, ?_, ⟨c, ?_, ?_⟩, d, ?_, last⟩
  · rw [← List.append_assoc, inner, ← List.reverse_append, whole]
  · exact fun c listed => List.mem_takeWhile_imp listed
  · exact fun c listed => List.mem_takeWhile_imp (List.mem_reverse.mp listed)
  · have lengths := congrArg List.length whole
    have inside := congrArg List.length inner
    rw [List.length_append] at lengths inside
    rw [List.length_reverse] at inside
    refine congrArg (Span.mk _) ?_
    omega
  · rw [front, List.head?_cons]
  · simpa only [front, List.head_cons] using first
  · rw [← List.getLast?_append_of_ne_nil _ full, inner, List.getLast?_reverse, body,
      List.head?_cons]

/-- What was read is blank when it is no argument. -/
theorem isBlank_of_argument? {read : List Char} {stop : Nat} (none : argument? read stop = none) :
    ∀ c ∈ read, isBlank c = true := by
  unfold argument? at none
  dsimp only at none
  split_ifs at none with empty
  exact List.dropWhile_eq_nil_iff.mp (List.isEmpty_iff.mp empty)

/-- Where the first argument of a call stands: behind blanks and commas, and in front of a blank, a
comma or a closing bracket. -/
structure First (text : List Char) (offset : Nat) (span : Span) (gap body after : List Char) :
    Prop where
  text : text = gap ++ (body ++ after)
  apart : ∀ c ∈ gap, isBlank c = true ∨ c = ','
  span : span = ⟨offset + gap.length, offset + gap.length + body.length⟩
  head : ∃ c, body.head? = some c ∧ isBlank c = false
  last : ∃ c, body.getLast? = some c ∧ isBlank c = false
  ends : ∃ c, after.head? = some c ∧ (isBlank c = true ∨ c = ',' ∨ isClosing c = true)

/-- Blanks and a comma in front of the first argument are no argument. -/
theorem First.behind {read rest gap body after : List Char} {offset : Nat} {span : Span}
    (first : First rest (offset + 1) span gap body after)
    (blank : ∀ c ∈ read, isBlank c = true) (long : read.length ≤ offset) :
    First (read.reverse ++ ',' :: rest) (offset - read.length) span (read.reverse ++ ',' :: gap)
      body after := by
  refine ⟨?text, ?apart, ?span, first.head, first.last, first.ends⟩
  case text => rw [first.text, List.append_assoc, List.cons_append]
  case apart =>
    intro c listed
    rcases List.mem_append.mp listed with old | new
    · exact Or.inl (blank c (List.mem_reverse.mp old))
    · rcases List.mem_cons.mp new with rfl | later
      · exact Or.inr rfl
      · exact first.apart c later
  case span =>
    have same : offset - read.length + (read.length + (gap.length + 1)) =
        offset + 1 + gap.length := by
      omega
    rw [first.span, List.length_append, List.length_reverse, List.length_cons, same]

/-- What was read and is followed by a comma or a bracket is the first argument. -/
theorem exists_first_of_argument? {read : List Char} {offset : Nat} {span : Span} {c : Char}
    (found : argument? read offset = some span) (long : read.length ≤ offset)
    (ends : c = ',' ∨ isClosing c = true) (rest : List Char) :
    span.stop ≤ offset ∧ ∃ gap body after,
      First (read.reverse ++ c :: rest) (offset - read.length) span gap body after := by
  obtain ⟨gap, body, back, whole, blank, also, place, head, last⟩ := exists_of_argument? found long
  refine ⟨?_, gap, body, back ++ c :: rest, ?_, fun d listed => Or.inl (blank d listed), place,
    head, last, ?_⟩
  · have lengths := congrArg List.length whole
    have stop := congrArg Span.stop place
    simp only [List.length_reverse, List.length_append] at lengths
    dsimp only at stop
    omega
  · rw [whole, List.append_assoc, List.append_assoc]
  · cases back with
    | nil => exact ⟨c, rfl, Or.inr ends⟩
    | cons d others => exact ⟨d, rfl, Or.inl (also d List.mem_cons_self)⟩

/-- The first argument that a scan lists stands in what was read or is read next. -/
theorem exists_first {start offset : Nat} {reading : Reading} {depth : Int} {read rest : List Char}
    {listed : Arguments} (scanned : scanFrom start reading depth read offset rest = .ok listed)
    (long : read.length ≤ offset) {span : Span} {others : List Span}
    (spans : listed.spans = span :: others) :
    span.stop ≤ listed.close ∧ ∃ gap body after,
      First (read.reverse ++ rest) (offset - read.length) span gap body after := by
  induction rest generalizing reading depth read offset listed others with
  | nil =>
    rw [scanFrom] at scanned
    split at scanned <;> cases scanned
  | cons c rest inductionHypothesis =>
    have onwards {reading : Reading} {depth : Int}
        (scanned : scanFrom start reading depth (c :: read) (offset + 1) rest = .ok listed) :
        span.stop ≤ listed.close ∧ ∃ gap body after,
          First (read.reverse ++ c :: rest) (offset - read.length) span gap body after := by
      have later := inductionHypothesis scanned (Nat.succ_le_succ long) spans
      rwa [List.reverse_cons, List.append_assoc, List.length_cons, Nat.add_sub_add_right] at later
    cases reading with
    | inside quote escaped => exact onwards scanned
    | outside =>
      rw [scanFrom] at scanned
      split_ifs at scanned with opening closing last comma
      · exact onwards scanned
      · obtain rfl := Except.ok.inj scanned
        cases found : argument? read offset with
        | none => rw [found] at spans; cases spans
        | some stretch =>
          rw [found] at spans
          obtain ⟨rfl, -⟩ := List.cons.inj spans
          exact exists_first_of_argument? found long (Or.inr closing) rest
      · exact onwards scanned
      · obtain ⟨later, inside, rfl⟩ := map_eq_ok.mp scanned
        obtain ⟨rfl, -⟩ := comma
        cases found : argument? read offset with
        | some stretch =>
          rw [found] at spans
          obtain ⟨rfl, -⟩ := List.cons.inj spans
          obtain ⟨stop, first⟩ := exists_first_of_argument? found long (Or.inl rfl) rest
          obtain ⟨between, _, _, -, -, close⟩ := exists_close inside
          refine ⟨?_, first⟩
          dsimp only
          omega
        | none =>
          rw [found] at spans
          obtain ⟨stop, gap, body, after, first⟩ :=
            inductionHypothesis inside (Nat.zero_le _) spans
          exact ⟨stop, _, body, after, first.behind (isBlank_of_argument? found) long⟩
      · exact onwards scanned

end Arguments

/-- The first argument of a call stands behind its parenthesis. -/
theorem exists_first_of_scanArguments {text : List Char} {start : Nat} {listed : Arguments}
    (scanned : scanArguments text start = .ok listed) {span : Span} {others : List Span}
    (spans : listed.spans = span :: others) :
    span.stop ≤ listed.close ∧ ∃ c rest gap body after, text.drop start = c :: rest ∧
      Arguments.First rest (start + 1) span gap body after := by
  unfold scanArguments at scanned
  split at scanned
  · cases scanned
  · next c rest whole =>
    obtain ⟨stop, gap, body, after, first⟩ := Arguments.exists_first scanned (Nat.zero_le _) spans
    exact ⟨stop, c, rest, gap, body, after, whole, first⟩

/-- The bracket that closes a call stands behind the parenthesis that opens it. -/
theorem exists_close_of_scanArguments {text : List Char} {start : Nat} {listed : Arguments}
    (scanned : scanArguments text start = .ok listed) :
    ∃ c inner d after, text.drop start = c :: inner ++ d :: after ∧ isClosing d = true ∧
      listed.close = start + 1 + inner.length := by
  unfold scanArguments at scanned
  split at scanned
  · cases scanned
  · next c rest whole =>
    obtain ⟨inner, d, after, rfl, closing, place⟩ := Arguments.exists_close scanned
    exact ⟨c, inner, d, after, whole, closing, place⟩

end FeatureLayout.Code
