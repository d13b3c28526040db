import FeatureLayout.Proofs.Pattern.Order

/-!
# Patterns on texts that are the same for a while

Two texts that are the same up to a character of some kind cannot be told apart by a pattern that
passes over no such character: what fits the one fits the other, in the same order of preference.
-/

namespace FeatureLayout

variable {κ : Type} {passes : Char → Bool}

/-- Two texts that are the same up to a character that a test refuses, or to their end. -/
inductive Shared (passes : Char → Bool) : List Char → List Char → Prop
  | cons {c : Char} {first second : List Char} (fits : passes c = true)
      (rest : Shared passes first second) : Shared passes (c :: first) (c :: second)
  | stop {first second : List Char} (same : first.head? = second.head?)
      (refused : first.head?.any passes = false) : Shared passes first second

/-- Texts that share something start alike. -/
theorem Shared.head?_eq {first second : List Char} (shared : Shared passes first second) :
    first.head? = second.head? := by
  cases shared with
  | cons => rfl
  | stop same => exact same

namespace Pattern

/-- A pattern that passes over characters of a class only. -/
def Keeps (passes : Char → Bool) : Pattern κ → Prop
  | .one holds | .run holds => ∀ c, holds c = true → passes c = true
  | .seq first second | .either first second => first.Keeps passes ∧ second.Keeps passes
  | .capture _ inner | .notBefore inner => inner.Keeps passes
  | .nothing | .after _ | .notAfter _ | .wordEdge | .lineEnd => True

theorem keeps_sequence {patterns : List (Pattern κ)}
    (each : ∀ pattern ∈ patterns, pattern.Keeps passes) : (sequence patterns).Keeps passes := by
  induction patterns with
  | nil => trivial
  | cons first rest inductionHypothesis =>
    cases rest with
    | nil => exact each first List.mem_cons_self
    | cons second others =>
      exact ⟨each first List.mem_cons_self,
        inductionHypothesis fun pattern listed => each pattern (List.mem_cons_of_mem first listed)⟩

theorem keeps_choice {patterns : List (Pattern κ)}
    (each : ∀ pattern ∈ patterns, pattern.Keeps passes) : (choice patterns).Keeps passes := by
  induction patterns with
  | nil => trivial
  | cons first rest inductionHypothesis =>
    cases rest with
    | nil => exact each first List.mem_cons_self
    | cons second others =>
      exact ⟨each first List.mem_cons_self,
        inductionHypothesis fun pattern listed => each pattern (List.mem_cons_of_mem first listed)⟩

theorem keeps_exactly {text : String} (each : ∀ c ∈ text.toList, passes c = true) :
    (exactly text : Pattern κ).Keeps passes := by
  refine keeps_sequence fun pattern listed => ?_
  obtain ⟨c, among, rfl⟩ := List.mem_map.mp listed
  intro d same
  rw [beq_iff_eq.mp same]
  exact each c among

/-- Places of two texts that a pattern cannot tell apart. -/
structure Abreast (passes : Char → Bool) (first second : Reached κ) : Prop where
  before : first.cursor.before = second.cursor.before
  offset : first.cursor.offset = second.cursor.offset
  ahead : Shared passes first.cursor.ahead second.cursor.ahead
  captured : first.captured = second.captured

/-- Places that are reached from two others over the same stretch of text. -/
structure Reach (passes : Char → Bool) (start other first second : Reached κ) : Prop where
  abreast : Abreast passes first second
  passed : ∃ passed, start.cursor.Leads passed first.cursor ∧
    other.cursor.Leads passed second.cursor

variable {start other first second : Reached κ}

theorem Abreast.reach (abreast : Abreast passes start other) :
    Reach passes start other start other :=
  ⟨abreast, [], .refl _, .refl _⟩

theorem Reach.trans (reach : Reach passes start other first second) {third fourth : Reached κ}
    (further : Reach passes first second third fourth) :
    Reach passes start other third fourth := by
  obtain ⟨passed, leads, also⟩ := reach.passed
  obtain ⟨more, onwards, too⟩ := further.passed
  exact ⟨further.abreast, passed ++ more, leads.trans onwards, also.trans too⟩

/-- A test that both places pass or none leads nowhere else. -/
theorem Abreast.tested (abreast : Abreast passes start other) (condition : Bool) :
    List.Forall₂ (Reach passes start other) (if condition then [start] else [])
      (if condition then [other] else []) := by
  cases condition with
  | true => exact .cons abreast.reach .nil
  | false => exact .nil

section Class

variable {holds : Char → Bool} (keeps : ∀ c, holds c = true → passes c = true)

include keeps

theorem refuses_of_keeps {text : List Char} (refused : text.head?.any passes = false) :
    text.head?.any holds = false := by
  cases text with
  | nil => rfl
  | cons c rest =>
    by_contra fits
    rw [List.head?_cons, Option.any_some, keeps c (by simpa using fits)] at refused
    cases refused

/-- A character leads on from both places or from none. -/
theorem reach_one (abreast : Abreast passes start other) :
    List.Forall₂ (Reach passes start other) ((Pattern.one holds).successes start)
      ((Pattern.one holds).successes other) := by
  obtain ⟨⟨before, text, offset⟩, captured⟩ := start
  obtain ⟨⟨_, rest, _⟩, _⟩ := other
  obtain ⟨rfl, rfl, shared, rfl⟩ := abreast
  cases shared with
  | @cons c text rest fits shared =>
    rw [successes_one_cons, successes_one_cons]
    split
    · exact .cons ⟨⟨rfl, rfl, shared, rfl⟩, [c], .one _ c _ _, .one _ c _ _⟩ .nil
    · exact .nil
  | stop same refused =>
    have blocked {text : List Char} (refused : text.head?.any passes = false) :
        (Pattern.one holds).successes ⟨⟨before, text, offset⟩, captured⟩ = [] := by
      have refuses := refuses_of_keeps keeps refused
      cases text with
      | nil => rfl
      | cons c more => simpa [successes_one_cons] using refuses
    have none := blocked refused
    have also := blocked (same ▸ refused)
    dsimp only at none also ⊢
    rw [none, also]
    exact .nil

/-- A run leads over the same stretches of two texts. -/
theorem reach_runFrom {text rest : List Char} (shared : Shared passes text rest)
    (before : Option Char) (offset : Nat) (captured : List (Captured κ)) :
    List.Forall₂ (fun one two => Reach passes ⟨⟨before, text, offset⟩, captured⟩
        ⟨⟨before, rest, offset⟩, captured⟩ ⟨one, captured⟩ ⟨two, captured⟩)
      (Cursor.runFrom holds before offset text) (Cursor.runFrom holds before offset rest) := by
  induction shared generalizing before offset with
  | @cons c text rest fits shared inductionHypothesis =>
    rw [Cursor.runFrom, Cursor.runFrom]
    refine .cons (Abreast.reach ⟨rfl, rfl, .cons fits shared, rfl⟩) ?_
    split
    · refine (inductionHypothesis (some c) (offset + 1)).imp fun one two onwards => ?_
      have step : Reach passes ⟨⟨before, c :: text, offset⟩, captured⟩
          ⟨⟨before, c :: rest, offset⟩, captured⟩ ⟨⟨some c, text, offset + 1⟩, captured⟩
          ⟨⟨some c, rest, offset + 1⟩, captured⟩ :=
        ⟨⟨rfl, rfl, shared, rfl⟩, [c], .one before c text offset, .one before c rest offset⟩
      exact step.trans onwards
    · exact .nil
  | @stop text rest same refused =>
    have stays {text : List Char} (refused : text.head?.any passes = false) :
        Cursor.runFrom holds before offset text = [⟨before, text, offset⟩] := by
      have refuses := refuses_of_keeps keeps refused
      cases text with
      | nil => rfl
      | cons c more =>
        rw [List.head?_cons, Option.any_some] at refuses
        rw [Cursor.runFrom, refuses]
        rfl
    rw [stays refused, stays (same ▸ refused)]
    exact .cons (Abreast.reach ⟨rfl, rfl, .stop same refused, rfl⟩) .nil

end Class

/-- What fits a pattern at one of two places that it cannot tell apart fits at the other. -/
theorem reach_successes {pattern : Pattern κ} (keeps : pattern.Keeps passes)
    (abreast : Abreast passes start other) :
    List.Forall₂ (Reach passes start other) (pattern.successes start)
      (pattern.successes other) := by
  induction pattern generalizing start other with
  | nothing => exact .cons abreast.reach .nil
  | one holds => exact reach_one keeps abreast
  | run holds =>
    obtain ⟨⟨before, text, offset⟩, captured⟩ := start
    obtain ⟨⟨_, rest, _⟩, _⟩ := other
    obtain ⟨rfl, rfl, shared, rfl⟩ := abreast
    rw [successes_run, successes_run, List.forall₂_map_left_iff, List.forall₂_map_right_iff]
    exact List.rel_reverse (reach_runFrom keeps shared before offset captured)
  | seq first second firstHypothesis secondHypothesis =>
    refine List.rel_flatMap (firstHypothesis keeps.1 abreast) fun one two reach => ?_
    exact (secondHypothesis keeps.2 reach.abreast).imp fun _ _ onwards => reach.trans onwards
  | either first second firstHypothesis secondHypothesis =>
    exact List.rel_append (firstHypothesis keeps.1 abreast) (secondHypothesis keeps.2 abreast)
  | capture name inner innerHypothesis =>
    rw [successes_capture, successes_capture, List.forall₂_map_left_iff,
      List.forall₂_map_right_iff]
    refine (innerHypothesis keeps abreast).imp fun one two reach => ?_
    obtain ⟨passed, leads, also⟩ := reach.passed
    refine ⟨⟨reach.abreast.before, reach.abreast.offset, reach.abreast.ahead, ?_⟩, passed, leads,
      also⟩
    rw [leads.take_eq, also.take_eq, abreast.offset, reach.abreast.offset, reach.abreast.captured]
  | after holds =>
    have tested := abreast.tested (start.cursor.before.any holds)
    rwa [successes, successes, ← abreast.before]
  | notAfter holds =>
    rw [successes_notAfter, successes_notAfter, ← abreast.before]
    split
    · exact .nil
    · exact .cons abreast.reach .nil
  | notBefore inner innerHypothesis =>
    have fits := (innerHypothesis keeps abreast).length_eq
    have tested := abreast.tested (inner.successes start).isEmpty
    have same : (inner.successes other).isEmpty = (inner.successes start).isEmpty := by
      rw [Bool.eq_iff_iff, List.isEmpty_iff_length_eq_zero, List.isEmpty_iff_length_eq_zero, fits]
    rwa [successes, successes, same]
  | wordEdge =>
    have tested := abreast.tested start.cursor.atWordEdge
    have same : other.cursor.atWordEdge = start.cursor.atWordEdge := by
      rw [Cursor.atWordEdge, Cursor.atWordEdge, abreast.before, abreast.ahead.head?_eq]
    rw [successes_wordEdge, successes_wordEdge, same]
    exact tested
  | lineEnd =>
    have tested := abreast.tested start.cursor.atLineEnd
    have atEnd (cursor : Cursor) :
        cursor.atLineEnd = cursor.ahead.head?.all (· == '\n') := by
      obtain ⟨before, ahead, offset⟩ := cursor
      cases ahead <;> rfl
    rw [successes, successes, atEnd other.cursor, ← abreast.ahead.head?_eq, ← atEnd]
    exact tested

/-- A pattern has the same matches at places of two texts that go on alike, as far as it can look.
-/
theorem matchesAt_congr {pattern : Pattern κ} (keeps : pattern.Keeps passes)
    {text rest : List Char} (shared : Shared passes text rest) (before : Option Char)
    (offset : Nat) :
    pattern.matchesAt ⟨before, text, offset⟩ = pattern.matchesAt ⟨before, rest, offset⟩ := by
  have abreast : Abreast passes (⟨⟨before, text, offset⟩, []⟩ : Reached κ)
      ⟨⟨before, rest, offset⟩, []⟩ := ⟨rfl, rfl, shared, rfl⟩
  refine List.forall₂_eq_eq_eq ▸ ?_
  rw [matchesAt, matchesAt, List.forall₂_map_left_iff, List.forall₂_map_right_iff]
  refine (reach_successes keeps abreast).imp fun one two reach => ?_
  obtain ⟨passed, leads, also⟩ := reach.passed
  have first := leads.take_eq
  have second := also.take_eq
  dsimp only at first second
  rw [first, second, reach.abreast.offset, reach.abreast.captured]

end Pattern

end FeatureLayout
