import FeatureLayout.Proofs.Basic
import FeatureLayout.Proofs.Pattern.Successes

/-!
# Patterns that run in step

Two texts can be searched side by side when some of their places correspond to each other. A pattern
is stable when it leads from corresponding places to corresponding places, one by one and in the
same order of preference, and remembers corresponding stretches on the way. Sequences and choices of
stable patterns are stable.
-/

namespace FeatureLayout

namespace Pattern

variable {κ : Type}

/-- Places that are related and were reached with related captures. -/
structure Alike (remembered : Captured κ → Captured κ → Prop) (places : Cursor → Cursor → Prop)
    (first second : Reached κ) : Prop where
  cursor : places first.cursor second.cursor
  captured : List.Forall₂ remembered first.captured second.captured

/-- From related places a pattern leads to related places, one by one. -/
def Stable (remembered : Captured κ → Captured κ → Prop) (start stop : Cursor → Cursor → Prop)
    (pattern : Pattern κ) : Prop :=
  ∀ first second, Alike remembered start first second →
    List.Forall₂ (Alike remembered stop) (pattern.successes first) (pattern.successes second)

variable {remembered : Captured κ → Captured κ → Prop} {start middle stop : Cursor → Cursor → Prop}

theorem stable_nothing : Stable remembered start start .nothing :=
  fun _ _ alike => .cons alike .nil

theorem Stable.seq {first second : Pattern κ} (front : Stable remembered start middle first)
    (back : Stable remembered middle stop second) :
    Stable remembered start stop (.seq first second) :=
  fun _ _ alike => List.rel_flatMap (front _ _ alike) fun _ _ reached => back _ _ reached

theorem Stable.either {first second : Pattern κ} (left : Stable remembered start stop first)
    (right : Stable remembered start stop second) :
    Stable remembered start stop (.either first second) :=
  fun _ _ alike => List.rel_append (left _ _ alike) (right _ _ alike)

theorem Stable.optional {inner : Pattern κ} (stable : Stable remembered start start inner) :
    Stable remembered start start (Pattern.optional inner) :=
  stable.either stable_nothing

theorem stable_sequence {patterns : List (Pattern κ)}
    (each : ∀ pattern ∈ patterns, Stable remembered start start pattern) :
    Stable remembered start start (sequence patterns) := by
  induction patterns with
  | nil => exact stable_nothing
  | cons first rest inductionHypothesis =>
    cases rest with
    | nil => exact each first List.mem_cons_self
    | cons second others =>
      exact (each first List.mem_cons_self).seq
        (inductionHypothesis fun pattern listed => each pattern (List.mem_cons_of_mem first listed))

/-- A pattern that fits in one way at most is stable when the forms in which it fits correspond. -/
theorem stable_of_forms {Form : Type} {pattern : Pattern κ} (fits : Cursor → Form → Prop)
    (next : Cursor → Form → Cursor) (caps : Cursor → Form → List (Captured κ))
    (closed : ∀ cursor form captured, fits cursor form →
      pattern.successes ⟨cursor, captured⟩ = [⟨next cursor form, caps cursor form ++ captured⟩])
    (converse : ∀ cursor captured, pattern.successes ⟨cursor, captured⟩ ≠ [] →
      ∃ form, fits cursor form)
    (forward : ∀ first second form, start first second → fits first form →
      ∃ other, fits second other ∧ stop (next first form) (next second other) ∧
        List.Forall₂ remembered (caps first form) (caps second other))
    (backward : ∀ first second form, start first second → fits second form →
      ∃ other, fits first other) :
    Stable remembered start stop pattern := by
  rintro ⟨first, captured⟩ ⟨second, others⟩ ⟨places, remembered⟩
  by_cases none : pattern.successes ⟨first, captured⟩ = []
  · have also : pattern.successes ⟨second, others⟩ = [] := by
      by_contra some
      obtain ⟨form, there⟩ := converse second others some
      obtain ⟨other, here⟩ := backward first second form places there
      rw [closed first other captured here] at none
      exact absurd none (by simp)
    rw [none, also]
    exact .nil
  · obtain ⟨form, here⟩ := converse first captured none
    obtain ⟨other, there, stops, caught⟩ := forward first second form places here
    rw [closed first form captured here, closed second other others there]
    exact .cons ⟨stops, List.rel_append caught remembered⟩ .nil

end Pattern

end FeatureLayout
