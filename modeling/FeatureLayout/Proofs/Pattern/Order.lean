import FeatureLayout.Proofs.Basic
import FeatureLayout.Proofs.Pattern.Successes
import Mathlib.Tactic.SplitIfs

/-!
# The matches of a search in a row

A search goes from left to right and on behind what it has found, so its matches stand in a row. It
misses nothing: where something fits that is not empty, one of its matches covers the place.
-/

namespace FeatureLayout

namespace Pattern

variable {κ : Type} {pattern : Pattern κ}

/-- A match starts at its place and ends in the text. -/
theorem span_of_mem_matchesAt {cursor : Cursor} {found : Match κ}
    (listed : found ∈ pattern.matchesAt cursor) :
    found.span.start = cursor.offset ∧ cursor.offset ≤ found.span.stop ∧
      found.span.stop ≤ cursor.offset + cursor.ahead.length := by
  obtain ⟨reached, fits, rfl⟩ := List.mem_map.mp listed
  obtain ⟨⟨passed, leads⟩, -⟩ := leads_of_mem_successes fits
  have length := congrArg List.length leads.text
  have offset := leads.offset
  dsimp only at length offset ⊢
  rw [List.length_append] at length
  omega

/-- The matches reported at a place stand in a row, and the search goes on behind them. -/
theorem report_row (pattern : Pattern κ) (cursor : Cursor) :
    (pattern.report cursor).1.Pairwise (fun first second => first.span.stop ≤ second.span.start) ∧
      (∀ found ∈ (pattern.report cursor).1, found.span.stop ≤ (pattern.report cursor).2) ∧
      cursor.offset ≤ (pattern.report cursor).2 := by
  have spans : ∀ found ∈ pattern.matchesAt cursor, found.span.start = cursor.offset ∧
      cursor.offset ≤ found.span.stop ∧ found.span.stop ≤ cursor.offset + cursor.ahead.length :=
    fun found => span_of_mem_matchesAt
  unfold report
  dsimp only
  generalize pattern.matchesAt cursor = candidates at spans ⊢
  cases candidates with
  | nil => exact ⟨.nil, by simp, Nat.le_refl _⟩
  | cons preferred others =>
    obtain ⟨start, forward, -⟩ := spans preferred List.mem_cons_self
    dsimp only
    split_ifs with empty
    · cases located : (preferred :: others).find? (fun candidate =>
          candidate.span.stop != cursor.offset) with
      | none => exact ⟨List.pairwise_singleton _ _, by simp [empty], Nat.le_refl _⟩
      | some longer =>
        obtain ⟨again, further, -⟩ := spans longer (List.mem_of_find?_eq_some located)
        refine ⟨List.pairwise_pair.mpr (by omega), ?_, further⟩
        intro found listed
        dsimp only at listed ⊢
        rcases List.mem_cons.mp listed with rfl | second
        · omega
        · exact Nat.le_of_eq (congrArg (·.span.stop) (List.mem_singleton.mp second))
    · exact ⟨List.pairwise_singleton _ _, by simp, forward⟩

/-- The matches of a search stand in a row behind the place where it goes on. -/
theorem searchFrom_row (pattern : Pattern κ) (before : Option Char) (offset resume : Nat)
    (rest : List Char) :
    (pattern.searchFrom before offset resume rest).Pairwise
        (fun first second => first.span.stop ≤ second.span.start) ∧
      ∀ found ∈ pattern.searchFrom before offset resume rest, resume ≤ found.span.start := by
  have here (cursor : Cursor) (found : Match κ) (listed : found ∈ (pattern.report cursor).1) :
      found.span.start = cursor.offset :=
    (span_of_mem_matchesAt (mem_matchesAt_of_report listed)).1
  induction rest generalizing before offset resume with
  | nil =>
    rw [searchFrom]
    split
    · exact ⟨.nil, by simp⟩
    · refine ⟨(report_row pattern _).1, fun found listed => ?_⟩
      rw [here _ found listed]
      dsimp only
      omega
  | cons c rest inductionHypothesis =>
    rw [searchFrom]
    split
    · exact inductionHypothesis _ _ _
    · obtain ⟨row, ends, onwards⟩ := report_row pattern ⟨before, c :: rest, offset⟩
      dsimp only at onwards
      obtain ⟨later, starts⟩ := inductionHypothesis (some c) (offset + 1)
        (pattern.report ⟨before, c :: rest, offset⟩).2
      dsimp only
      refine ⟨List.pairwise_append.mpr ⟨row, later, fun first listed second also =>
        Nat.le_trans (ends first listed) (starts second also)⟩, fun found listed => ?_⟩
      rcases List.mem_append.mp listed with early | late
      · rw [here _ found early]
        dsimp only
        omega
      · have := starts found late
        omega

/-- The matches of a search stand in a row. -/
theorem search_row (pattern : Pattern κ) (text : List Char) :
    (pattern.search text).Pairwise fun first second => first.span.stop ≤ second.span.start :=
  (searchFrom_row pattern none 0 0 text).1

/-- The search goes on where it is, or behind a match that it reports. -/
theorem resume_of_report (pattern : Pattern κ) (cursor : Cursor) :
    (pattern.report cursor).2 = cursor.offset ∨
      ∃ found ∈ (pattern.report cursor).1, found.span.stop = (pattern.report cursor).2 := by
  unfold report
  dsimp only
  split
  · exact Or.inl rfl
  · next preferred others shape =>
    split_ifs
    · split
      · next longer located => exact Or.inr ⟨longer, by simp, rfl⟩
      · exact Or.inl rfl
    · exact Or.inr ⟨preferred, by simp, rfl⟩

/-- Where something fits that is not empty, such a match is reported. -/
theorem exists_report_of_mem_matchesAt {cursor : Cursor} {candidate : Match κ}
    (fits : candidate ∈ pattern.matchesAt cursor) (some : candidate.span.stop ≠ cursor.offset) :
    ∃ found ∈ (pattern.report cursor).1, cursor.offset < found.span.stop := by
  have spans : ∀ found ∈ pattern.matchesAt cursor, found.span.start = cursor.offset ∧
      cursor.offset ≤ found.span.stop ∧ found.span.stop ≤ cursor.offset + cursor.ahead.length :=
    fun found => span_of_mem_matchesAt
  unfold report
  dsimp only
  generalize pattern.matchesAt cursor = candidates at spans fits ⊢
  cases candidates with
  | nil => exact absurd fits List.not_mem_nil
  | cons preferred others =>
    dsimp only
    split_ifs with empty
    · cases located : (preferred :: others).find? (fun candidate =>
          candidate.span.stop != cursor.offset) with
      | none => exact absurd (List.find?_eq_none.mp located candidate fits) (by simpa using some)
      | some longer =>
        have further := (spans longer (List.mem_of_find?_eq_some located)).2.1
        have differs : longer.span.stop ≠ cursor.offset := by
          simpa using List.find?_some located
        exact ⟨longer, by simp, by omega⟩
    · have forward := (spans preferred List.mem_cons_self).2.1
      exact ⟨preferred, List.mem_cons_self, by omega⟩

/-- A place where something fits that is not empty is covered by a match of the search, unless the
search goes on only behind it. -/
theorem covered_or_passed {cursor : Cursor} {candidate : Match κ}
    (fits : candidate ∈ pattern.matchesAt cursor) (some : candidate.span.stop ≠ cursor.offset)
    {passed rest : List Char} {before : Option Char} {offset : Nat} (resume : Nat)
    (leads : Cursor.Leads ⟨before, rest, offset⟩ passed cursor) :
    (∃ found ∈ pattern.searchFrom before offset resume rest,
      found.span.start ≤ cursor.offset ∧ cursor.offset < found.span.stop) ∨
      cursor.offset < resume := by
  induction passed generalizing before offset resume rest with
  | nil =>
    obtain rfl := leads.eq_of_nil
    by_cases skips : offset < resume
    · exact Or.inr skips
    · obtain ⟨found, listed, covers⟩ := exists_report_of_mem_matchesAt fits some
      have starts := (span_of_mem_matchesAt (mem_matchesAt_of_report listed)).1
      refine Or.inl ⟨found, ?_, by omega, covers⟩
      cases rest with
      | nil => rwa [searchFrom, if_neg skips]
      | cons c more =>
        rw [searchFrom, if_neg skips]
        exact List.mem_append_left _ listed
  | cons c more inductionHypothesis =>
    have onwards := leads.tail
    obtain rfl : rest = c :: more ++ cursor.ahead := leads.text
    rw [List.cons_append, searchFrom]
    split
    · exact inductionHypothesis resume onwards
    · rcases inductionHypothesis (pattern.report ⟨before, c :: (more ++ cursor.ahead), offset⟩).2
        onwards with ⟨found, listed, covers⟩ | behind
      · exact Or.inl ⟨found, List.mem_append_right _ listed, covers⟩
      · have far := onwards.offset
        dsimp only at far
        rcases resume_of_report pattern ⟨before, c :: (more ++ cursor.ahead), offset⟩ with
          same | ⟨found, listed, ends⟩
        · dsimp only at same
          omega
        · have starts := (span_of_mem_matchesAt (mem_matchesAt_of_report listed)).1
          dsimp only at starts
          exact Or.inl ⟨found, List.mem_append_left _ listed, by omega, by omega⟩

/-- A place where something fits that is not empty is covered by a match of the search. -/
theorem exists_covering {text front : List Char} {cursor : Cursor} {candidate : Match κ}
    (leads : (Cursor.start text).Leads front cursor) (fits : candidate ∈ pattern.matchesAt cursor)
    (some : candidate.span.stop ≠ cursor.offset) :
    ∃ found ∈ pattern.search text,
      found.span.start ≤ cursor.offset ∧ cursor.offset < found.span.stop :=
  (covered_or_passed fits some 0 leads).resolve_right (Nat.not_lt_zero _)

end Pattern
end FeatureLayout
