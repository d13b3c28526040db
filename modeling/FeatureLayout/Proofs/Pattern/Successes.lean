import FeatureLayout.Pattern
import Mathlib.Data.List.Basic

/-!
# Where patterns lead

A stretch that fits a pattern lies right behind the place where it starts, and what has been
remembered before is kept. A run of one class up to a character of another can end in one place
only.
-/

namespace FeatureLayout

/-- One place lies behind another, with some text in between. -/
structure Cursor.Leads (first : Cursor) (passed : List Char) (second : Cursor) : Prop where
  text : first.ahead = passed ++ second.ahead
  offset : second.offset = first.offset + passed.length
  before : second.before = (passed.getLast?).or first.before

namespace Cursor.Leads

theorem refl (cursor : Cursor) : cursor.Leads [] cursor := ⟨rfl, rfl, rfl⟩

theorem trans {first second third : Cursor} {passed further : List Char}
    (start : first.Leads passed second) (rest : second.Leads further third) :
    first.Leads (passed ++ further) third where
  text := by rw [start.text, rest.text, List.append_assoc]
  offset := by rw [rest.offset, start.offset, List.length_append, Nat.add_assoc]
  before := by
    rw [rest.before, start.before, List.getLast?_append, Option.or_assoc]

/-- One character is passed. -/
theorem one (before : Option Char) (c : Char) (rest : List Char) (offset : Nat) :
    Cursor.Leads ⟨before, c :: rest, offset⟩ [c] ⟨some c, rest, offset + 1⟩ := ⟨rfl, rfl, rfl⟩

/-- Nothing in between leads nowhere else. -/
theorem eq_of_nil {first second : Cursor} (leads : first.Leads [] second) : second = first := by
  obtain ⟨text, offset, before⟩ := leads
  cases second
  cases first
  simp only [List.nil_append, List.length_nil, Nat.add_zero, List.getLast?_nil, Option.none_or]
    at text offset before
  rw [text, offset, before]

/-- What is passed is what was ahead, up to the place that is reached. -/
theorem take_eq {first second : Cursor} {passed : List Char} (leads : first.Leads passed second) :
    first.ahead.take (second.offset - first.offset) = passed := by
  rw [leads.offset, Nat.add_sub_cancel_left, leads.text, List.take_left]

/-- What leads over a character leads on behind it. -/
theorem tail {before : Option Char} {rest passed : List Char} {offset : Nat} {c : Char}
    {cursor : Cursor} (leads : Cursor.Leads ⟨before, rest, offset⟩ (c :: passed) cursor) :
    Cursor.Leads ⟨some c, passed ++ cursor.ahead, offset + 1⟩ passed cursor where
  text := rfl
  offset := by
    have place := leads.offset
    rw [List.length_cons] at place
    dsimp only at place ⊢
    omega
  before := by
    rw [leads.before, List.getLast?_cons]
    cases passed.getLast? with
    | none => rfl
    | some last => rfl

/-- Every offset is a place of the text. -/
theorem exists_place {text : List Char} {place : Nat} (inside : place ≤ text.length) :
    ∃ front cursor, (Cursor.start text).Leads front cursor ∧ cursor.offset = place := by
  refine ⟨text.take place, ⟨(text.take place).getLast?, text.drop place, place⟩, ?_, rfl⟩
  refine ⟨(List.take_append_drop place text).symm, ?_, Option.or_none.symm⟩
  rw [List.length_take, Nat.min_eq_left inside]
  exact (Nat.zero_add place).symm

end Cursor.Leads

/-- A run leads over characters of its class. -/
theorem Cursor.leads_of_mem_runFrom {holds : Char → Bool} {before : Option Char} {offset : Nat}
    {text : List Char} {cursor : Cursor} (listed : cursor ∈ runFrom holds before offset text) :
    ∃ passed, (∀ c ∈ passed, holds c = true) ∧
      Cursor.Leads ⟨before, text, offset⟩ passed cursor := by
  induction text generalizing before offset with
  | nil =>
    obtain rfl := List.mem_singleton.mp listed
    exact ⟨[], by simp, .refl _⟩
  | cons c rest inductionHypothesis =>
    rcases List.mem_cons.mp listed with rfl | later
    · exact ⟨[], by simp, .refl _⟩
    · split at later
      · next passes =>
        obtain ⟨passed, all, leads⟩ := inductionHypothesis later
        refine ⟨c :: passed, ?_, (Cursor.Leads.one before c rest offset).trans leads⟩
        simpa [passes] using all
      · exact absurd later List.not_mem_nil

namespace Pattern

variable {κ : Type}

section Equations

variable (start : Reached κ) (first second : Pattern κ)

theorem successes_one_nil (holds : Char → Bool) (before : Option Char) (offset : Nat)
    (captured : List (Captured κ)) :
    (Pattern.one holds).successes ⟨⟨before, [], offset⟩, captured⟩ = [] := rfl

theorem successes_one_cons (holds : Char → Bool) (before : Option Char) (c : Char)
    (rest : List Char) (offset : Nat) (captured : List (Captured κ)) :
    (Pattern.one holds).successes ⟨⟨before, c :: rest, offset⟩, captured⟩ =
      if holds c then [⟨⟨some c, rest, offset + 1⟩, captured⟩] else [] := rfl

theorem successes_run (holds : Char → Bool) :
    (Pattern.run holds).successes start =
      (Cursor.runFrom holds start.cursor.before start.cursor.offset start.cursor.ahead).reverse.map
        fun cursor => ⟨cursor, start.captured⟩ := rfl

theorem successes_seq : (Pattern.seq first second).successes start =
    (first.successes start).flatMap second.successes := rfl

theorem successes_capture (name : κ) : (Pattern.capture name first).successes start =
    (first.successes start).map fun found =>
      ⟨found.cursor, ⟨name, ⟨start.cursor.offset, found.cursor.offset⟩,
        start.cursor.ahead.take (found.cursor.offset - start.cursor.offset)⟩ :: found.captured⟩ :=
  rfl

theorem successes_notAfter (holds : Char → Bool) : (Pattern.notAfter holds).successes start =
    if start.cursor.before.any holds then [] else [start] := rfl

theorem successes_wordEdge : (Pattern.wordEdge : Pattern κ).successes start =
    if start.cursor.atWordEdge then [start] else [] := rfl

end Equations

/-- What fits a pattern lies right behind the place where it starts, and what has been remembered is
kept. -/
theorem leads_of_mem_successes {pattern : Pattern κ} {start found : Reached κ}
    (listed : found ∈ pattern.successes start) :
    (∃ passed, start.cursor.Leads passed found.cursor) ∧ start.captured <:+ found.captured := by
  induction pattern generalizing start found with
  | nothing =>
    obtain rfl := List.mem_singleton.mp listed
    exact ⟨⟨[], .refl _⟩, List.suffix_refl _⟩
  | one holds =>
    obtain ⟨⟨before, ahead, offset⟩, captured⟩ := start
    cases ahead with
    | nil => exact absurd listed List.not_mem_nil
    | cons c rest =>
      rw [successes_one_cons] at listed
      split at listed
      · obtain rfl := List.mem_singleton.mp listed
        exact ⟨⟨[c], .one before c rest offset⟩, List.suffix_refl _⟩
      · exact absurd listed List.not_mem_nil
  | run holds =>
    obtain ⟨cursor, inside, rfl⟩ := List.mem_map.mp listed
    obtain ⟨passed, -, leads⟩ := Cursor.leads_of_mem_runFrom (List.mem_reverse.mp inside)
    exact ⟨⟨passed, leads⟩, List.suffix_refl _⟩
  | seq first second firstHypothesis secondHypothesis =>
    obtain ⟨middle, early, late⟩ := List.mem_flatMap.mp listed
    obtain ⟨⟨passed, leads⟩, kept⟩ := firstHypothesis early
    obtain ⟨⟨further, onwards⟩, also⟩ := secondHypothesis late
    exact ⟨⟨passed ++ further, leads.trans onwards⟩, kept.trans also⟩
  | either first second firstHypothesis secondHypothesis =>
    exact (List.mem_append.mp listed).elim firstHypothesis secondHypothesis
  | capture name inner innerHypothesis =>
    obtain ⟨reached, inside, rfl⟩ := List.mem_map.mp listed
    obtain ⟨⟨passed, leads⟩, kept⟩ := innerHypothesis inside
    exact ⟨⟨passed, leads⟩, kept.trans (List.suffix_cons _ _)⟩
  | after holds | notAfter holds | notBefore inner | wordEdge | lineEnd =>
    simp only [successes] at listed
    split at listed
    all_goals
      first
        | exact absurd listed List.not_mem_nil
        | (obtain rfl := List.mem_singleton.mp listed
           exact ⟨⟨[], .refl _⟩, List.suffix_refl _⟩)

/-- A character that fits is passed. -/
theorem mem_one {holds : Char → Bool} {start found : Reached κ} :
    found ∈ (Pattern.one holds).successes start ↔
      ∃ c rest, start.cursor.ahead = c :: rest ∧ holds c = true ∧
        found = ⟨⟨some c, rest, start.cursor.offset + 1⟩, start.captured⟩ := by
  obtain ⟨⟨before, ahead, offset⟩, captured⟩ := start
  cases ahead with
  | nil => simp [successes_one_nil]
  | cons c rest =>
    cases passes : holds c with
    | false => simp [successes_one_cons, passes]
    | true => simp [successes_one_cons, passes]

theorem mem_wordEdge {start found : Reached κ} :
    found ∈ (Pattern.wordEdge : Pattern κ).successes start ↔
      start.cursor.atWordEdge = true ∧ found = start := by
  cases edge : start.cursor.atWordEdge with
  | false => simp [successes_wordEdge, edge]
  | true => simp [successes_wordEdge, edge]

/-- A run that fits is passed. -/
theorem exists_of_mem_run {holds : Char → Bool} {start found : Reached κ}
    (listed : found ∈ (Pattern.run holds).successes start) :
    ∃ passed, (∀ c ∈ passed, holds c = true) ∧ start.cursor.Leads passed found.cursor ∧
      found.captured = start.captured := by
  obtain ⟨cursor, inside, rfl⟩ := List.mem_map.mp listed
  obtain ⟨passed, all, leads⟩ := Cursor.leads_of_mem_runFrom (List.mem_reverse.mp inside)
  exact ⟨passed, all, leads, rfl⟩

/-- A fixed text that fits is passed. -/
theorem leads_of_mem_exactly {text : String} {start found : Reached κ}
    (listed : found ∈ (Pattern.exactly text).successes start) :
    start.cursor.Leads text.toList found.cursor := by
  have passed (letters : List Char) {start found : Reached κ}
      (listed : found ∈
        (sequence (letters.map fun c => (.one (· == c) : Pattern κ))).successes start) :
      start.cursor.Leads letters found.cursor := by
    induction letters generalizing start with
    | nil =>
      obtain rfl := List.mem_singleton.mp listed
      exact .refl _
    | cons c rest inductionHypothesis =>
      have one {found : Reached κ}
          (listed : found ∈ (Pattern.one (· == c)).successes start) :
          start.cursor.Leads [c] found.cursor := by
        obtain ⟨d, rest, ahead, same, rfl⟩ := mem_one.mp listed
        obtain rfl := beq_iff_eq.mp same
        exact ⟨ahead, rfl, rfl⟩
      cases rest with
      | nil => exact one listed
      | cons second others =>
        obtain ⟨middle, early, late⟩ := List.mem_flatMap.mp listed
        exact (one early).trans (inductionHypothesis late)
  exact passed text.toList listed

/-- A choice of fixed texts that fits passes one of them, or nothing when there is none. -/
theorem leads_of_mem_choice {texts : List String} {start found : Reached κ}
    (listed : found ∈ (choice (texts.map exactly)).successes start) :
    ∃ text, (texts = [] ∧ text = "" ∨ text ∈ texts) ∧
      start.cursor.Leads text.toList found.cursor := by
  induction texts with
  | nil =>
    obtain rfl := List.mem_singleton.mp listed
    exact ⟨"", Or.inl ⟨rfl, rfl⟩, .refl _⟩
  | cons first rest inductionHypothesis =>
    cases rest with
    | nil => exact ⟨first, Or.inr List.mem_cons_self, leads_of_mem_exactly listed⟩
    | cons second others =>
      rcases List.mem_append.mp listed with here | later
      · exact ⟨first, Or.inr List.mem_cons_self, leads_of_mem_exactly here⟩
      · obtain ⟨text, among, leads⟩ := inductionHypothesis later
        have present := among.resolve_left fun none => absurd none.1 (List.cons_ne_nil _ _)
        exact ⟨text, Or.inr (List.mem_cons_of_mem first present), leads⟩

/-- A fixed text fits where it stands. -/
theorem exists_mem_exactly {text : String} {start : Reached κ} {rest : List Char}
    (ahead : start.cursor.ahead = text.toList ++ rest) :
    ∃ found, found ∈ (Pattern.exactly text).successes start := by
  have fits (letters : List Char) {start : Reached κ}
      (ahead : start.cursor.ahead = letters ++ rest) :
      ∃ found, found ∈
        (sequence (letters.map fun c => (.one (· == c) : Pattern κ))).successes start := by
    induction letters generalizing start with
    | nil => exact ⟨start, List.mem_singleton_self start⟩
    | cons c others inductionHypothesis =>
      have one : ⟨⟨some c, others ++ rest, start.cursor.offset + 1⟩, start.captured⟩ ∈
          (Pattern.one (· == c)).successes start :=
        mem_one.mpr ⟨c, others ++ rest, ahead, BEq.refl c, rfl⟩
      cases others with
      | nil => exact ⟨_, one⟩
      | cons second later =>
        have further : (⟨⟨some c, second :: later ++ rest, start.cursor.offset + 1⟩,
            start.captured⟩ : Reached κ).cursor.ahead = second :: later ++ rest := rfl
        obtain ⟨found, listed⟩ := inductionHypothesis further
        exact ⟨found, List.mem_flatMap.mpr ⟨_, one, listed⟩⟩
  exact fits text.toList ahead

/-- What fits one of some patterns fits their choice. -/
theorem mem_choice {patterns : List (Pattern κ)} {pattern : Pattern κ} {start found : Reached κ}
    (among : pattern ∈ patterns) (listed : found ∈ pattern.successes start) :
    found ∈ (choice patterns).successes start := by
  induction patterns with
  | nil => exact absurd among List.not_mem_nil
  | cons first rest inductionHypothesis =>
    cases rest with
    | nil =>
      obtain rfl := List.mem_singleton.mp among
      exact listed
    | cons second others =>
      rcases List.mem_cons.mp among with rfl | later
      · exact List.mem_append_left _ listed
      · exact List.mem_append_right _ (inductionHypothesis later)

/-- Three patterns after one another may be grouped either way. -/
theorem successes_seq_assoc (first second third : Pattern κ) (start : Reached κ) :
    (Pattern.seq (.seq first second) third).successes start =
      (Pattern.seq first (.seq second third)).successes start := by
  rw [successes_seq, successes_seq, List.flatMap_assoc]
  rfl

/-- A character that fits leads behind it. -/
theorem successes_one (holds : Char → Bool) {c : Char} (fits : holds c = true)
    (before : Option Char) (rest : List Char) (offset : Nat) (captured : List (Captured κ)) :
    (Pattern.one holds).successes ⟨⟨before, c :: rest, offset⟩, captured⟩ =
      [⟨⟨some c, rest, offset + 1⟩, captured⟩] := by
  simp [successes_one_cons, fits]

section Capture

variable {name : κ} {inner : Pattern κ} {holds : Char → Bool}

/-- What is captured up to a character is a captured stretch of what leads behind it. -/
theorem successes_capture_one (start : Reached κ) :
    (Pattern.seq (.capture name inner) (.one holds)).successes start =
      ((Pattern.seq inner (.one holds)).successes start).map fun found =>
        ⟨found.cursor,
          ⟨name, ⟨start.cursor.offset, found.cursor.offset - 1⟩,
            start.cursor.ahead.take (found.cursor.offset - 1 - start.cursor.offset)⟩ ::
              found.captured⟩ := by
  simp only [successes_seq, successes_capture, List.flatMap_map, List.map_flatMap]
  refine List.flatMap_congr fun middle _ => ?_
  obtain ⟨⟨before, ahead, offset⟩, captured⟩ := middle
  cases ahead with
  | nil => rfl
  | cons c rest =>
    cases passes : holds c with
    | false => simp [successes_one_cons, passes]
    | true => simp [successes_one_cons, passes]

end Capture

section Stop

variable {holds stop : Char → Bool}

/-- A run up to a character that ends it leads to one place. -/
theorem successes_run_one (apart : ∀ c, stop c = true → holds c = false) {passed : List Char}
    (all : ∀ c ∈ passed, holds c = true) {last : Char} (ends : stop last = true)
    (before : Option Char) (rest : List Char) (offset : Nat) (captured : List (Captured κ)) :
    (Pattern.seq (.run holds) (.one stop)).successes
        ⟨⟨before, passed ++ last :: rest, offset⟩, captured⟩ =
      [⟨⟨some last, rest, offset + passed.length + 1⟩, captured⟩] := by
  induction passed generalizing before offset with
  | nil =>
    simp [successes_seq, successes_run, successes_one_cons, Cursor.runFrom, apart last ends, ends]
  | cons c others inductionHypothesis =>
    have passes : holds c = true := all c List.mem_cons_self
    have stays : stop c = false := by
      cases stops : stop c with
      | false => rfl
      | true => rw [apart c stops] at passes; cases passes
    have later :=
      inductionHypothesis (fun d listed => all d (List.mem_cons_of_mem c listed)) (some c)
      (offset + 1)
    have runs : (Pattern.run holds).successes
        ⟨⟨before, c :: others ++ last :: rest, offset⟩, captured⟩ =
        (Pattern.run holds).successes
            ⟨⟨some c, others ++ last :: rest, offset + 1⟩, captured⟩ ++
          [⟨⟨before, c :: others ++ last :: rest, offset⟩, captured⟩] := by
      simp [successes_run, Cursor.runFrom, passes]
    have none : (Pattern.one stop).successes
        ⟨⟨before, c :: others ++ last :: rest, offset⟩, captured⟩ = [] := by
      simp [successes_one_cons, stays]
    rw [successes_seq] at later ⊢
    rw [runs, List.flatMap_append, later, List.flatMap_singleton, none, List.append_nil,
      List.length_cons, Nat.add_right_comm offset 1, Nat.add_assoc offset]

/-- A run up to a character that ends it is followed by this character. -/
theorem exists_of_mem_run_one {start found : Reached κ}
    (listed : found ∈ (Pattern.seq (.run holds) (.one stop)).successes start) :
    ∃ passed last rest, start.cursor.ahead = passed ++ last :: rest ∧
      (∀ c ∈ passed, holds c = true) ∧ stop last = true := by
  obtain ⟨middle, early, late⟩ := List.mem_flatMap.mp listed
  obtain ⟨cursor, inside, rfl⟩ := List.mem_map.mp early
  obtain ⟨passed, all, leads⟩ := Cursor.leads_of_mem_runFrom (List.mem_reverse.mp inside)
  obtain ⟨before, ahead, offset⟩ := cursor
  cases ahead with
  | nil => exact absurd late List.not_mem_nil
  | cons c rest =>
    rw [successes_one_cons] at late
    split at late
    · next stops => exact ⟨passed, c, rest, leads.text, all, stops⟩
    · exact absurd late List.not_mem_nil

end Stop

section Search

variable {pattern : Pattern κ} {found : Match κ}

/-- What is reported at a place is a match that starts there. -/
theorem mem_matchesAt_of_report {cursor : Cursor} (listed : found ∈ (pattern.report cursor).1) :
    found ∈ pattern.matchesAt cursor := by
  unfold report at listed
  dsimp only at listed
  split at listed
  · exact absurd listed List.not_mem_nil
  · next preferred others shape =>
    have first : preferred ∈ pattern.matchesAt cursor := by
      rw [shape]
      exact List.mem_cons_self
    split at listed
    · split at listed
      · next longer located =>
        rcases List.mem_cons.mp listed with rfl | second
        · exact first
        · rw [List.mem_singleton.mp second]
          exact List.mem_of_find?_eq_some located
      · rw [List.mem_singleton.mp listed]
        exact first
    · rw [List.mem_singleton.mp listed]
      exact first

/-- A match of a search is reported at a place of the text. -/
theorem exists_report_of_mem_search {text : List Char} (listed : found ∈ pattern.search text) :
    ∃ front cursor, (Cursor.start text).Leads front cursor ∧ found ∈ (pattern.report cursor).1 := by
  have search (front rest : List Char) (before : Option Char) (offset resume : Nat)
      (leads : (Cursor.start text).Leads front ⟨before, rest, offset⟩)
      (listed : found ∈ pattern.searchFrom before offset resume rest) :
      ∃ front cursor, (Cursor.start text).Leads front cursor ∧
        found ∈ (pattern.report cursor).1 := by
    induction rest generalizing front before offset resume with
    | nil =>
      rw [searchFrom] at listed
      split at listed
      · exact absurd listed List.not_mem_nil
      · exact ⟨front, _, leads, listed⟩
    | cons c rest inductionHypothesis =>
      have next := leads.trans (.one before c rest offset)
      rw [searchFrom] at listed
      split at listed
      · exact inductionHypothesis _ _ _ _ next listed
      · rcases List.mem_append.mp listed with here | later
        · exact ⟨front, _, leads, here⟩
        · exact inductionHypothesis _ _ _ _ next later
  exact search [] text none 0 0 (.refl _) listed

/-- A match of a search starts at a place of the text. -/
theorem exists_place_of_mem_search {text : List Char} (listed : found ∈ pattern.search text) :
    ∃ front cursor, (Cursor.start text).Leads front cursor ∧
      found ∈ pattern.matchesAt cursor := by
  obtain ⟨front, cursor, leads, reported⟩ := exists_report_of_mem_search listed
  exact ⟨front, cursor, leads, mem_matchesAt_of_report reported⟩

end Search

end Pattern

end FeatureLayout
