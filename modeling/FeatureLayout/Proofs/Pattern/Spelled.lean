import FeatureLayout.Proofs.Pattern.Order

/-!
# What patterns spell

Most patterns look at nothing but the text that they pass. Such a pattern spells a stretch or does
not, wherever the stretch stands; in a longer text only the places of what is captured are further
on. What fits at a place can then be read off the text in front of it, without following the search
for it.

A search passes a stretch in which nothing fits, and what fits at a place and is preferred there.
-/

namespace FeatureLayout

variable {κ : Type}

/-- A captured stretch, further on in the text. -/
def Captured.moved (distance : Nat) (captured : Captured κ) : Captured κ :=
  { captured with span := ⟨distance + captured.span.start, distance + captured.span.stop⟩ }

theorem Captured.moved_moved (first second : Nat) (captured : List (Captured κ)) :
    (captured.map (Captured.moved second)).map (Captured.moved first) =
      captured.map (Captured.moved (first + second)) := by
  rw [List.map_map]
  refine List.map_congr_left fun item _ => ?_
  simp only [Function.comp_apply, Captured.moved, Nat.add_assoc]

namespace Cursor

/-- What is ahead is passed up to any place. -/
theorem exists_leads {cursor : Cursor} {passed rest : List Char}
    (ahead : cursor.ahead = passed ++ rest) :
    ∃ place, cursor.Leads passed place ∧ place.ahead = rest :=
  ⟨⟨passed.getLast?.or cursor.before, rest, cursor.offset + passed.length⟩, ⟨ahead, rfl, rfl⟩, rfl⟩

namespace Leads

/-- A place is passed on the way to one behind it. -/
theorem exists_between {first last : Cursor} {front back : List Char}
    (leads : first.Leads (front ++ back) last) :
    ∃ middle, first.Leads front middle ∧ middle.Leads back last := by
  have whole := leads.text
  rw [List.append_assoc] at whole
  obtain ⟨middle, early, ahead⟩ := exists_leads whole
  refine ⟨middle, early, ahead, ?_, ?_⟩
  · rw [leads.offset, early.offset, List.length_append, Nat.add_assoc]
  · rw [leads.before, early.before, List.getLast?_append, Option.or_assoc]

/-- Where a stretch leads is determined. -/
theorem unique {first second other : Cursor} {passed : List Char}
    (leads : first.Leads passed second) (also : first.Leads passed other) : second = other := by
  obtain ⟨before, ahead, offset⟩ := second
  obtain ⟨last, rest, place⟩ := other
  obtain rfl : ahead = rest := List.append_cancel_left (leads.text.symm.trans also.text)
  obtain rfl : offset = place := leads.offset.trans also.offset.symm
  obtain rfl : before = last := leads.before.trans also.before.symm
  rfl

end Leads

/-- A run leads to every place behind characters of its class. -/
theorem mem_runFrom_of_leads {holds : Char → Bool} {before : Option Char} {offset : Nat}
    {text passed : List Char} {cursor : Cursor} (all : ∀ c ∈ passed, holds c = true)
    (leads : Cursor.Leads ⟨before, text, offset⟩ passed cursor) :
    cursor ∈ runFrom holds before offset text := by
  induction passed generalizing before offset text with
  | nil =>
    obtain rfl := leads.eq_of_nil
    cases text <;> exact List.mem_cons_self
  | cons c more inductionHypothesis =>
    obtain ⟨fits, later⟩ := List.forall_mem_cons.mp all
    obtain rfl : text = c :: more ++ cursor.ahead := leads.text
    rw [List.cons_append, runFrom, if_pos fits]
    exact List.mem_cons_of_mem _ (inductionHypothesis later leads.tail)

end Cursor

namespace Pattern

variable {pattern first second inner : Pattern κ} {text : List Char} {captured : List (Captured κ)}

/-- A text fits a pattern when nothing around it is looked at. What is captured is listed from the
last stretch to the first, by its place in the text. -/
def Spells : Pattern κ → List Char → List (Captured κ) → Prop
  | .one holds, text, captured => (∃ c, text = [c] ∧ holds c = true) ∧ captured = []
  | .run holds, text, captured => (∀ c ∈ text, holds c = true) ∧ captured = []
  | .seq first second, text, captured => ∃ front back early late, text = front ++ back ∧
      captured = late.map (.moved front.length) ++ early ∧ first.Spells front early ∧
      second.Spells back late
  | .either first second, text, captured => first.Spells text captured ∨ second.Spells text captured
  | .capture name inner, text, captured => ∃ early, inner.Spells text early ∧
      captured = ⟨name, ⟨0, text.length⟩, text⟩ :: early
  | .nothing, text, captured | .after _, text, captured | .notAfter _, text, captured
  | .notBefore _, text, captured | .wordEdge, text, captured | .lineEnd, text, captured =>
    text = [] ∧ captured = []

/-- A pattern that looks at nothing around the text that it passes. -/
def IsBlind : Pattern κ → Prop
  | .nothing | .one _ | .run _ => True
  | .seq first second | .either first second => first.IsBlind ∧ second.IsBlind
  | .capture _ inner => inner.IsBlind
  | .after _ | .notAfter _ | .notBefore _ | .wordEdge | .lineEnd => False

section Spelling

theorem spells_either :
    (Pattern.either first second).Spells text captured ↔
      first.Spells text captured ∨ second.Spells text captured := Iff.rfl

theorem spells_optional :
    (optional inner).Spells text captured ↔
      inner.Spells text captured ∨ text = [] ∧ captured = [] := Iff.rfl

/-- When the first part captures nothing, what is captured is what the second one captures. -/
theorem spells_seq (silent : ∀ text captured, first.Spells text captured → captured = []) :
    (Pattern.seq first second).Spells text captured ↔
      ∃ front back late, text = front ++ back ∧ captured = late.map (.moved front.length) ∧
        first.Spells front [] ∧ second.Spells back late := by
  constructor
  · rintro ⟨front, back, early, late, rfl, rfl, spells, later⟩
    obtain rfl := silent front early spells
    exact ⟨front, back, late, rfl, List.append_nil _, spells, later⟩
  · rintro ⟨front, back, late, rfl, rfl, spells, later⟩
    exact ⟨front, back, [], late, rfl, (List.append_nil _).symm, spells, later⟩

theorem spells_someRun {holds : Char → Bool} :
    (someRun holds : Pattern κ).Spells text captured ↔
      (text ≠ [] ∧ ∀ c ∈ text, holds c = true) ∧ captured = [] := by
  constructor
  · rintro ⟨_, back, _, _, rfl, rfl, ⟨⟨c, rfl, fits⟩, rfl⟩, all, rfl⟩
    exact ⟨⟨List.cons_ne_nil _ _, List.forall_mem_cons.mpr ⟨fits, all⟩⟩, rfl⟩
  · rintro ⟨⟨filled, all⟩, rfl⟩
    obtain ⟨c, back, rfl⟩ := List.exists_cons_of_ne_nil filled
    obtain ⟨fits, later⟩ := List.forall_mem_cons.mp all
    exact ⟨[c], back, [], [], rfl, rfl, ⟨⟨c, rfl, fits⟩, rfl⟩, later, rfl⟩

theorem spells_exactly {word : String} :
    (exactly word : Pattern κ).Spells text captured ↔ text = word.toList ∧ captured = [] := by
  have spelled (letters : List Char) {text : List Char} {captured : List (Captured κ)} :
      (sequence (letters.map fun c => (.one (· == c) : Pattern κ))).Spells text captured ↔
        text = letters ∧ captured = [] := by
    induction letters generalizing text captured with
    | nil => exact Iff.rfl
    | cons c rest inductionHypothesis =>
      have single {text : List Char} {captured : List (Captured κ)} :
          (Pattern.one (· == c) : Pattern κ).Spells text captured ↔ text = [c] ∧ captured = [] := by
        refine and_congr_left fun _ => ⟨?_, fun same => ⟨c, same, beq_self_eq_true c⟩⟩
        rintro ⟨d, rfl, same⟩
        rw [beq_iff_eq.mp same]
      cases rest with
      | nil => exact single
      | cons second others =>
        constructor
        · rintro ⟨front, back, early, late, rfl, rfl, here, later⟩
          obtain ⟨rfl, rfl⟩ := single.mp here
          obtain ⟨rfl, rfl⟩ := inductionHypothesis.mp later
          exact ⟨rfl, rfl⟩
        · rintro ⟨rfl, rfl⟩
          exact ⟨[c], second :: others, [], [], rfl, rfl, single.mpr ⟨rfl, rfl⟩,
            inductionHypothesis.mpr ⟨rfl, rfl⟩⟩
  exact spelled word.toList

end Spelling

section Blind

theorem isBlind_sequence {patterns : List (Pattern κ)}
    (each : ∀ pattern ∈ patterns, pattern.IsBlind) : (sequence patterns).IsBlind := by
  induction patterns with
  | nil => trivial
  | cons first rest inductionHypothesis =>
    obtain ⟨here, later⟩ := List.forall_mem_cons.mp each
    cases rest with
    | nil => exact here
    | cons second others => exact ⟨here, inductionHypothesis later⟩

theorem isBlind_exactly (word : String) : (exactly word : Pattern κ).IsBlind := by
  refine isBlind_sequence fun pattern listed => ?_
  obtain ⟨c, -, rfl⟩ := List.mem_map.mp listed
  trivial

/-- A blind pattern fits at a place what it spells of the text ahead. -/
theorem mem_successes_iff (blind : pattern.IsBlind) {start found : Reached κ} :
    found ∈ pattern.successes start ↔ ∃ text captured, pattern.Spells text captured ∧
      start.cursor.Leads text found.cursor ∧
      found.captured = captured.map (.moved start.cursor.offset) ++ start.captured := by
  induction pattern generalizing start found with
  | nothing =>
    constructor
    · intro listed
      obtain rfl := List.mem_singleton.mp listed
      exact ⟨[], [], ⟨rfl, rfl⟩, .refl _, rfl⟩
    · rintro ⟨_, _, ⟨rfl, rfl⟩, leads, kept⟩
      obtain ⟨cursor, captured⟩ := found
      obtain rfl : cursor = start.cursor := leads.eq_of_nil
      obtain rfl : captured = start.captured := kept
      exact List.mem_singleton_self _
  | one holds =>
    rw [mem_one]
    constructor
    · rintro ⟨c, rest, ahead, fits, rfl⟩
      exact ⟨[c], [], ⟨⟨c, rfl, fits⟩, rfl⟩, ⟨ahead, rfl, rfl⟩, rfl⟩
    · rintro ⟨_, _, ⟨⟨c, rfl, fits⟩, rfl⟩, leads, kept⟩
      obtain ⟨cursor, captured⟩ := found
      obtain rfl : captured = start.captured := kept
      have place : cursor = ⟨some c, cursor.ahead, start.cursor.offset + 1⟩ :=
        leads.unique ⟨leads.text, rfl, rfl⟩
      exact ⟨c, cursor.ahead, leads.text, fits, congrArg (Reached.mk · start.captured) place⟩
  | run holds =>
    constructor
    · intro listed
      obtain ⟨passed, all, leads, kept⟩ := exists_of_mem_run listed
      exact ⟨passed, [], ⟨all, rfl⟩, leads, kept⟩
    · rintro ⟨passed, _, ⟨all, rfl⟩, leads, kept⟩
      obtain ⟨cursor, captured⟩ := found
      obtain rfl : captured = start.captured := kept
      exact List.mem_map.mpr
        ⟨cursor, List.mem_reverse.mpr (Cursor.mem_runFrom_of_leads all leads), rfl⟩
  | seq first second firstHypothesis secondHypothesis =>
    constructor
    · intro listed
      obtain ⟨middle, early, late⟩ := List.mem_flatMap.mp listed
      obtain ⟨front, former, spells, leads, kept⟩ := (firstHypothesis blind.1).mp early
      obtain ⟨back, latter, also, onwards, added⟩ := (secondHypothesis blind.2).mp late
      refine ⟨front ++ back, latter.map (.moved front.length) ++ former,
        ⟨front, back, former, latter, rfl, rfl, spells, also⟩, leads.trans onwards, ?_⟩
      rw [added, kept, List.map_append, Captured.moved_moved, leads.offset, List.append_assoc]
    · rintro ⟨_, _, ⟨front, back, former, latter, rfl, rfl, spells, also⟩, leads, kept⟩
      obtain ⟨middle, early, late⟩ := leads.exists_between
      refine List.mem_flatMap.mpr
        ⟨⟨middle, former.map (.moved start.cursor.offset) ++ start.captured⟩,
          (firstHypothesis blind.1).mpr ⟨front, former, spells, early, rfl⟩,
          (secondHypothesis blind.2).mpr ⟨back, latter, also, late, ?_⟩⟩
      rw [kept, List.map_append, Captured.moved_moved, early.offset, List.append_assoc]
  | either first second firstHypothesis secondHypothesis =>
    refine List.mem_append.trans ?_
    rw [firstHypothesis blind.1, secondHypothesis blind.2, ← exists_or]
    refine exists_congr fun text => ?_
    rw [← exists_or]
    exact exists_congr fun captured => or_and_right.symm
  | capture name inner innerHypothesis =>
    constructor
    · intro listed
      obtain ⟨reached, inside, rfl⟩ := List.mem_map.mp listed
      obtain ⟨text, former, spells, leads, kept⟩ := (innerHypothesis blind).mp inside
      refine ⟨text, _, ⟨former, spells, rfl⟩, leads, ?_⟩
      dsimp only
      rw [leads.take_eq, kept, leads.offset]
      rfl
    · rintro ⟨text, _, ⟨former, spells, rfl⟩, leads, kept⟩
      refine List.mem_map.mpr
        ⟨⟨found.cursor, former.map (.moved start.cursor.offset) ++ start.captured⟩,
          (innerHypothesis blind).mpr ⟨text, former, spells, leads, rfl⟩, ?_⟩
      obtain ⟨cursor, captured⟩ := found
      dsimp only at leads kept ⊢
      rw [leads.take_eq, kept, leads.offset]
      rfl
  | after holds | notAfter holds | notBefore inner | wordEdge | lineEnd => exact blind.elim

/-- What fits at a place is what a blind pattern spells of the text ahead. -/
theorem mem_matchesAt_iff (blind : pattern.IsBlind) {cursor : Cursor} {found : Match κ} :
    found ∈ pattern.matchesAt cursor ↔ ∃ text captured rest, pattern.Spells text captured ∧
      cursor.ahead = text ++ rest ∧
      found = ⟨⟨cursor.offset, cursor.offset + text.length⟩, text,
        captured.map (.moved cursor.offset)⟩ := by
  refine List.mem_map.trans ?_
  constructor
  · rintro ⟨reached, listed, rfl⟩
    obtain ⟨text, captured, spells, leads, kept⟩ := (mem_successes_iff blind).mp listed
    refine ⟨text, captured, reached.cursor.ahead, spells, leads.text, ?_⟩
    rw [leads.take_eq, kept, leads.offset, List.append_nil]
  · rintro ⟨text, captured, rest, spells, ahead, rfl⟩
    obtain ⟨place, leads, -⟩ := Cursor.exists_leads ahead
    refine ⟨⟨place, captured.map (.moved cursor.offset)⟩,
      (mem_successes_iff blind).mpr ⟨text, captured, spells, leads, (List.append_nil _).symm⟩, ?_⟩
    dsimp only
    rw [leads.take_eq, leads.offset]

/-- A pattern behind a word edge fits at word edges. -/
theorem matchesAt_wordEdge (pattern : Pattern κ) (cursor : Cursor) :
    (Pattern.seq .wordEdge pattern).matchesAt cursor =
      if cursor.atWordEdge then pattern.matchesAt cursor else [] := by
  rw [matchesAt, successes_seq, successes_wordEdge]
  split
  · rw [List.flatMap_singleton, matchesAt]
  · rfl

end Blind

section Onwards

variable {first second : Cursor} {passed : List Char}

/-- A search from a place on. -/
def searchAt (pattern : Pattern κ) (cursor : Cursor) : List (Match κ) :=
  pattern.searchFrom cursor.before cursor.offset 0 cursor.ahead

theorem search_eq (pattern : Pattern κ) (text : List Char) :
    pattern.search text = pattern.searchAt (.start text) := rfl

/-- Where a search may go on behind a match, it goes on from its place. -/
theorem searchFrom_of_le {before : Option Char} {offset resume : Nat} (early : resume ≤ offset)
    (pattern : Pattern κ) (text : List Char) :
    pattern.searchFrom before offset resume text = pattern.searchFrom before offset 0 text := by
  cases text with
  | nil => rw [searchFrom, searchFrom, if_neg (Nat.not_lt.mpr early), if_neg (Nat.not_lt_zero _)]
  | cons c rest =>
    rw [searchFrom, searchFrom, if_neg (Nat.not_lt.mpr early), if_neg (Nat.not_lt_zero _)]

/-- A search passes what it has found. -/
theorem searchFrom_of_leads (pattern : Pattern κ) (leads : first.Leads passed second) :
    pattern.searchFrom first.before first.offset second.offset first.ahead =
      pattern.searchAt second := by
  induction passed generalizing first with
  | nil =>
    obtain rfl := leads.eq_of_nil
    exact searchFrom_of_le (Nat.le_refl _) pattern _
  | cons c more inductionHypothesis =>
    obtain ⟨before, ahead, offset⟩ := first
    obtain rfl : ahead = c :: more ++ second.ahead := leads.text
    have behind : offset < second.offset := by
      rw [leads.offset]
      exact Nat.lt_add_of_pos_right (Nat.succ_pos _)
    rw [List.cons_append, searchFrom, if_pos behind]
    exact inductionHypothesis leads.tail

/-- A search passes a stretch in which nothing fits. -/
theorem searchAt_of_barren (leads : first.Leads passed second)
    (barren : ∀ early c late cursor, passed = early ++ c :: late → first.Leads early cursor →
      cursor.ahead = c :: late ++ second.ahead → pattern.matchesAt cursor = []) :
    pattern.searchAt first = pattern.searchAt second := by
  induction passed generalizing first with
  | nil => rw [leads.eq_of_nil]
  | cons c more inductionHypothesis =>
    have none := barren [] c more first rfl (.refl _) leads.text
    obtain ⟨before, ahead, offset⟩ := first
    obtain rfl : ahead = c :: more ++ second.ahead := leads.text
    have silent : pattern.report ⟨before, c :: (more ++ second.ahead), offset⟩ = ([], offset) := by
      rw [report, ← List.cons_append, none]
    rw [searchAt]
    dsimp only
    rw [List.cons_append, searchFrom, if_neg (Nat.not_lt_zero _), silent]
    dsimp only
    rw [List.nil_append, searchFrom_of_le (Nat.le_succ _)]
    refine inductionHypothesis leads.tail fun early d late cursor whole onwards ahead => ?_
    exact barren (c :: early) d late cursor (by rw [whole]; rfl)
      ((Cursor.Leads.one before c (more ++ second.ahead) offset).trans onwards) ahead

/-- A search reports what is preferred at a place, and goes on behind it. -/
theorem searchAt_of_head {found : Match κ} (leads : first.Leads passed second)
    (filled : passed ≠ []) (preferred : (pattern.matchesAt first).head? = some found)
    (stop : found.span.stop = second.offset) :
    pattern.searchAt first = found :: pattern.searchAt second := by
  obtain ⟨c, more, rfl⟩ := List.exists_cons_of_ne_nil filled
  obtain ⟨others, whole⟩ := List.head?_eq_some_iff.mp preferred
  obtain ⟨before, ahead, offset⟩ := first
  obtain rfl : ahead = c :: more ++ second.ahead := leads.text
  have behind : second.offset ≠ offset := by
    rw [leads.offset]
    exact Nat.ne_of_gt (Nat.lt_add_of_pos_right (Nat.succ_pos _))
  have reported : pattern.report ⟨before, c :: (more ++ second.ahead), offset⟩ =
      ([found], second.offset) := by
    rw [report, ← List.cons_append, whole]
    dsimp only
    rw [stop, if_neg behind]
  rw [searchAt]
  dsimp only
  rw [List.cons_append, searchFrom, if_neg (Nat.not_lt_zero _), reported]
  dsimp only
  rw [List.singleton_append]
  exact congrArg (found :: ·) (searchFrom_of_leads pattern leads.tail)

end Onwards

end Pattern

end FeatureLayout
