import FeatureLayout.Proofs.Pattern.Stable

/-!
# Searching around a replaced stretch

A `Hole` is a stretch between two quotes for which another one is put in. Places on either side of
the hole correspond to each other in the two texts, and what fits a pattern at one of them fits at
the other, when the pattern is made of characters and runs that do not take the quote, and of runs
up to some end that take all of the hole.

A pattern may lead right behind the opening quote, when a stretch between quotes ends there.
-/

namespace FeatureLayout

open Text

/-- A stretch between quotes in a text, the stretch that is put in its place, and what follows the
closing quote. -/
structure Hole where
  quote : Char
  old : List Char
  new : List Char
  back : List Char
  /-- The offset of the stretch. -/
  start : Nat

namespace Hole

variable (hole : Hole)

/-- A stretch between the quotes, with what follows. -/
def around (text : List Char) : List Char := hole.quote :: (text ++ hole.quote :: hole.back)

/-- The hole for the way back. -/
def swap : Hole := { hole with old := hole.new, new := hole.old }

/-- Corresponding places in front of the opening or behind the closing quote. -/
inductive Beside : Cursor → Cursor → Prop
  | ahead (before : Option Char) (front : List Char) (offset : Nat)
      (leads : offset + front.length + 1 = hole.start) :
      Beside ⟨before, front ++ hole.around hole.old, offset⟩
        ⟨before, front ++ hole.around hole.new, offset⟩
  | behind (before : Option Char) (rest : List Char) (place offset other : Nat)
      (past : hole.start < place) (offsetAt : offset = place + hole.old.length)
      (otherAt : other = place + hole.new.length) :
      Beside ⟨before, rest, offset⟩ ⟨before, rest, other⟩

/-- Corresponding places, or the two places right behind the opening quote. -/
inductive Landed : Cursor → Cursor → Prop
  | beside {first second : Cursor} (places : hole.Beside first second) : Landed first second
  | within : Landed ⟨some hole.quote, hole.old ++ hole.quote :: hole.back, hole.start⟩
      ⟨some hole.quote, hole.new ++ hole.quote :: hole.back, hole.start⟩

/-- Corresponding stretches of text: the same one at corresponding places, or the two stretches in
the hole. -/
inductive Moved : Span → List Char → Span → List Char → Prop
  | ahead (span : Span) (text : List Char) (early : span.stop < hole.start) :
      Moved span text span text
  | whole : Moved ⟨hole.start, hole.start + hole.old.length⟩ hole.old
      ⟨hole.start, hole.start + hole.new.length⟩ hole.new
  | behind (place : Nat) (text : List Char) (first second : Span) (past : hole.start < place)
      (startAt : first.start = place + hole.old.length)
      (otherAt : second.start = place + hole.new.length)
      (stopAt : first.stop = first.start + text.length)
      (otherStop : second.stop = second.start + text.length) :
      Moved first text second text

theorem Beside.swap {first second : Cursor} (places : hole.Beside first second) :
    hole.swap.Beside second first := by
  cases places with
  | ahead before front offset leads => exact .ahead before front offset leads
  | behind before rest place offset other past offsetAt otherAt =>
    exact .behind before rest place other offset past otherAt offsetAt

theorem Moved.swap {first second : Span} {text other : List Char}
    (moved : hole.Moved first text second other) : hole.swap.Moved second other first text := by
  cases moved with
  | ahead _ _ early => exact .ahead _ _ early
  | whole => exact .whole
  | behind place _ _ _ past startAt otherAt stopAt otherStop =>
    exact .behind place _ _ _ past otherAt startAt otherStop stopAt

/-- Corresponding stretches lie in front of the hole, are the hole, or lie behind it. -/
theorem Moved.split {first second : Span} {text other : List Char}
    (moved : hole.Moved first text second other) :
    (first.stop < hole.start ∧ second = first ∧ other = text) ∨
      (first = ⟨hole.start, hole.start + hole.old.length⟩ ∧ second.start = hole.start ∧
        other = hole.new) ∨
      (hole.start < first.start ∧ hole.start < second.start ∧ other = text) := by
  cases moved with
  | ahead _ _ early => exact Or.inl ⟨early, rfl, rfl⟩
  | whole => exact Or.inr (Or.inl ⟨rfl, rfl, rfl⟩)
  | behind place _ _ _ past startAt otherAt stopAt otherStop =>
    exact Or.inr (Or.inr ⟨by omega, by omega, rfl⟩)

section Patterns

variable {κ : Type} (tracked : κ)

/-- Corresponding captures have one name, and those that are tracked correspond in their text. -/
def Remembered (first second : Captured κ) : Prop :=
  first.name = second.name ∧
    (first.name = tracked → hole.Moved first.span first.text second.span second.text)

variable {hole tracked} {stop : Cursor → Cursor → Prop}

/-- What is captured under a name that is not tracked may differ. -/
theorem stable_capture {start : Cursor → Cursor → Prop} {name : κ} (apart : name ≠ tracked)
    {inner : Pattern κ} (stable : Pattern.Stable (hole.Remembered tracked) start stop inner) :
    Pattern.Stable (hole.Remembered tracked) start stop (.capture name inner) := by
  intro first second alike
  have inside := stable first second alike
  rw [Pattern.successes_capture, Pattern.successes_capture]
  refine List.rel_map (fun _ _ reached => ⟨reached.cursor, .cons ?_ reached.captured⟩) inside
  exact ⟨rfl, fun same => absurd same apart⟩

/-- A character of a class without the quote. -/
theorem stable_one {holds : Char → Bool} (rejects : holds hole.quote = false) :
    Pattern.Stable (hole.Remembered tracked) hole.Beside hole.Beside (.one holds) := by
  rintro ⟨_, captured⟩ ⟨_, others⟩ ⟨places, remembered⟩
  cases places with
  | ahead before front offset leads =>
    cases front with
    | nil => simp [Pattern.successes_one_cons, around, rejects]
    | cons c rest =>
      cases passes : holds c with
      | false => simp [Pattern.successes_one_cons, passes]
      | true =>
        have next : offset + 1 + rest.length + 1 = hole.start := by
          rw [← leads, List.length_cons]
          omega
        simpa [Pattern.successes_one_cons, passes] using ⟨.ahead (some c) rest (offset + 1) next, remembered⟩
  | behind before rest place offset other past offsetAt otherAt =>
    cases rest with
    | nil => simp [Pattern.successes_one_nil]
    | cons c rest =>
      cases passes : holds c with
      | false => simp [Pattern.successes_one_cons, passes]
      | true =>
        have next : hole.Beside ⟨some c, rest, offset + 1⟩ ⟨some c, rest, other + 1⟩ :=
          .behind _ _ (place + 1) _ _ (by omega) (by omega) (by omega)
        simpa [Pattern.successes_one_cons, passes] using ⟨next, remembered⟩

/-- A run of a class without the quote. -/
theorem stable_run {holds : Char → Bool} (rejects : holds hole.quote = false) :
    Pattern.Stable (hole.Remembered tracked) hole.Beside hole.Beside (.run holds) := by
  have runs : ∀ first second, hole.Beside first second → List.Forall₂ hole.Beside
      (Cursor.runFrom holds first.before first.offset first.ahead)
      (Cursor.runFrom holds second.before second.offset second.ahead) := by
    intro first second places
    cases places with
    | ahead before front offset leads =>
      induction front generalizing before offset with
      | nil =>
        have here := Beside.ahead before [] offset leads
        simpa [Cursor.runFrom, around, rejects] using here
      | cons c rest inductionHypothesis =>
        have here := Beside.ahead before (c :: rest) offset leads
        have next : offset + 1 + rest.length + 1 = hole.start := by
          rw [← leads, List.length_cons]
          omega
        have later := inductionHypothesis (some c) (offset + 1) next
        simp only [List.cons_append, Cursor.runFrom]
        refine .cons here ?_
        split
        · exact later
        · exact .nil
    | behind before rest place offset other past offsetAt otherAt =>
      induction rest generalizing before place offset other with
      | nil => exact .cons (.behind _ _ place _ _ past offsetAt otherAt) .nil
      | cons c rest inductionHypothesis =>
        have later := inductionHypothesis (some c) (place + 1) (offset + 1) (other + 1) (by omega)
          (by omega) (by omega)
        simp only [Cursor.runFrom]
        refine .cons (.behind _ _ place _ _ past offsetAt otherAt) ?_
        split
        · exact later
        · exact .nil
  intro first second alike
  rw [Pattern.successes_run, Pattern.successes_run]
  refine List.rel_map (fun _ _ places => ⟨places, alike.captured⟩) ?_
  exact List.rel_reverse (runs _ _ alike.cursor)

theorem stable_wordEdge :
    Pattern.Stable (hole.Remembered tracked) hole.Beside hole.Beside (.wordEdge : Pattern κ) := by
  rintro ⟨first, captured⟩ ⟨second, others⟩ alike
  have same : first.atWordEdge = second.atWordEdge := by
    cases alike.cursor with
    | ahead before front offset leads => cases front <;> rfl
    | behind before rest place offset other past offsetAt otherAt => rfl
  simp only [Pattern.successes_wordEdge, same]
  split
  · exact .cons alike .nil
  · exact .nil

/-- A fixed text without the quote. -/
theorem stable_exactly {text : String} (apart : hole.quote ∉ text.toList) :
    Pattern.Stable (hole.Remembered tracked) hole.Beside hole.Beside
      (Pattern.exactly text : Pattern κ) := by
  refine Pattern.stable_sequence fun pattern listed => ?_
  obtain ⟨c, present, rfl⟩ := List.mem_map.mp listed
  refine stable_one (beq_eq_false_iff_ne.mpr ?_)
  rintro rfl
  exact apart present

theorem stable_someRun {holds : Char → Bool} (rejects : holds hole.quote = false) :
    Pattern.Stable (hole.Remembered tracked) hole.Beside hole.Beside
      (Pattern.someRun holds : Pattern κ) :=
  (stable_one rejects).seq (stable_run rejects)

/-- A class takes all of a stretch between the quotes when it takes the quote and the stretch. -/
theorem holds_quoted {holds : Char → Bool} (quote : holds hole.quote = true) {text : List Char}
    (inner : ∀ c ∈ text, holds c = true) :
    ∀ c ∈ hole.quote :: (text ++ [hole.quote]), holds c = true := by
  intro c listed
  simp only [List.mem_cons, List.mem_append, List.not_mem_nil, or_false] at listed
  rcases listed with rfl | listed | rfl
  · exact quote
  · exact inner c listed
  · exact quote

/-- A character that a class refuses stands behind the hole when the class takes all of the hole. -/
theorem exists_back_of_around {holds : Char → Bool} (quote : holds hole.quote = true)
    {text : List Char} (inner : ∀ c ∈ text, holds c = true) {last : Char}
    (refuses : holds last = false) {inside rest : List Char}
    (split : hole.around text = inside ++ last :: rest) :
    ∃ further, inside = hole.quote :: (text ++ [hole.quote]) ++ further ∧
      hole.back = further ++ last :: rest := by
  have parts : inside ++ last :: rest = (hole.quote :: (text ++ [hole.quote])) ++ hole.back := by
    simpa [around] using split.symm
  refine exists_append_of_not_mem parts fun listed => ?_
  rw [holds_quoted quote inner last listed] at refuses
  cases refuses

/-- A run up to a character that ends it passes the hole when its class takes all of the hole. -/
theorem Beside.passes {holds stop : Char → Bool} (apart : ∀ c, stop c = true → holds c = false)
    (quote : holds hole.quote = true) (old : ∀ c ∈ hole.old, holds c = true)
    (new : ∀ c ∈ hole.new, holds c = true) {first second : Cursor}
    (places : hole.Beside first second) {passed rest : List Char} {last : Char}
    (shape : first.ahead = passed ++ last :: rest) (all : ∀ c ∈ passed, holds c = true)
    (ends : stop last = true) :
    ∃ others further, second.ahead = others ++ last :: further ∧
      (∀ c ∈ others, holds c = true) ∧
      hole.Beside ⟨some last, rest, first.offset + passed.length + 1⟩
        ⟨some last, further, second.offset + others.length + 1⟩ := by
  have refuses : holds last = false := apart last ends
  cases places with
  | behind before text place offset other past offsetAt otherAt =>
    refine ⟨passed, rest, shape, all, .behind _ _ (place + passed.length + 1) _ _ ?_ ?_ ?_⟩
    · omega
    · dsimp only
      omega
    · dsimp only
      omega
  | ahead before front offset leads =>
    rcases List.append_eq_append_iff.mp shape with ⟨inside, whole, split⟩ | ⟨left, whole, split⟩
    · obtain ⟨further, rfl, back⟩ := exists_back_of_around quote old refuses split
      refine ⟨front ++ (hole.quote :: (hole.new ++ [hole.quote]) ++ further), rest, ?_, ?_,
        .behind _ _ (hole.start + further.length + 2) _ _ ?_ ?_ ?_⟩
      · simp [around, back]
      · intro c listed
        rcases List.mem_append.mp listed with listed | listed
        · exact all c (by simp [whole, listed])
        · rcases List.mem_append.mp listed with listed | listed
          · exact holds_quoted quote new c listed
          · exact all c (by simp [whole, listed])
      · omega
      · simp only [whole, List.length_append, List.length_cons, List.length_nil]
        omega
      · simp only [List.length_append, List.length_cons, List.length_nil]
        omega
    · cases left with
      | nil =>
        have same : last = hole.quote := (List.cons.inj split).1
        rw [same, quote] at refuses
        cases refuses
      | cons c others =>
        obtain ⟨rfl, remaining⟩ := List.cons.inj split
        obtain rfl := remaining
        refine ⟨passed, others ++ hole.around hole.new, by simp [whole], all, .ahead _ _ _ ?_⟩
        rw [← leads, whole, List.length_append, List.length_cons]
        dsimp only
        omega

/-- A run up to a character that ends it is stable when its class takes all of the hole. -/
theorem stable_run_one {holds stop : Char → Bool} (apart : ∀ c, stop c = true → holds c = false)
    (quote : holds hole.quote = true) (old : ∀ c ∈ hole.old, holds c = true)
    (new : ∀ c ∈ hole.new, holds c = true) :
    Pattern.Stable (hole.Remembered tracked) hole.Beside hole.Beside
      (.seq (.run holds) (.one stop)) := by
  refine Pattern.stable_of_forms
    (fun cursor (form : List Char × Char × List Char) =>
      cursor.ahead = form.1 ++ form.2.1 :: form.2.2 ∧ (∀ c ∈ form.1, holds c = true) ∧
        stop form.2.1 = true)
    (fun cursor form => ⟨some form.2.1, form.2.2, cursor.offset + form.1.length + 1⟩)
    (fun _ _ => []) ?_ ?_ ?_ ?_
  · rintro ⟨before, _, offset⟩ ⟨passed, last, rest⟩ captured ⟨rfl, all, ends⟩
    exact Pattern.successes_run_one apart all ends before rest offset captured
  · intro cursor captured some
    obtain ⟨found, listed⟩ := List.exists_mem_of_ne_nil _ some
    obtain ⟨passed, last, rest, facts⟩ := Pattern.exists_of_mem_run_one listed
    exact ⟨⟨passed, last, rest⟩, facts⟩
  · rintro first second ⟨passed, last, rest⟩ places ⟨shape, all, ends⟩
    obtain ⟨others, further, there, also, stops⟩ :=
      places.passes apart quote old new shape all ends
    exact ⟨⟨others, last, further⟩, ⟨there, also, ends⟩, stops, .nil⟩
  · rintro first second ⟨passed, last, rest⟩ places ⟨shape, all, ends⟩
    have back : holds hole.swap.quote = true := quote
    obtain ⟨others, further, there, also, -⟩ := places.swap.passes apart back new old shape all ends
    exact ⟨⟨others, last, further⟩, there, also, ends⟩

end Patterns

end Hole

end FeatureLayout
