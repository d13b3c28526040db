import FeatureLayout.Proofs.Code.Import

/-!
# Imports of a text with one specifier replaced

When a safe specifier is replaced by another safe one, each import of the text corresponds to one of
the new text and the other way around: they have the same specifier, at the same or at a shifted
place, or the two that were exchanged. The forms of imports run in step around the hole, and none of
them fits inside: each begins with a word that something other than a safe character or a quote has
to follow, apart from the import for effects, which begins with its keyword and a quote.
-/

namespace FeatureLayout

open Text Pattern Specifier Code.Import

namespace Hole.IsSafe

variable {hole : Hole} (safe : hole.IsSafe)

include safe

/-- A class that both kinds of quotes pass alike treats the quote of the hole so too. -/
theorem holds_quote (holds : Char → Bool) {value : Bool} (single : holds '\'' = value)
    (double : holds '"' = value) : holds hole.quote = value := by
  rcases safe.quote with same | same <;> rwa [same]

/-- The quote does not stand in a word that has neither kind of quote. -/
theorem quote_not_mem {word : List Char} (single : '\'' ∉ word) (double : '"' ∉ word) :
    hole.quote ∉ word := by
  rcases safe.quote with same | same <;> rwa [same]

section Stable

theorem stable_blanks : Stable (hole.Remembered .specifier) hole.Beside hole.Beside blanks :=
  stable_run (safe.holds_quote isBlank rfl rfl)

theorem stable_someBlanks :
    Stable (hole.Remembered .specifier) hole.Beside hole.Beside someBlanks :=
  stable_someRun (safe.holds_quote isBlank rfl rfl)

theorem stable_name : Stable (hole.Remembered .specifier) hole.Beside hole.Beside name :=
  stable_someRun (safe.holds_quote isNameChar rfl rfl)

theorem stable_sign {sign : Char} (single : '\'' ≠ sign) (double : '"' ≠ sign) :
    Stable (hole.Remembered Part.specifier) hole.Beside hole.Beside (.one (· == sign)) :=
  stable_one (safe.holds_quote (· == sign) (beq_eq_false_iff_ne.mpr single)
    (beq_eq_false_iff_ne.mpr double))

theorem stable_word {word : String} (single : '\'' ∉ word.toList) (double : '"' ∉ word.toList) :
    Stable (hole.Remembered Part.specifier) hole.Beside hole.Beside (exactly word) :=
  stable_exactly (safe.quote_not_mem single double)

theorem stable_keyword {word : String} (single : '\'' ∉ word.toList) (double : '"' ∉ word.toList) :
    Stable (hole.Remembered Part.specifier) hole.Beside hole.Beside (keyword word) :=
  stable_wordEdge.seq (safe.stable_word single double)

theorem stable_typeMarker :
    Stable (hole.Remembered Part.specifier) hole.Beside hole.Beside typeMarker :=
  ((safe.stable_word (by decide) (by decide)).seq safe.stable_someBlanks).optional

theorem stable_braced : Stable (hole.Remembered Part.specifier) hole.Beside hole.Beside braced := by
  have apart : ∀ c, (c == '}') = true → (c != '}') = false := by
    intro c same
    simp [bne, same]
  have passes (text : List Char) (letters : ∀ c ∈ text, isSafeChar c = true) :
      ∀ c ∈ text, (c != '}') = true := by
    intro c listed
    exact bne_iff_ne.mpr (ne_of_isSafeChar (letters c listed) (by decide))
  exact (safe.stable_sign (by decide) (by decide)).seq (stable_run_one apart
    (safe.holds_quote (· != '}') rfl rfl) (passes _ safe.old.letters) (passes _ safe.new.letters))

theorem stable_namespaced :
    Stable (hole.Remembered Part.specifier) hole.Beside hole.Beside namespaced :=
  (safe.stable_sign (by decide) (by decide)).seq (safe.stable_blanks.seq
    ((safe.stable_word (by decide) (by decide)).seq (safe.stable_someBlanks.seq safe.stable_name)))

/-- The end of `import … from` and `export … from`. -/
theorem stable_source : Stable (hole.Remembered .specifier) hole.Beside hole.Landed
    (sequence [blanks, exactly "from", blanks, specifierPattern]) :=
  safe.stable_blanks.seq ((safe.stable_word (by decide) (by decide)).seq
    (safe.stable_blanks.seq safe.stable_specifierPattern))

theorem stable_fromPattern :
    Stable (hole.Remembered .specifier) hole.Beside hole.Landed fromPattern := by
  have listed : Stable (hole.Remembered .specifier) hole.Beside hole.Beside
      (Pattern.seq name (optional
        (sequence [blanks, .one (· == ','), blanks, .either braced namespaced]))) :=
    safe.stable_name.seq (safe.stable_blanks.seq ((safe.stable_sign (by decide) (by decide)).seq
      (safe.stable_blanks.seq (safe.stable_braced.either safe.stable_namespaced)))).optional
  have clause := listed.either (safe.stable_braced.either safe.stable_namespaced)
  exact (safe.stable_keyword (by decide) (by decide)).seq (safe.stable_someBlanks.seq
    (safe.stable_typeMarker.seq ((stable_capture (by decide) clause).seq safe.stable_source)))

theorem stable_reexportPattern :
    Stable (hole.Remembered .specifier) hole.Beside hole.Landed reexportPattern := by
  have whole : Stable (hole.Remembered .specifier) hole.Beside hole.Beside
      (Pattern.seq (.one (· == '*'))
        (optional (sequence [blanks, exactly "as", someBlanks, name]))) :=
    (safe.stable_sign (by decide) (by decide)).seq (safe.stable_blanks.seq
      ((safe.stable_word (by decide) (by decide)).seq
        (safe.stable_someBlanks.seq safe.stable_name))).optional
  have clause := whole.either safe.stable_braced
  exact (safe.stable_keyword (by decide) (by decide)).seq (safe.stable_someBlanks.seq
    (safe.stable_typeMarker.seq ((stable_capture (by decide) clause).seq safe.stable_source)))

theorem stable_effectPattern :
    Stable (hole.Remembered .specifier) hole.Beside hole.Landed effectPattern :=
  (safe.stable_keyword (by decide) (by decide)).seq
    (safe.stable_blanks.seq safe.stable_specifierPattern)

end Stable

section Within

variable {start found : Reached Part} {text rest : List Char}
  (letters : ∀ c ∈ text, isSafeChar c = true)

include letters

omit safe in
/-- Inside of the hole there is a safe character or the closing quote ahead. -/
theorem not_mem_one {holds : Char → Bool} (refuses : ∀ c, isSafeChar c = true → holds c = false)
    (quote : holds hole.quote = false) (ahead : start.cursor.ahead = text ++ hole.quote :: rest) :
    found ∉ (Pattern.one holds).successes start := by
  intro listed
  obtain ⟨c, others, shape, fits, -⟩ := mem_one.mp listed
  have refused : holds c = false := by
    cases text with
    | nil =>
      obtain ⟨rfl, -⟩ := List.cons.inj (shape.symm.trans ahead)
      exact quote
    | cons d further =>
      obtain ⟨rfl, -⟩ := List.cons.inj (shape.symm.trans ahead)
      exact refuses c (letters c List.mem_cons_self)
  rw [fits] at refused
  cases refused

/-- Inside of the hole there is no white space to pass. -/
theorem ahead_of_mem_blanks (ahead : start.cursor.ahead = text ++ hole.quote :: rest)
    (listed : found ∈ blanks.successes start) :
    found.cursor.ahead = text ++ hole.quote :: rest := by
  obtain ⟨passed, all, leads, -⟩ := exists_of_mem_run listed
  cases passed with
  | nil => exact leads.text.symm.trans ahead
  | cons c others =>
    have passes :
        ⟨⟨some c, others ++ found.cursor.ahead, start.cursor.offset + 1⟩, start.captured⟩ ∈
          (Pattern.one isBlank).successes start :=
      mem_one.mpr ⟨c, _, leads.text, all c List.mem_cons_self, rfl⟩
    exact absurd passes (not_mem_one letters (fun c safe => isBlank_of_isSafeChar safe)
      (safe.holds_quote isBlank rfl rfl) ahead)

/-- In the hole a call is not closed. -/
theorem not_mem_closing (ahead : start.cursor.ahead = text ++ hole.quote :: rest) :
    found ∉ (Pattern.seq blanks (.one (· == ')'))).successes start := by
  intro listed
  obtain ⟨middle, early, late⟩ := List.mem_flatMap.mp listed
  have there := safe.ahead_of_mem_blanks letters ahead early
  refine not_mem_one letters (fun c safe => ?_) (safe.holds_quote (· == ')') rfl rfl) there late
  exact beq_eq_false_iff_ne.mpr (ne_of_isSafeChar safe (by decide))

omit safe letters in
/-- A word that fits inside of the hole ends there. -/
theorem exists_of_mem_word {word : String} (apart : hole.quote ∉ word.toList)
    (ahead : start.cursor.ahead = text ++ hole.quote :: rest)
    (listed : found ∈ (exactly word).successes start) :
    ∃ more, text = word.toList ++ more ∧ found.cursor.ahead = more ++ hole.quote :: rest := by
  have split := ahead.symm.trans (leads_of_mem_exactly listed).text
  exact exists_append_of_not_mem split apart

omit safe letters in
/-- A keyword that fits inside of the hole ends there. -/
theorem exists_of_mem_keyword {word : String} (apart : hole.quote ∉ word.toList)
    (ahead : start.cursor.ahead = text ++ hole.quote :: rest)
    (listed : found ∈ (keyword word).successes start) :
    start.cursor.atWordEdge = true ∧
      ∃ more, text = word.toList ++ more ∧ found.cursor.ahead = more ++ hole.quote :: rest := by
  obtain ⟨middle, early, late⟩ := List.mem_flatMap.mp listed
  obtain ⟨edge, rfl⟩ := mem_wordEdge.mp early
  exact ⟨edge, exists_of_mem_word apart ahead late⟩

end Within

/-- Calls are closed alike in both texts. -/
theorem stable_closing : Stable (hole.Remembered .specifier) hole.Landed hole.Landed
    (.seq blanks (.one (· == ')'))) := by
  rintro ⟨first, captured⟩ ⟨second, others⟩ ⟨places, remembered⟩
  cases places with
  | beside places =>
    have stable : Stable (hole.Remembered .specifier) hole.Beside hole.Beside
        (.seq blanks (.one (· == ')'))) :=
      safe.stable_blanks.seq (safe.stable_sign (by decide) (by decide))
    refine (stable _ _ ⟨places, remembered⟩).imp fun _ _ reached => ?_
    exact ⟨.beside reached.cursor, reached.captured⟩
  | within =>
    rw [List.eq_nil_iff_forall_not_mem.mpr fun found => safe.not_mem_closing safe.old.letters rfl,
      List.eq_nil_iff_forall_not_mem.mpr fun found => safe.not_mem_closing safe.new.letters rfl]
    exact .nil

theorem stable_callPattern :
    Stable (hole.Remembered .specifier) hole.Beside hole.Landed callPattern :=
  stable_wordEdge.seq (((safe.stable_word (by decide) (by decide)).either
    (safe.stable_word (by decide) (by decide))).seq (safe.stable_blanks.seq
      ((safe.stable_sign (by decide) (by decide)).seq (safe.stable_blanks.seq
        (safe.stable_specifierPattern.seq safe.stable_closing)))))

section Barren

variable {text : List Char} (filled : Specifier.IsSafe text)

include filled

omit safe in
/-- The letters behind a place in the hole are safe. -/
theorem letters_behind {front rest : List Char} (split : text = front ++ rest) :
    ∀ c ∈ rest, isSafeChar c = true :=
  fun c listed => filled.letters c (split ▸ List.mem_append_right front listed)

/-- No keyword with white space behind it fits inside of the hole. -/
theorem barren_keyword {word : String} (single : '\'' ∉ word.toList) (double : '"' ∉ word.toList)
    (tail : Pattern Part) : hole.Barren (.seq (keyword word) (.seq someBlanks tail)) text := by
  intro front rest before offset split follows
  refine List.map_eq_nil_iff.mpr (List.eq_nil_iff_forall_not_mem.mpr fun found listed => ?_)
  obtain ⟨middle, early, late⟩ := List.mem_flatMap.mp listed
  obtain ⟨-, more, shape, ahead⟩ :=
    exists_of_mem_keyword (safe.quote_not_mem single double) rfl early
  obtain ⟨further, someBlank, -⟩ := List.mem_flatMap.mp late
  obtain ⟨blank, first, -⟩ := List.mem_flatMap.mp someBlank
  have whole : text = (front ++ word.toList) ++ more := by rw [split, shape, List.append_assoc]
  exact not_mem_one (letters_behind filled whole) (fun c safe => isBlank_of_isSafeChar safe)
    (safe.holds_quote isBlank rfl rfl) ahead first

theorem barren_fromPattern : hole.Barren fromPattern text :=
  safe.barren_keyword filled (by decide) (by decide) _

theorem barren_reexportPattern : hole.Barren reexportPattern text :=
  safe.barren_keyword filled (by decide) (by decide) _

/-- An import for effects would have its keyword at the end of the hole. -/
theorem barren_effectPattern : hole.Barren effectPattern text := by
  intro front rest before offset split follows
  refine List.map_eq_nil_iff.mpr (List.eq_nil_iff_forall_not_mem.mpr fun found listed => ?_)
  obtain ⟨middle, early, late⟩ := List.mem_flatMap.mp listed
  obtain ⟨edge, more, shape, ahead⟩ :=
    exists_of_mem_keyword (safe.quote_not_mem (by decide) (by decide)) rfl early
  obtain ⟨further, blank, last⟩ := List.mem_flatMap.mp late
  have whole : text = (front ++ "import".toList) ++ more := by
    rw [split, shape, List.append_assoc]
  have letters := letters_behind filled whole
  have there := safe.ahead_of_mem_blanks letters ahead blank
  obtain ⟨quote, refused, inner, behind, shown⟩ : ∃ quote, isSafeChar quote = false ∧
      ∃ inner behind, Follows quote further.cursor.ahead inner behind := by
    rcases List.mem_append.mp last with single | double
    · exact ⟨_, by decide, exists_of_mem_specifierIn single⟩
    · exact ⟨_, by decide, exists_of_mem_specifierIn double⟩
  have ends : more = [] := by
    cases more with
    | nil => rfl
    | cons c others =>
      obtain ⟨rfl, -⟩ := List.cons.inj (shown.text.symm.trans there)
      rw [letters _ List.mem_cons_self] at refused
      cases refused
  refine filled.word ⟨front, by simpa [ends] using whole, fun c last => ?_⟩
  have before : before = some c := by rw [follows, List.getLast?_cons, last, Option.getD_some]
  have letter : (rest ++ hole.quote :: hole.back).head? = some 'i' := by
    rw [shape]
    rfl
  have word : isWord 'i' = true := by decide
  simpa [Cursor.atWordEdge, before, letter, word] using edge

/-- No call of `import` or `require` fits inside of the hole. -/
theorem barren_callPattern : hole.Barren callPattern text := by
  intro front rest before offset split follows
  refine List.map_eq_nil_iff.mpr (List.eq_nil_iff_forall_not_mem.mpr fun found listed => ?_)
  obtain ⟨start, edge, listed⟩ := List.mem_flatMap.mp listed
  obtain ⟨-, rfl⟩ := mem_wordEdge.mp edge
  obtain ⟨middle, early, late⟩ := List.mem_flatMap.mp listed
  obtain ⟨word, more, shape, ahead⟩ : ∃ word more, rest = word ++ more ∧
      middle.cursor.ahead = more ++ hole.quote :: hole.back := by
    rcases List.mem_append.mp early with first | second
    · exact ⟨_, exists_of_mem_word (safe.quote_not_mem (by decide) (by decide)) rfl first⟩
    · exact ⟨_, exists_of_mem_word (safe.quote_not_mem (by decide) (by decide)) rfl second⟩
  have whole : text = (front ++ word) ++ more := by rw [split, shape, List.append_assoc]
  have letters := letters_behind filled whole
  obtain ⟨further, blank, opened⟩ := List.mem_flatMap.mp late
  obtain ⟨opening, paren, -⟩ := List.mem_flatMap.mp opened
  have there := safe.ahead_of_mem_blanks letters ahead blank
  refine not_mem_one letters (fun c safe => ?_) (safe.holds_quote (· == '(') rfl rfl) there paren
  exact beq_eq_false_iff_ne.mpr (ne_of_isSafeChar safe (by decide))

end Barren

theorem stable (form : Form) :
    Stable (hole.Remembered .specifier) hole.Beside hole.Landed form.pattern := by
  cases form with
  | imports => exact safe.stable_fromPattern
  | reexports => exact safe.stable_reexportPattern
  | effect => exact safe.stable_effectPattern
  | call => exact safe.stable_callPattern

theorem barren (form : Form) {text : List Char} (filled : Specifier.IsSafe text) :
    hole.Barren form.pattern text := by
  cases form with
  | imports => exact safe.barren_fromPattern filled
  | reexports => exact safe.barren_reexportPattern filled
  | effect => exact safe.barren_effectPattern filled
  | call => exact safe.barren_callPattern filled

/-- Every import has its counterpart when the specifier in the hole is replaced. -/
theorem exists_of_mem_ofText {front : List Char} (leads : front.length + 1 = hole.start)
    {found : Code.Import} (listed : found ∈ ofText (front ++ hole.around hole.old)) :
    ∃ other ∈ ofText (front ++ hole.around hole.new),
      hole.Moved found.span found.specifier.toList other.span other.specifier.toList := by
  obtain ⟨form, matched, there, rfl⟩ := mem_ofText.mp listed
  have alike := found_search (safe.stable form) (safe.barren form safe.old)
    (safe.barren form safe.new) front leads
  obtain ⟨other, also, found⟩ := exists_of_rel_mem alike there
  obtain ⟨captured, rest, shape, name, -⟩ := form.specified.search there
  obtain ⟨another, remaining, shape', name', -⟩ := form.specified.search also
  have remembered := found.captured
  rw [shape, shape', List.forall₂_cons] at remembered
  refine ⟨_, mem_ofText.mpr ⟨form, other, also, rfl⟩, ?_⟩
  obtain ⟨span, specifier⟩ := ofMatch_of_captured shape name (front ++ hole.around hole.old)
    form.names (form == .reexports) (form == .call)
  obtain ⟨span', specifier'⟩ := ofMatch_of_captured shape' name' (front ++ hole.around hole.new)
    form.names (form == .reexports) (form == .call)
  rw [Form.read, Form.read, span, specifier, span', specifier', String.toList_ofList, String.toList_ofList]
  exact remembered.1.2 name

end Hole.IsSafe

end FeatureLayout
