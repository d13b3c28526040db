import FeatureLayout.Code.Module
import FeatureLayout.Proofs.Basic
import FeatureLayout.Proofs.Code.Specifier

/-!
# Imports around a replaced specifier

Every import of a text has its specifier between quotes. When one specifier is replaced, and both
the old and the new one are safe, each import of the text corresponds to an import of the new text
and the other way around: the same specifier at the same or at a shifted place, or the two
specifiers that were exchanged. Nothing is found inside of them.
-/

namespace FeatureLayout.Code

/-- A module can be read off a text exactly when its comments can be blanked, and its imports are
those of the text without comments. -/
theorem Module.exists_ofText_iff {text : List Char} {path : String} {imports : List Import} :
    (∃ found, Module.ofText text path = .ok found ∧ found.imports = imports) ↔
      ∃ masked, maskComments text = .ok masked ∧ Import.ofText masked = imports := by
  constructor
  · rintro ⟨found, read, rfl⟩
    obtain ⟨masked, blanked, same⟩ := bind_eq_ok.mp read
    obtain rfl := Except.ok.inj same
    exact ⟨masked, blanked, rfl⟩
  · rintro ⟨masked, blanked, rfl⟩
    exact ⟨_, bind_eq_ok.mpr ⟨masked, blanked, rfl⟩, rfl⟩

namespace Import

open Text Pattern Specifier

/-- A pattern that remembers a quoted specifier of the text last. -/
def Specified (pattern : Pattern Part) : Prop :=
  ∀ text front start found, (Cursor.start text).Leads front start.cursor →
    found ∈ pattern.successes start →
      ∃ captured rest, found.captured = captured :: rest ∧ captured.name = .specifier ∧
        Quoted text captured.span captured.text

section Specified

variable {first second : Pattern Part}

theorem specified_specifierIn {quote : Char} (isQuote : quote = '\'' ∨ quote = '"') :
    Specified (specifierIn quote) := by
  intro text front start found leads listed
  obtain ⟨inner, rest, follows⟩ := exists_of_mem_specifierIn listed
  rw [successes_specifierIn (isInner_quote isQuote) follows start.captured] at listed
  obtain rfl := List.mem_singleton.mp listed
  have whole := leads.text
  have offset : start.cursor.offset = front.length := by simpa [Cursor.start] using leads.offset
  refine ⟨_, _, rfl, rfl, quote, front, rest, isQuote, follows.text ▸ follows, ?_, ?_⟩
  · rw [← follows.text]
    exact whole
  · rw [offset]

theorem specified_specifierPattern : Specified specifierPattern := by
  intro text front start found leads listed
  rcases List.mem_append.mp listed with single | double
  · exact specified_specifierIn (Or.inl rfl) text front start found leads single
  · exact specified_specifierIn (Or.inr rfl) text front start found leads double

/-- Any pattern may come in front. -/
theorem Specified.behind (specified : Specified second) (first : Pattern Part) :
    Specified (.seq first second) := by
  intro text front start found leads listed
  obtain ⟨middle, early, late⟩ := List.mem_flatMap.mp listed
  obtain ⟨⟨passed, onwards⟩, -⟩ := leads_of_mem_successes early
  exact specified text _ middle found (leads.trans onwards) late

/-- A pattern that remembers nothing may follow. -/
theorem Specified.followed (specified : Specified first)
    (keeps : ∀ start found, found ∈ second.successes start → found.captured = start.captured) :
    Specified (.seq first second) := by
  intro text front start found leads listed
  obtain ⟨middle, early, late⟩ := List.mem_flatMap.mp listed
  rw [keeps middle found late]
  exact specified text front start middle leads early

theorem specified_fromPattern : Specified fromPattern :=
  ((((((specified_specifierPattern.behind _).behind _).behind _).behind _).behind _).behind
    _).behind _

theorem specified_reexportPattern : Specified reexportPattern :=
  ((((((specified_specifierPattern.behind _).behind _).behind _).behind _).behind _).behind
    _).behind _

theorem specified_effectPattern : Specified effectPattern :=
  (specified_specifierPattern.behind _).behind _

theorem specified_callPattern : Specified callPattern := by
  have closing : ∀ start found,
      found ∈ (Pattern.seq blanks (.one (· == ')'))).successes start →
        found.captured = start.captured := by
    intro start found listed
    obtain ⟨middle, early, late⟩ := List.mem_flatMap.mp listed
    obtain ⟨-, -, -, kept⟩ := exists_of_mem_run early
    obtain ⟨-, -, -, -, rfl⟩ := mem_one.mp late
    exact kept
  exact (((((specified_specifierPattern.followed closing).behind _).behind _).behind _).behind
    _).behind _

/-- A match of such a pattern remembers a specifier. -/
theorem Specified.search {pattern : Pattern Part} (specified : Specified pattern)
    {text : List Char} {found : Match Part} (listed : found ∈ pattern.search text) :
    ∃ captured rest, found.captured = captured :: rest ∧ captured.name = .specifier ∧
      Quoted text captured.span captured.text := by
  obtain ⟨front, cursor, leads, starts⟩ := exists_place_of_mem_search listed
  obtain ⟨reached, fits, rfl⟩ := List.mem_map.mp starts
  exact specified text front ⟨cursor, []⟩ reached leads fits

/-- The import of a match has the specifier that was remembered last. -/
theorem ofMatch_of_captured {found : Match Part} {captured : Captured Part}
    {rest : List (Captured Part)} (shape : found.captured = captured :: rest)
    (name : captured.name = .specifier) (text : List Char) (names : List Char → List String)
    (reexport dynamic : Bool) :
    (ofMatch text names reexport dynamic found).span = captured.span ∧
      (ofMatch text names reexport dynamic found).specifier = String.ofList captured.text := by
  simp [ofMatch, Match.captured?, Match.textOf, shape, name]

end Specified

/-- The forms of imports. -/
inductive Form where
  | imports
  | reexports
  | effect
  | call
  deriving DecidableEq

namespace Form

def pattern : Form → Pattern Part
  | imports => fromPattern
  | reexports => reexportPattern
  | effect => effectPattern
  | call => callPattern

/-- The names that a form reads of a clause. -/
def names : Form → List Char → List String
  | imports => clauseNames
  | reexports => reexportNames
  | effect | call => fun _ => ["*"]

/-- The import that a match of a form stands for. -/
def read (form : Form) (text : List Char) : Match Part → Import :=
  ofMatch text form.names (form == reexports) (form == call)

theorem specified (form : Form) : Specified form.pattern := by
  cases form with
  | imports => exact specified_fromPattern
  | reexports => exact specified_reexportPattern
  | effect => exact specified_effectPattern
  | call => exact specified_callPattern

end Form

/-- The imports of a text are the matches of the forms, by the place of their specifiers. -/
theorem ofText_eq (text : List Char) : ofText text =
    ([Form.imports, .reexports, .effect, .call].flatMap fun form =>
      (form.pattern.search text).map (form.read text)).mergeSort
        fun first second => first.span.atMost second.span := by
  simp only [ofText, List.flatMap_cons, List.flatMap_nil, List.append_nil, List.append_assoc]
  rfl

theorem mem_ofText {text : List Char} {found : Import} :
    found ∈ ofText text ↔ ∃ form : Form, ∃ matched ∈ form.pattern.search text,
      form.read text matched = found := by
  have every (form : Form) : form ∈ [Form.imports, .reexports, .effect, .call] := by
    cases form <;> decide
  simp only [ofText_eq, (List.mergeSort_perm _ _).mem_iff, List.mem_flatMap, List.mem_map, every,
    true_and]

/-- Every import has its specifier between quotes. -/
theorem quoted_of_mem_ofText {text : List Char} {found : Import} (listed : found ∈ ofText text) :
    Quoted text found.span found.specifier.toList := by
  obtain ⟨form, matched, there, rfl⟩ := mem_ofText.mp listed
  obtain ⟨captured, rest, shape, name, quoted⟩ := form.specified.search there
  obtain ⟨span, specifier⟩ := ofMatch_of_captured shape name text form.names _ _
  rw [Form.read, span, specifier, String.toList_ofList]
  exact quoted

/-- Every import names something. -/
theorem names_ne_nil {text : List Char} {found : Import} (listed : found ∈ ofText text) :
    found.names ≠ [] := by
  obtain ⟨form, matched, -, rfl⟩ := mem_ofText.mp listed
  simp only [Form.read, ofMatch]
  split
  · simp
  · next some => simpa using some

end Import

end FeatureLayout.Code
