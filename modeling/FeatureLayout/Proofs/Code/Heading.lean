import FeatureLayout.Proofs.Code.Specifier
import FeatureLayout.Proofs.Pattern.Spelled
import FeatureLayout.Proofs.Text.Words

/-!
# What stands in front of a specifier

Every form of import passes some text up to the opening quote of its specifier. In `import … from`
and `export … from` this is a heading: the word, a type marker that may be left out, a clause, and
`from`. A heading has one clause, although the marker may be a name and a name may be the marker. A
clause crosses a quote only between braces, so in a text without such braces a heading ends at the
first quote.
-/

namespace FeatureLayout.Code.Import

open Text Pattern Specifier

/-- Blanks, possibly none. -/
def IsGap (text : List Char) : Prop := ∀ c ∈ text, isBlank c = true

/-- Blanks, at least one. -/
def IsSpace (text : List Char) : Prop := text ≠ [] ∧ IsGap text

/-- A name. -/
def IsName (text : List Char) : Prop := text ≠ [] ∧ ∀ c ∈ text, isNameChar c = true

/-- A type marker, or nothing. -/
inductive IsMarker : List Char → Prop where
  | absent : IsMarker []
  | present {space : List Char} (blank : IsSpace space) : IsMarker ("type".toList ++ space)

/-- Names between braces, or a name for the module as a whole. -/
inductive IsList : List Char → Prop where
  | braced {inner : List Char} (closed : '}' ∉ inner) : IsList ('{' :: (inner ++ ['}']))
  | space {gap space name : List Char} (before : IsGap gap) (behind : IsSpace space)
    (isName : IsName name) : IsList ('*' :: (gap ++ ("as".toList ++ (space ++ name))))

/-- What stands in front of a list: nothing, or a name for the default and a comma. -/
inductive IsDefault : List Char → Prop where
  | absent : IsDefault []
  | present {name gap space : List Char} (isName : IsName name) (before : IsGap gap)
    (behind : IsGap space) : IsDefault (name ++ (gap ++ ',' :: space))

/-- What `import … from` imports. -/
inductive IsClause : List Char → Prop where
  | single {name : List Char} (isName : IsName name) : IsClause name
  | listed {default list : List Char} (isDefault : IsDefault default) (isList : IsList list) :
    IsClause (default ++ list)

/-- What `export … from` exports. -/
inductive IsReexported : List Char → Prop where
  | all : IsReexported ['*']
  | listed {list : List Char} (isList : IsList list) : IsReexported list

/-- What stands in front of the specifier in `import … from` and in `export … from`. -/
inductive Heading (word : String) (isClause : List Char → Prop) : List Char → List Char → Prop where
  | intro {space marker clause gap last : List Char} (blank : IsSpace space)
    (marks : IsMarker marker) (fits : isClause clause) (before : IsGap gap) (behind : IsGap last) :
    Heading word isClause
      (word.toList ++ (space ++ (marker ++ (clause ++ (gap ++ ("from".toList ++ last)))))) clause

/-- A specifier between quotes. -/
structure IsSpecifier (quote : Char) (inner : List Char) : Prop where
  isQuote : quote = '\'' ∨ quote = '"'
  filled : inner ≠ []
  plain : ∀ c ∈ inner, isInner c = true

theorem isGap_single : IsGap [' '] := fun c listed => by
  rw [List.mem_singleton.mp listed]
  rfl

theorem isSpace_single : IsSpace [' '] := ⟨List.cons_ne_nil _ _, isGap_single⟩

section Parts

variable {text : List Char} {captured : List (Captured Part)}

/-- A pattern that captures nothing spells exactly some texts. -/
def SpellsOnly (pattern : Pattern Part) (fits : List Char → Prop) : Prop :=
  ∀ text captured, pattern.Spells text captured ↔ fits text ∧ captured = []

namespace SpellsOnly

variable {first second : Pattern Part} {fits also other : List Char → Prop}

theorem congr (only : SpellsOnly first fits) (same : ∀ text, fits text ↔ also text) :
    SpellsOnly first also := fun text captured =>
  (only text captured).trans (and_congr_left fun _ => same text)

theorem seq_iff (only : SpellsOnly first fits) :
    (Pattern.seq first second).Spells text captured ↔
      ∃ front back late, text = front ++ back ∧ captured = late.map (.moved front.length) ∧
        fits front ∧ second.Spells back late := by
  rw [spells_seq fun text captured spells => ((only text captured).mp spells).2]
  have spelled (front : List Char) : first.Spells front [] ↔ fits front :=
    (only front []).trans (and_iff_left rfl)
  simp only [spelled]

theorem seq (only : SpellsOnly first fits) (others : SpellsOnly second also) :
    SpellsOnly (.seq first second)
      fun text => ∃ front back, text = front ++ back ∧ fits front ∧ also back := by
  intro text captured
  rw [only.seq_iff]
  constructor
  · rintro ⟨front, back, late, rfl, rfl, here, later⟩
    obtain ⟨there, rfl⟩ := (others back late).mp later
    exact ⟨⟨front, back, rfl, here, there⟩, rfl⟩
  · rintro ⟨⟨front, back, rfl, here, there⟩, rfl⟩
    exact ⟨front, back, [], rfl, rfl, here, (others back []).mpr ⟨there, rfl⟩⟩

theorem either (only : SpellsOnly first fits) (others : SpellsOnly second also) :
    SpellsOnly (.either first second) fun text => fits text ∨ also text := by
  intro text captured
  rw [spells_either, only, others, ← or_and_right]

theorem optional (only : SpellsOnly first fits) :
    SpellsOnly (optional first) fun text => fits text ∨ text = [] := by
  intro text captured
  rw [spells_optional, only, ← or_and_right]

theorem exactly (word : String) : SpellsOnly (exactly word) (· = word.toList) :=
  fun _ _ => spells_exactly

theorem one (letter : Char) : SpellsOnly (.one (· == letter)) (· = [letter]) := by
  refine fun text captured => and_congr_left fun _ => ⟨?_, fun same => ?_⟩
  · rintro ⟨c, rfl, same⟩
    rw [beq_iff_eq.mp same]
  · exact ⟨letter, same, beq_self_eq_true letter⟩

theorem blanks : SpellsOnly blanks IsGap := fun _ _ => Iff.rfl

theorem someBlanks : SpellsOnly someBlanks IsSpace := fun _ _ => spells_someRun

theorem name : SpellsOnly name IsName := fun _ _ => spells_someRun

theorem typeMarker : SpellsOnly typeMarker IsMarker := by
  refine ((exactly "type").seq someBlanks).optional.congr fun text => ⟨?_, ?_⟩
  · rintro (⟨_, space, rfl, rfl, blank⟩ | rfl)
    · exact .present blank
    · exact .absent
  · rintro (_ | @⟨space, blank⟩)
    · exact Or.inr rfl
    · exact Or.inl ⟨_, _, rfl, rfl, blank⟩

theorem braced : SpellsOnly braced
    fun text => ∃ inner, '}' ∉ inner ∧ text = '{' :: (inner ++ ['}']) := by
  have run : SpellsOnly (.run (· != '}')) ('}' ∉ ·) := by
    refine fun text captured => and_congr_left fun _ => ?_
    simp only [bne_iff_ne, ne_eq]
    exact ⟨fun all listed => all _ listed rfl, fun absent c listed same => absent (same ▸ listed)⟩
  have parts : SpellsOnly Import.braced _ := (one '{').seq (run.seq (one '}'))
  refine parts.congr fun text => ⟨?_, ?_⟩
  · rintro ⟨_, _, rfl, rfl, inner, _, rfl, closed, rfl⟩
    exact ⟨inner, closed, rfl⟩
  · rintro ⟨inner, closed, rfl⟩
    exact ⟨_, _, rfl, rfl, inner, _, rfl, closed, rfl⟩

theorem list : SpellsOnly (.either Import.braced namespaced) IsList := by
  have whole : SpellsOnly namespaced _ :=
    (one '*').seq (blanks.seq ((exactly "as").seq (someBlanks.seq name)))
  refine (braced.either whole).congr fun text => ⟨?_, ?_⟩
  · rintro (⟨inner, closed, rfl⟩ |
      ⟨_, _, rfl, rfl, gap, _, rfl, before, _, _, rfl, rfl, space, name, rfl, behind, isName⟩)
    · exact .braced closed
    · exact .space before behind isName
  · rintro (@⟨inner, closed⟩ | @⟨gap, space, name, before, behind, isName⟩)
    · exact Or.inl ⟨inner, closed, rfl⟩
    · exact Or.inr ⟨_, _, rfl, rfl, gap, _, rfl, before, _, _, rfl, rfl, space, name, rfl, behind,
        isName⟩

/-- What the clause of `import … from` may be. -/
theorem clause : SpellsOnly (choice [
    .seq Import.name (Pattern.optional (sequence
      [Import.blanks, .one (· == ','), Import.blanks, .either Import.braced namespaced])),
    Import.braced, namespaced]) IsClause := by
  have default : SpellsOnly (.seq Import.name _) _ :=
    name.seq (blanks.seq ((one ',').seq (blanks.seq list))).optional
  refine (default.either list).congr fun text => ⟨?_, ?_⟩
  · rintro (⟨name, _, rfl, isName, ⟨gap, _, rfl, before, _, _, rfl, rfl, space, list, rfl, behind,
      isList⟩ | rfl⟩ | isList)
    · have listed := IsClause.listed (.present isName before behind) isList
      rwa [List.append_assoc, List.append_assoc, List.cons_append] at listed
    · rw [List.append_nil]
      exact .single isName
    · exact .listed .absent isList
  · rintro (isName | ⟨_ | @⟨name, gap, space, isName, before, behind⟩, isList⟩)
    · exact Or.inl ⟨text, [], (List.append_nil _).symm, isName, Or.inr rfl⟩
    · exact Or.inr isList
    · rw [List.append_assoc, List.append_assoc, List.cons_append]
      exact Or.inl ⟨name, _, rfl, isName, Or.inl ⟨gap, _, rfl, before, [','], _, rfl, rfl, space, _,
        rfl, behind, isList⟩⟩

/-- What the clause of `export … from` may be. -/
theorem reexported : SpellsOnly (.either
    (.seq (.one (· == '*')) (Pattern.optional
      (sequence [Import.blanks, Pattern.exactly "as", Import.someBlanks, Import.name])))
    Import.braced) IsReexported := by
  have star : SpellsOnly (.seq (.one (· == '*')) (Pattern.optional
      (sequence [Import.blanks, Pattern.exactly "as", Import.someBlanks, Import.name]))) _ :=
    (one '*').seq (blanks.seq ((exactly "as").seq (someBlanks.seq name))).optional
  refine (star.either braced).congr fun text => ⟨?_, ?_⟩
  · rintro (⟨_, _, rfl, rfl, ⟨gap, _, rfl, before, _, _, rfl, rfl, space, name, rfl, behind,
      isName⟩ | rfl⟩ | ⟨inner, closed, rfl⟩)
    · exact .listed (.space before behind isName)
    · exact .all
    · exact .listed (.braced closed)
  · rintro (_ | @⟨_, @⟨inner, closed⟩ | @⟨gap, space, name, before, behind, isName⟩⟩)
    · exact Or.inl ⟨_, [], rfl, rfl, Or.inr rfl⟩
    · exact Or.inr ⟨inner, closed, rfl⟩
    · exact Or.inl ⟨_, _, rfl, rfl, Or.inl ⟨_, _, rfl, before, _, _, rfl, rfl, _, _, rfl, behind,
        isName⟩⟩

end SpellsOnly

theorem spells_specifierPattern : specifierPattern.Spells text captured ↔
    ∃ quote inner, IsSpecifier quote inner ∧ text = quote :: (inner ++ [quote]) ∧
      captured = [⟨.specifier, ⟨1, 1 + inner.length⟩, inner⟩] := by
  have single (quote : Char) (text : List Char) (captured : List (Captured Part)) :
      (specifierIn quote).Spells text captured ↔
        ∃ inner, inner ≠ [] ∧ (∀ c ∈ inner, isInner c = true) ∧
          text = quote :: (inner ++ [quote]) ∧
          captured = [⟨.specifier, ⟨1, 1 + inner.length⟩, inner⟩] := by
    rw [specifierIn_eq, (SpellsOnly.one quote).seq_iff]
    constructor
    · rintro ⟨_, _, _, rfl, rfl, rfl, inner, back, early, late, rfl, rfl, ⟨former, spells, rfl⟩,
        last⟩
      obtain ⟨⟨filled, plain⟩, rfl⟩ := spells_someRun.mp spells
      obtain ⟨rfl, rfl⟩ := (SpellsOnly.one quote _ _).mp last
      exact ⟨inner, filled, plain, rfl, rfl⟩
    · rintro ⟨inner, filled, plain, rfl, rfl⟩
      exact ⟨[quote], _, _, rfl, rfl, rfl, inner, [quote], _, [], rfl, rfl,
        ⟨[], spells_someRun.mpr ⟨⟨filled, plain⟩, rfl⟩, rfl⟩,
        (SpellsOnly.one quote _ _).mpr ⟨rfl, rfl⟩⟩
  refine spells_either.trans ?_
  rw [single, single]
  constructor
  · rintro (⟨inner, filled, plain, same⟩ | ⟨inner, filled, plain, same⟩)
    · exact ⟨'\'', inner, ⟨Or.inl rfl, filled, plain⟩, same⟩
    · exact ⟨'"', inner, ⟨Or.inr rfl, filled, plain⟩, same⟩
  · rintro ⟨quote, inner, ⟨rfl | rfl, filled, plain⟩, same⟩
    · exact Or.inl ⟨inner, filled, plain, same⟩
    · exact Or.inr ⟨inner, filled, plain, same⟩

end Parts

section Unique

variable {word : String} {isClause isDefault : List Char → Prop} {front text : List Char}
  {clause other : List Char}

/-- Whether a character is a quote of specifiers. -/
def isMark (c : Char) : Bool := c == '\'' || c == '"'

/-- A text without quotes of specifiers. -/
def IsUnmarked (text : List Char) : Prop := ∀ c ∈ text, isMark c = false

/-- A text that ends with something else than a blank. -/
def EndsFilled (text : List Char) : Prop :=
  ∃ before c, text = before ++ [c] ∧ isBlank c = false

instance (text : List Char) : Decidable (IsUnmarked text) :=
  inferInstanceAs (Decidable (∀ c ∈ text, isMark c = false))

/-- What the clauses of a statement have in common, with what may stand in front of their lists. -/
structure Clauses (isClause isDefault : List Char → Prop) : Prop where
  /-- A clause has quotes between its braces at most. -/
  quotes : ∀ {clause}, isClause clause → IsUnmarked clause ∨ ∃ default inner,
    clause = default ++ '{' :: (inner ++ ['}']) ∧ isDefault default ∧ '}' ∉ inner
  plain : ∀ {default}, isDefault default → IsUnmarked default
  starts : ∀ {clause}, isClause clause → ∃ c rest, clause = c :: rest ∧ isBlank c = false ∧ c ≠ ','
  ends : ∀ {clause}, isClause clause → EndsFilled clause
  /-- A clause that starts like a type marker goes on with a comma. -/
  marker : ∀ {space c rest}, IsSpace space → isBlank c = false →
    isClause ("type".toList ++ (space ++ c :: rest)) → c = ','

/-- What stands in front of the brace of a statement. -/
inductive Begins (word : String) (isDefault : List Char → Prop) : List Char → Prop where
  | intro {space marker default : List Char} (blank : IsSpace space) (marks : IsMarker marker)
    (fits : isDefault default) :
    Begins word isDefault (word.toList ++ (space ++ (marker ++ default)))

/-- Up to a quote, what is passed is the text in front of the first quote. -/
def Bounded (opens : List Char → List Char → Prop) (text : List Char) : Prop :=
  ∀ front clause quote back mark behind, opens front clause → isMark quote = true →
    isMark mark = true → front ++ quote :: back = text ++ mark :: behind →
      front = text ∧ quote = mark ∧ back = behind

theorem isUnmarked_append {front back : List Char} :
    IsUnmarked (front ++ back) ↔ IsUnmarked front ∧ IsUnmarked back := List.forall_mem_append

theorem isUnmarked_cons {c : Char} {rest : List Char} :
    IsUnmarked (c :: rest) ↔ isMark c = false ∧ IsUnmarked rest := List.forall_mem_cons

theorem IsGap.isUnmarked {gap : List Char} (blank : IsGap gap) : IsUnmarked gap := by
  intro c listed
  have single := ne_of_isBlank (blank c listed) (show isBlank '\'' = false by decide)
  have double := ne_of_isBlank (blank c listed) (show isBlank '"' = false by decide)
  simp [isMark, single, double]

theorem IsName.isUnmarked {name : List Char} (isName : IsName name) : IsUnmarked name := by
  intro c listed
  have single := ne_of_isNameChar (isName.2 c listed) (show isNameChar '\'' = false by decide)
  have double := ne_of_isNameChar (isName.2 c listed) (show isNameChar '"' = false by decide)
  simp [isMark, single, double]

theorem IsMarker.isUnmarked {marker : List Char} (marks : IsMarker marker) :
    IsUnmarked marker := by
  cases marks with
  | absent => exact fun c listed => absurd listed List.not_mem_nil
  | present blank =>
    exact isUnmarked_append.mpr ⟨List.all_iff_forall_prop.mp (by decide), blank.2.isUnmarked⟩

theorem IsDefault.isUnmarked {default : List Char} (isDefault : IsDefault default) :
    IsUnmarked default := by
  cases isDefault with
  | absent => exact fun c listed => absurd listed List.not_mem_nil
  | present isName before behind =>
    exact isUnmarked_append.mpr ⟨isName.isUnmarked, isUnmarked_append.mpr ⟨before.isUnmarked,
      isUnmarked_cons.mpr ⟨rfl, behind.isUnmarked⟩⟩⟩

theorem IsName.endsFilled {name : List Char} (isName : IsName name) : EndsFilled name := by
  obtain ⟨before, c, rfl⟩ := List.eq_nil_or_concat' name |>.resolve_left isName.1
  exact ⟨before, c, rfl, isBlank_of_isNameChar (isName.2 c (by simp))⟩

theorem EndsFilled.append {back : List Char} (ends : EndsFilled back) (front : List Char) :
    EndsFilled (front ++ back) := by
  obtain ⟨before, c, rfl, filled⟩ := ends
  exact ⟨front ++ before, c, (List.append_assoc _ _ _).symm, filled⟩

theorem IsList.endsFilled {list : List Char} (isList : IsList list) : EndsFilled list := by
  cases isList with
  | @braced inner closed => exact ⟨'{' :: inner, '}', rfl, by decide⟩
  | @space gap space name before behind isName =>
    exact (((isName.endsFilled.append space).append "as".toList).append gap).append ['*']

/-- A list starts with a star or a brace. -/
theorem IsList.starts {list : List Char} (isList : IsList list) :
    ∃ c rest, list = c :: rest ∧ (c = '*' ∨ c = '{') := by
  cases isList with
  | braced => exact ⟨_, _, rfl, Or.inr rfl⟩
  | space => exact ⟨_, _, rfl, Or.inl rfl⟩

theorem IsList.quotes {list : List Char} (isList : IsList list) :
    IsUnmarked list ∨ ∃ inner, list = '{' :: (inner ++ ['}']) ∧ '}' ∉ inner := by
  cases isList with
  | @braced inner closed => exact Or.inr ⟨inner, rfl, closed⟩
  | space before behind isName =>
    exact Or.inl (isUnmarked_cons.mpr ⟨rfl, isUnmarked_append.mpr ⟨before.isUnmarked,
      isUnmarked_append.mpr ⟨List.all_iff_forall_prop.mp (by decide), isUnmarked_append.mpr
        ⟨behind.2.isUnmarked,
        isName.isUnmarked⟩⟩⟩⟩)

/-- A name that is followed by something else starts a text with other names only if it is the same
name. -/
theorem name_eq_type {name space rest : List Char} {c d : Char} {more : List Char}
    (isName : IsName name) (blank : IsSpace space) (other : isNameChar c = false)
    (same : "type".toList ++ (space ++ d :: rest) = name ++ c :: more) :
    name = "type".toList ∧ space ++ d :: rest = c :: more := by
  obtain ⟨first, others, rfl⟩ := List.exists_cons_of_ne_nil blank.1
  have apart : isNameChar first = false := isNameChar_of_isBlank (blank.2 first List.mem_cons_self)
  obtain ⟨rfl, rfl, rfl⟩ := cut_first (fun c => !isNameChar c) same
    (List.all_iff_forall_prop.mp (by decide))
    (fun d listed => by simp [isName.2 d listed]) (by simp [apart]) (by simp [other])
  exact ⟨rfl, rfl⟩

theorem clauses_import : Clauses IsClause IsDefault where
  quotes isClause := by
    cases isClause with
    | single isName => exact Or.inl isName.isUnmarked
    | listed isDefault isList =>
      rcases isList.quotes with plain | ⟨inner, rfl, closed⟩
      · exact Or.inl (isUnmarked_append.mpr ⟨isDefault.isUnmarked, plain⟩)
      · exact Or.inr ⟨_, inner, rfl, isDefault, closed⟩
  plain := IsDefault.isUnmarked
  starts isClause := by
    have named {name : List Char} (isName : IsName name) (back : List Char) :
        ∃ c rest, name ++ back = c :: rest ∧ isBlank c = false ∧ c ≠ ',' := by
      obtain ⟨c, rest, rfl⟩ := List.exists_cons_of_ne_nil isName.1
      have letter := isName.2 c List.mem_cons_self
      exact ⟨c, rest ++ back, rfl, isBlank_of_isNameChar letter,
        ne_of_isNameChar letter (by decide)⟩
    cases isClause with
    | @single name isName => simpa using named isName []
    | listed isDefault isList =>
      cases isDefault with
      | absent =>
        obtain ⟨c, rest, rfl, rfl | rfl⟩ := isList.starts
        · exact ⟨_, _, rfl, by decide, by decide⟩
        · exact ⟨_, _, rfl, by decide, by decide⟩
      | present isName before behind =>
        rw [List.append_assoc]
        exact named isName _
  ends isClause := by
    cases isClause with
    | single isName => exact isName.endsFilled
    | listed isDefault isList => exact isList.endsFilled.append _
  marker {space c rest} blank filled isClause := by
    generalize whole : "type".toList ++ (space ++ c :: rest) = clause at isClause
    cases isClause with
    | single isName =>
      obtain ⟨first, others, rfl⟩ := List.exists_cons_of_ne_nil blank.1
      have letter := isName.2 first (whole ▸ by simp)
      rw [isNameChar_of_isBlank (blank.2 first List.mem_cons_self)] at letter
      cases letter
    | listed isDefault isList =>
      cases isDefault with
      | absent =>
        obtain ⟨d, more, rfl, rfl | rfl⟩ := isList.starts
        · exact absurd (List.cons.inj whole).1 (by decide)
        · exact absurd (List.cons.inj whole).1 (by decide)
      | @present name gap last isName before behind =>
        simp only [List.append_assoc, List.cons_append] at whole
        -- The name ends at the first blank or at the comma, and the marker at a blank.
        cases gap with
        | nil =>
          obtain ⟨-, same⟩ := name_eq_type isName blank (by decide) whole
          obtain ⟨first, others, rfl⟩ := List.exists_cons_of_ne_nil blank.1
          have visible := blank.2 first List.mem_cons_self
          rw [(List.cons.inj same).1] at visible
          exact absurd visible (by decide)
        | cons first others =>
          have apart := isNameChar_of_isBlank (before first List.mem_cons_self)
          obtain ⟨-, same⟩ := name_eq_type isName blank apart whole
          exact (cut_first (fun c => !isBlank c) (List.cons_append ▸ same)
            (fun d listed => by simp [blank.2 d listed]) (fun d listed => by simp [before d listed])
            (by simp [filled]) (by decide)).2.1

theorem clauses_reexport : Clauses IsReexported (· = []) where
  quotes isClause := by
    cases isClause with
    | all => exact Or.inl (List.all_iff_forall_prop.mp (by decide))
    | listed isList =>
      rcases isList.quotes with plain | ⟨inner, rfl, closed⟩
      · exact Or.inl plain
      · exact Or.inr ⟨[], inner, rfl, rfl, closed⟩
  plain none := by
    rw [none]
    exact fun c listed => absurd listed List.not_mem_nil
  starts isClause := by
    cases isClause with
    | all => exact ⟨_, _, rfl, by decide, by decide⟩
    | listed isList =>
      obtain ⟨c, rest, rfl, rfl | rfl⟩ := isList.starts
      · exact ⟨_, _, rfl, by decide, by decide⟩
      · exact ⟨_, _, rfl, by decide, by decide⟩
  ends isClause := by
    cases isClause with
    | all => exact ⟨[], _, rfl, by decide⟩
    | listed isList => exact isList.endsFilled
  marker {space c rest} _ _ isClause := by
    generalize whole : "type".toList ++ (space ++ c :: rest) = clause at isClause
    cases isClause with
    | all => exact absurd (List.cons.inj whole).1 (by decide)
    | listed isList =>
      obtain ⟨d, more, rfl, rfl | rfl⟩ := isList.starts
      · exact absurd (List.cons.inj whole).1 (by decide)
      · exact absurd (List.cons.inj whole).1 (by decide)

/-- What is passed in front of `from` is determined when it ends with something else than a blank.
-/
theorem stem_eq {stem gap last other space rest : List Char} (ends : EndsFilled stem)
    (also : EndsFilled other) (before : IsGap gap) (behind : IsGap last) (between : IsGap space)
    (following : IsGap rest) (same : stem ++ (gap ++ ("from".toList ++ last)) =
      other ++ (space ++ ("from".toList ++ rest))) : stem = other := by
  obtain ⟨front, c, rfl, filled⟩ := ends
  obtain ⟨start, d, rfl, visible⟩ := also
  have unseen {gap : List Char} (blank : IsGap gap) : ∀ c ∈ gap, (!isBlank c) = false :=
    fun c listed => by simp [blank c listed]
  have last_cut : (front ++ [c] ++ (gap ++ "fro".toList)) ++ 'm' :: last =
      (start ++ [d] ++ (space ++ "fro".toList)) ++ 'm' :: rest := by
    simpa using same
  obtain ⟨same, -⟩ := cut_last (fun c => !isBlank c) last_cut (unseen behind) (unseen following)
    (by decide) (by decide)
  rw [← List.append_assoc, ← List.append_assoc (start ++ [d])] at same
  have gap_cut : front ++ c :: gap = start ++ d :: space := by
    simpa using List.append_cancel_right same
  obtain ⟨rfl, rfl, -⟩ := cut_last (fun c => !isBlank c) gap_cut (unseen before) (unseen between)
    (by simp [filled]) (by simp [visible])
  rfl

/-- What stands in front of `from` in a text that ends with a heading ends with the clause. -/
theorem Heading.exists_stem {stem early : List Char} (clauses : Clauses isClause isDefault)
    (heading : Heading word isClause front clause) (ends : EndsFilled stem)
    (split : stem ++ " from ".toList = early ++ front) :
    ∃ space marker, IsSpace space ∧ IsMarker marker ∧ isClause clause ∧
      stem = early ++ (word.toList ++ (space ++ (marker ++ clause))) := by
  obtain @⟨space, marker, _, gap, last, blank, marks, isClause, before, behind⟩ := heading
  have filled := (((clauses.ends isClause).append marker).append space).append word.toList
  refine ⟨space, marker, blank, marks, isClause,
    stem_eq ends (filled.append early) isGap_single isGap_single before behind ?_⟩
  have single : " from ".toList = [' '] ++ ("from".toList ++ [' ']) := rfl
  rw [← single, split]
  simp only [List.append_assoc]

/-- A heading has one clause. -/
theorem Heading.unique (clauses : Clauses isClause isDefault)
    (heading : Heading word isClause front clause) (also : Heading word isClause front other) :
    clause = other := by
  generalize whole : front = also at also
  obtain @⟨space, marker, _, gap, last, blank, marks, isClause, before, behind⟩ := heading
  obtain @⟨room, label, _, slit, rest, empty, labels, others, between, following⟩ := also
  have stems : space ++ (marker ++ clause) = room ++ (label ++ other) := by
    refine stem_eq (((clauses.ends isClause).append marker).append space)
      (((clauses.ends others).append label).append room) before behind between following ?_
    simpa only [List.append_assoc] using List.append_cancel_left whole
  obtain ⟨c, more, rfl, filled, comma⟩ := clauses.starts isClause
  obtain ⟨d, further, rfl, visible, other⟩ := clauses.starts others
  have first {marker : List Char} (marks : IsMarker marker) {c : Char} (filled : isBlank c = false)
      (more : List Char) : ∃ d rest, marker ++ c :: more = d :: rest ∧ isBlank d = false := by
    cases marks with
    | absent => exact ⟨c, more, rfl, filled⟩
    | present => exact ⟨'t', _, rfl, by decide⟩
  obtain ⟨e, tail, starts, seen⟩ := first marks filled more
  obtain ⟨f, left, also, shown⟩ := first labels visible further
  rw [starts, also] at stems
  obtain ⟨-, rfl, rfl⟩ := cut_first (fun c => !isBlank c) stems
    (fun c listed => by simp [blank.2 c listed]) (fun c listed => by simp [empty.2 c listed])
    (by simp [seen]) (by simp [shown])
  have same := starts.trans also.symm
  cases marks with
  | absent =>
    cases labels with
    | absent => exact same
    | present empty =>
      rw [List.nil_append, List.append_assoc] at same
      exact absurd (clauses.marker empty visible (same ▸ isClause)) other
  | present blank =>
    cases labels with
    | absent =>
      rw [List.nil_append, List.append_assoc] at same
      exact absurd (clauses.marker blank filled (same ▸ others)) comma
    | present empty =>
      rw [List.append_assoc, List.append_assoc] at same
      obtain ⟨-, rfl, rfl⟩ := cut_first (fun c => !isBlank c) (List.append_cancel_left same)
        (fun c listed => by simp [blank.2 c listed]) (fun c listed => by simp [empty.2 c listed])
        (by simp [filled]) (by simp [visible])
      rfl

/-- A heading ends with `from` and blanks. -/
theorem Heading.exists_last (heading : Heading word isClause front clause) :
    ∃ before gap, front = before ++ 'm' :: gap ∧ IsGap gap := by
  obtain @⟨space, marker, _, gap, last, -, -, -, -, behind⟩ := heading
  exact ⟨word.toList ++ (space ++ (marker ++ (clause ++ (gap ++ "fro".toList)))), last, by simp,
    behind⟩

/-- What has no quotes is bounded by the first one. -/
theorem bounded_of_isUnmarked {opens : List Char → List Char → Prop}
    (plain : ∀ front clause, opens front clause → IsUnmarked front) (unmarked : IsUnmarked text) :
    Bounded opens text := fun front clause _ _ _ _ opened isQuote isMark same =>
  cut_first Import.isMark same (plain front clause opened) unmarked isQuote isMark

/-- A heading is bounded by the first quote, unless it opens braces that are not closed in front of
it. -/
theorem Heading.bounded (clauses : Clauses isClause isDefault) (letters : IsUnmarked word.toList)
    (unmarked : IsUnmarked text) (closed : ∀ front back, text = front ++ '{' :: back →
      Begins word isDefault front → '}' ∈ back) : Bounded (Heading word isClause) text := by
  intro front clause quote back mark behind heading isQuote isMark same
  have whole := same
  suffices plain : IsUnmarked front from cut_first Import.isMark same plain unmarked isQuote isMark
  obtain @⟨space, marker, _, gap, last, blank, marks, isClause, before, after⟩ := heading
  have around (plain : IsUnmarked clause) : IsUnmarked (word.toList ++
      (space ++ (marker ++ (clause ++ (gap ++ ("from".toList ++ last)))))) :=
    isUnmarked_append.mpr ⟨letters, isUnmarked_append.mpr ⟨blank.2.isUnmarked,
      isUnmarked_append.mpr ⟨marks.isUnmarked, isUnmarked_append.mpr ⟨plain,
        isUnmarked_append.mpr ⟨before.isUnmarked,
          isUnmarked_append.mpr ⟨List.all_iff_forall_prop.mp (by decide), after.isUnmarked⟩⟩⟩⟩⟩⟩
  rcases clauses.quotes isClause with plain | ⟨default, inner, rfl, fits, open_⟩
  · exact around plain
  -- The brace that is opened stands in the text, and so does the one that closes it.
  have starts : IsUnmarked (word.toList ++ (space ++ (marker ++ default))) :=
    isUnmarked_append.mpr ⟨letters, isUnmarked_append.mpr ⟨blank.2.isUnmarked,
      isUnmarked_append.mpr ⟨marks.isUnmarked, clauses.plain fits⟩⟩⟩
  have cut : (word.toList ++ (space ++ (marker ++ default))) ++
      '{' :: (inner ++ '}' :: (gap ++ ("from".toList ++ (last ++ quote :: back)))) =
        text ++ mark :: behind := by
    simpa using same
  rcases List.append_eq_append_iff.mp cut with ⟨between, whole, split⟩ | ⟨between, whole, split⟩
  · cases between with
    | nil =>
      obtain ⟨rfl, -⟩ := List.cons.inj split
      cases isMark
    | cons c rest =>
      obtain ⟨rfl, split⟩ := List.cons.inj split
      have inside := closed _ rest whole (.intro blank marks fits)
      obtain ⟨early, late, rfl, absent⟩ := List.eq_append_cons_of_mem inside
      obtain ⟨rfl, -⟩ := cut_first (· == '}')
        (show inner ++ '}' :: _ = early ++ '}' :: (late ++ mark :: behind) by simpa using split)
        (fun c listed => beq_eq_false_iff_ne.mpr fun same => open_ (same ▸ listed))
        (fun c listed => beq_eq_false_iff_ne.mpr fun same => absent (same ▸ listed)) rfl rfl
      rw [whole] at unmarked
      have plain := isUnmarked_append.mp (isUnmarked_cons.mp (isUnmarked_append.mp unmarked).2).2
      exact around (isUnmarked_append.mpr ⟨clauses.plain fits,
        isUnmarked_cons.mpr ⟨rfl, isUnmarked_append.mpr
          ⟨plain.1, List.all_iff_forall_prop.mp (by decide)⟩⟩⟩)
  · cases between with
    | nil =>
      obtain ⟨rfl, -⟩ := List.cons.inj split
      cases isMark
    | cons c rest =>
      obtain ⟨rfl, -⟩ := List.cons.inj split
      have refused := (isUnmarked_append.mp (whole ▸ starts)).2 mark List.mem_cons_self
      rw [isMark] at refused
      cases refused

end Unique

section Forms

/-- `import … from` and `export … from` behind the edge of their word. -/
def statement (word : String) (clause : Pattern Part) : Pattern Part :=
  sequence [exactly word, someBlanks, typeMarker, .capture .clause clause, blanks, exactly "from",
    blanks, specifierPattern]

/-- An import for its effects behind the edge of its word. -/
def effect : Pattern Part := sequence [exactly "import", blanks, specifierPattern]

/-- A call behind the edge of its function. -/
def call : Pattern Part :=
  sequence [.either (exactly "import") (exactly "require"), blanks, .one (· == '('), blanks,
    specifierPattern, blanks, .one (· == ')')]

/-- What stands in front of the specifier of an import for its effects. -/
inductive OpensEffect : List Char → Prop where
  | intro {gap : List Char} (blank : IsGap gap) : OpensEffect ("import".toList ++ gap)

/-- What stands in front of the specifier of a call. -/
inductive OpensCall : List Char → Prop where
  | intro {function : String} {gap space : List Char}
    (listed : function = "import" ∨ function = "require") (before : IsGap gap)
    (behind : IsGap space) : OpensCall (function.toList ++ (gap ++ '(' :: space))

/-- What stands behind the specifier of a call. -/
inductive ClosesCall : List Char → Prop where
  | intro {gap : List Char} (blank : IsGap gap) : ClosesCall (gap ++ [')'])

/-- What is captured of an import: the specifier, behind its quote, and the clause if there is one.
-/
structure Captures (captured : List (Captured Part)) (place : Nat) (inner clause : List Char) :
    Prop where
  specifier : captured.find? (fun part => part.name = .specifier) =
    some ⟨.specifier, ⟨place + 1, place + 1 + inner.length⟩, inner⟩
  clause : ((captured.find? fun part => part.name = .clause).map (·.text)).getD [] = clause

/-- Further on in the text, the same is captured further on. -/
theorem Captures.moved {captured : List (Captured Part)} {place : Nat} {inner clause : List Char}
    (captures : Captures captured place inner clause) (distance : Nat) :
    Captures (captured.map (.moved distance)) (distance + place) inner clause where
  specifier := by
    rw [List.find?_map]
    refine (congrArg (Option.map _) captures.specifier).trans ?_
    simp +arith [Captured.moved]
  clause := by
    rw [List.find?_map, Option.map_map]
    exact captures.clause

/-- A form of imports passes some text up to a specifier between quotes, and some text behind it. -/
structure Reads (pattern : Pattern Part) (opens : List Char → List Char → Prop)
    (closes : List Char → Prop) : Prop where
  blind : pattern.IsBlind
  sound : ∀ text captured, pattern.Spells text captured → ∃ front clause quote inner back,
    text = front ++ quote :: (inner ++ quote :: back) ∧ opens front clause ∧
      IsSpecifier quote inner ∧ closes back ∧ Captures captured front.length inner clause
  complete : ∀ front clause quote inner back, opens front clause → IsSpecifier quote inner →
    closes back → ∃ captured, pattern.Spells (front ++ quote :: (inner ++ quote :: back)) captured

theorem isBlind_specifierPattern : specifierPattern.IsBlind :=
  ⟨⟨trivial, ⟨trivial, trivial⟩, trivial⟩, trivial, ⟨trivial, trivial⟩, trivial⟩

theorem isBlind_someBlanks : someBlanks.IsBlind := ⟨trivial, trivial⟩

theorem isBlind_name : name.IsBlind := ⟨trivial, trivial⟩

theorem isBlind_braced : braced.IsBlind := ⟨trivial, trivial, trivial⟩

theorem isBlind_namespaced : namespaced.IsBlind :=
  ⟨trivial, trivial, isBlind_exactly "as", isBlind_someBlanks, isBlind_name⟩

theorem reads_statement {word : String} {clause : Pattern Part} {isClause : List Char → Prop}
    (blind : clause.IsBlind) (only : SpellsOnly clause isClause) :
    Reads (statement word clause) (Heading word isClause) (· = []) where
  blind := ⟨isBlind_exactly word, isBlind_someBlanks,
    ⟨⟨isBlind_exactly "type", isBlind_someBlanks⟩, trivial⟩, blind, trivial, isBlind_exactly "from",
    trivial, isBlind_specifierPattern⟩
  sound text captured spells := by
    obtain ⟨_, _, _, rfl, rfl, rfl, onwards⟩ := (SpellsOnly.exactly word).seq_iff.mp spells
    obtain ⟨space, _, _, rfl, rfl, blank, marked⟩ := SpellsOnly.someBlanks.seq_iff.mp onwards
    obtain ⟨marker, _, _, rfl, rfl, marks, named⟩ := SpellsOnly.typeMarker.seq_iff.mp marked
    obtain ⟨clause, _, _, _, rfl, rfl, ⟨early, fits, rfl⟩, rest⟩ := named
    obtain ⟨isClause, rfl⟩ := (only clause early).mp fits
    obtain ⟨gap, _, _, rfl, rfl, before, source⟩ := SpellsOnly.blanks.seq_iff.mp rest
    obtain ⟨_, _, _, rfl, rfl, rfl, quoted⟩ := (SpellsOnly.exactly "from").seq_iff.mp source
    obtain ⟨last, _, _, rfl, rfl, behind, ends⟩ := SpellsOnly.blanks.seq_iff.mp quoted
    obtain ⟨quote, inner, isSpecifier, rfl, rfl⟩ := spells_specifierPattern.mp ends
    refine ⟨_, clause, quote, inner, [], ?_, .intro blank marks isClause before behind, isSpecifier,
      rfl, ?_, ?_⟩
    · simp only [List.append_assoc]
    · simp +arith [Captured.moved]
    · simp [Captured.moved]
  complete front named quote inner back heading isSpecifier none := by
    obtain rfl := none
    obtain @⟨space, marker, _, gap, last, blank, marks, isClause, before, behind⟩ := heading
    simp only [List.append_assoc]
    exact ⟨_, (SpellsOnly.exactly word).seq_iff.mpr ⟨_, _, _, rfl, rfl, rfl,
      SpellsOnly.someBlanks.seq_iff.mpr ⟨_, _, _, rfl, rfl, blank,
      SpellsOnly.typeMarker.seq_iff.mpr ⟨_, _, _, rfl, rfl, marks, named, _, _, _, rfl, rfl,
      ⟨_, (only named []).mpr ⟨isClause, rfl⟩, rfl⟩,
      SpellsOnly.blanks.seq_iff.mpr ⟨_, _, _, rfl, rfl, before,
      (SpellsOnly.exactly "from").seq_iff.mpr ⟨_, _, _, rfl, rfl, rfl,
      SpellsOnly.blanks.seq_iff.mpr ⟨_, _, _, rfl, rfl, behind,
      spells_specifierPattern.mpr ⟨quote, inner, isSpecifier, rfl, rfl⟩⟩⟩⟩⟩⟩⟩⟩

theorem reads_effect :
    Reads effect (fun front clause => OpensEffect front ∧ clause = []) (· = []) where
  blind := ⟨isBlind_exactly "import", trivial, isBlind_specifierPattern⟩
  sound text captured spells := by
    obtain ⟨_, _, _, rfl, rfl, rfl, quoted⟩ := (SpellsOnly.exactly "import").seq_iff.mp spells
    obtain ⟨gap, _, _, rfl, rfl, blank, ends⟩ := SpellsOnly.blanks.seq_iff.mp quoted
    obtain ⟨quote, inner, isSpecifier, rfl, rfl⟩ := spells_specifierPattern.mp ends
    refine ⟨_, [], quote, inner, [], ?_, ⟨.intro blank, rfl⟩, isSpecifier, rfl, ?_, ?_⟩
    · simp only [List.append_assoc]
    · simp +arith [Captured.moved]
    · simp [Captured.moved]
  complete front clause quote inner back opens isSpecifier none := by
    obtain rfl := none
    obtain ⟨@⟨gap, blank⟩, rfl⟩ := opens
    simp only [List.append_assoc]
    exact ⟨_, (SpellsOnly.exactly "import").seq_iff.mpr ⟨_, _, _, rfl, rfl, rfl,
      SpellsOnly.blanks.seq_iff.mpr ⟨_, _, _, rfl, rfl, blank,
      spells_specifierPattern.mpr ⟨quote, inner, isSpecifier, rfl, rfl⟩⟩⟩⟩

theorem reads_call : Reads call (fun front clause => OpensCall front ∧ clause = []) ClosesCall where
  blind := ⟨⟨isBlind_exactly "import", isBlind_exactly "require"⟩, trivial, trivial, trivial,
    isBlind_specifierPattern, trivial, trivial⟩
  sound text captured spells := by
    have function := (SpellsOnly.exactly "import").either (SpellsOnly.exactly "require")
    obtain ⟨word, _, _, rfl, rfl, named, onwards⟩ := function.seq_iff.mp spells
    obtain ⟨gap, _, _, rfl, rfl, before, opened⟩ := SpellsOnly.blanks.seq_iff.mp onwards
    obtain ⟨_, _, _, rfl, rfl, rfl, quoted⟩ := (SpellsOnly.one '(').seq_iff.mp opened
    obtain ⟨space, _, _, rfl, rfl, behind, rest⟩ := SpellsOnly.blanks.seq_iff.mp quoted
    obtain ⟨_, back, early, late, rfl, rfl, ends, closes⟩ := rest
    obtain ⟨quote, inner, isSpecifier, rfl, rfl⟩ := spells_specifierPattern.mp ends
    obtain ⟨⟨last, _, rfl, blank, rfl⟩, rfl⟩ :=
      (SpellsOnly.blanks.seq (SpellsOnly.one ')') back late).mp closes
    have opens : OpensCall (word ++ (gap ++ '(' :: space)) := by
      rcases named with rfl | rfl
      · exact .intro (Or.inl rfl) before behind
      · exact .intro (Or.inr rfl) before behind
    refine ⟨_, [], quote, inner, _, ?_, ⟨opens, rfl⟩, isSpecifier, .intro blank, ?_, ?_⟩
    · simp only [List.append_assoc, List.cons_append, List.nil_append]
    · simp +arith [Captured.moved]
    · simp [Captured.moved]
  complete front clause quote inner back opens isSpecifier closes := by
    obtain ⟨@⟨function, gap, space, listed, before, behind⟩, rfl⟩ := opens
    obtain @⟨last, blank⟩ := closes
    have function := (SpellsOnly.exactly "import").either (SpellsOnly.exactly "require")
    have named := listed.imp (congrArg String.toList) (congrArg String.toList)
    have opened : quote :: (inner ++ quote :: (last ++ [')'])) =
        (quote :: (inner ++ [quote])) ++ (last ++ [')']) := by
      simp
    rw [List.append_assoc, List.append_assoc, List.cons_append, opened]
    exact ⟨_, function.seq_iff.mpr ⟨_, _, _, rfl, rfl, named,
      SpellsOnly.blanks.seq_iff.mpr ⟨_, _, _, rfl, rfl, before,
      (SpellsOnly.one '(').seq_iff.mpr ⟨['('], _, _, rfl, rfl, rfl,
      SpellsOnly.blanks.seq_iff.mpr ⟨_, _, _, rfl, rfl, behind, _, _, _, _, rfl, rfl,
      spells_specifierPattern.mpr ⟨quote, inner, isSpecifier, rfl, rfl⟩,
      (SpellsOnly.blanks.seq (SpellsOnly.one ')') _ _).mpr ⟨⟨last, [')'], rfl, blank, rfl⟩, rfl⟩⟩⟩⟩⟩⟩

end Forms

end FeatureLayout.Code.Import
