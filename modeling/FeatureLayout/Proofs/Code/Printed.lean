import FeatureLayout.Code.Module
import FeatureLayout.Proofs.Code.Comments
import FeatureLayout.Proofs.Code.Heading
import FeatureLayout.Proofs.Path
import Mathlib.Data.List.TakeWhile

/-!
# Printed import declarations

An import declaration is printed on a line of its own, with single blanks. What is read of its
clause are the names that it lists, each as its module has it, with one exception: `type` under
another name is taken for the marker of types, and the word that follows it for the name. In what is
printed no comment starts, so nothing of it is blanked.
-/

namespace FeatureLayout.Code

open Text Import Specifier

/-- An identifier. -/
structure Identifier where
  text : String
  filled : text ≠ ""
  letters : ∀ c ∈ text.toList, isNameChar c = true

/-- A name that is listed, perhaps marked as a type, perhaps under another name. -/
structure Entry where
  marked : Bool
  name : Identifier
  given : Option Identifier

/-- What is listed behind a default: the module as a whole under a name, or some names. -/
inductive NameList where
  | space (name : Identifier)
  | entries (first : Entry) (rest : List Entry)

/-- What an import names: the default, or a list with a default in front of it or without one. -/
inductive Clause where
  | single (name : Identifier)
  | listed (default : Option Identifier) (list : NameList)

/-- What an import declaration does. -/
inductive Head where
  /-- `import … from`, perhaps for types only. -/
  | imports (marked : Bool) (clause : Clause)
  /-- `export … from`, perhaps for types only; without a list, everything. -/
  | reexports (marked : Bool) (list : Option NameList)
  /-- `import` for effects alone. -/
  | effect
  /-- A constant bound to a call of `import` or `require`. -/
  | call (binding : Identifier) (required : Bool)

/-- An import declaration: what it does, its specifier between quotes of one kind, and perhaps a
semicolon at its end. -/
structure Declaration where
  head : Head
  specifier : String
  double : Bool
  ended : Bool
  plain : ∀ c ∈ specifier.toList, isInner c = true ∧ c ≠ '\\'

namespace Identifier

theorem isName (identifier : Identifier) : IsName identifier.text.toList :=
  ⟨fun none => identifier.filled (String.toList_injective none), identifier.letters⟩

theorem isBlank_of_mem (identifier : Identifier) :
    ∀ c ∈ identifier.text.toList, isBlank c = false :=
  fun c listed => isBlank_of_isNameChar (identifier.letters c listed)

end Identifier

/-- The marker of what carries types only. -/
def marker (marked : Bool) : List Char := if marked then "type ".toList else []

namespace Entry

def print (entry : Entry) : List Char :=
  marker entry.marked ++ (entry.name.text.toList ++
    match entry.given with
    | none => []
    | some other => " as ".toList ++ other.text.toList)

/-- The name that is read of an entry: its name in its module, unless that is `type` under another
name. -/
def read (entry : Entry) : String :=
  if entry.marked = false ∧ entry.name.text = "type" ∧ entry.given.isSome then "as"
  else entry.name.text

end Entry

namespace NameList

def print : NameList → List Char
  | .space name => "* as ".toList ++ name.text.toList
  | .entries first rest =>
    ['{', ' '] ++ (first.print ++ (rest.flatMap (", ".toList ++ ·.print) ++ [' ', '}']))

def names : NameList → List String
  | .space _ => ["*"]
  | .entries first rest => first.read :: rest.map Entry.read

end NameList

namespace Clause

def print : Clause → List Char
  | .single name => name.text.toList
  | .listed none list => list.print
  | .listed (some name) list => name.text.toList ++ (", ".toList ++ list.print)

def names : Clause → List String
  | .single _ => ["default"]
  | .listed none list => list.names
  | .listed (some _) list => "default" :: list.names

end Clause

namespace Head

/-- What is exported from another module. -/
def exported : Option NameList → List Char
  | none => ['*']
  | some list => list.print

/-- What is printed in front of an import. -/
def before : Head → List Char
  | .call binding _ => "const ".toList ++ (binding.text.toList ++ " = ".toList)
  | _ => []

/-- What is printed of an import in front of its specifier. -/
def opening : Head → List Char
  | .imports marked clause =>
    "import ".toList ++ (marker marked ++ (clause.print ++ " from ".toList))
  | .reexports marked list =>
    "export ".toList ++ (marker marked ++ (exported list ++ " from ".toList))
  | .effect => "import ".toList
  | .call _ required => if required then "require(".toList else "import(".toList

/-- What is printed of an import behind its specifier. -/
def closing : Head → List Char
  | .call _ _ => [')']
  | _ => []

/-- The names that are read of a declaration. -/
def names : Head → List String
  | .imports _ clause => clause.names
  | .reexports _ (some list) => list.names
  | _ => ["*"]

def reexport : Head → Bool
  | .reexports _ _ => true
  | _ => false

def dynamic : Head → Bool
  | .call _ _ => true
  | _ => false

end Head

namespace Declaration

variable (declaration : Declaration)

def quote : Char := if declaration.double then '"' else '\''

/-- What is printed behind the specifier. -/
def ending : List Char := declaration.head.closing ++ if declaration.ended then [';'] else []

/-- The line of a declaration. -/
def line : List Char :=
  declaration.head.before ++ (declaration.head.opening ++
    declaration.quote :: (declaration.specifier.toList ++ declaration.quote :: declaration.ending))

/-- Where the specifier is printed in the line. -/
def place : Nat := declaration.head.before.length + declaration.head.opening.length + 1

/-- The import that a declaration stands for on a line that starts at an offset. -/
def imported (number offset : Nat) : Import where
  specifier := declaration.specifier
  names := declaration.head.names
  line := number
  span := ⟨offset + declaration.place,
    offset + declaration.place + declaration.specifier.toList.length⟩
  reexport := declaration.head.reexport
  dynamic := declaration.head.dynamic

/-- No list of names that is opened in the specifier is left open. -/
def IsClosed : Prop :=
  ∀ front start back, declaration.specifier.toList = front ++ (start ++ '{' :: back) →
    Begins "import" IsDefault start ∨ Begins "export" (· = []) start → '}' ∈ back

/-- Declarations in lines of their own behind a line, with some text at the end. -/
def behind (last : List Char) : List Declaration → List Char
  | [] => last
  | declaration :: rest => '\n' :: (declaration.line ++ behind last rest)

/-- Declarations one per line, with some text at the end. -/
def print (last : List Char) : List Declaration → List Char
  | [] => last
  | declaration :: rest => declaration.line ++ behind last rest

/-- Declarations with the numbers of their lines and the offsets where these start. -/
def placed (number offset : Nat) : List Declaration → List (Declaration × Nat × Nat)
  | [] => []
  | declaration :: rest => (declaration, number, offset) ::
    placed (number + 1) (offset + declaration.line.length + 1) rest

/-- The imports that declarations stand for. An empty specifier names nothing. -/
def imports (declarations : List Declaration) : List Import :=
  ((placed 1 0 declarations).filter fun item => item.1.specifier ≠ "").map fun item =>
    item.1.imported item.2.1 item.2.2

end Declaration

section Letters

/-- The characters that are printed outside of specifiers. -/
def isPrinted (c : Char) : Bool := isNameChar c || " ,*(=".toList.contains c || c == '{' || c == '}'

theorem Identifier.isPrinted (identifier : Identifier) :
    ∀ c ∈ identifier.text.toList, isPrinted c = true := fun c listed => by
  rw [Code.isPrinted, identifier.letters c listed]
  rfl

/-- An entry is printed without commas and braces. -/
theorem Entry.letters (entry : Entry) : ∀ c ∈ entry.print, isNameChar c = true ∨ c = ' ' := by
  have word (identifier : Identifier) :
      ∀ c ∈ identifier.text.toList, isNameChar c = true ∨ c = ' ' :=
    fun c listed => Or.inl (identifier.letters c listed)
  have marks (marked : Bool) : ∀ c ∈ marker marked, isNameChar c = true ∨ c = ' ' := by
    cases marked <;> exact List.all_iff_forall_prop.mp (by decide)
  refine List.forall_mem_append.mpr ⟨marks _, List.forall_mem_append.mpr ⟨word _, ?_⟩⟩
  cases entry.given with
  | none => exact fun c listed => absurd listed List.not_mem_nil
  | some other =>
    exact List.forall_mem_append.mpr ⟨List.all_iff_forall_prop.mp (by decide), word other⟩

theorem Entry.not_mem_print (entry : Entry) {c : Char} (refused : isNameChar c = false)
    (blank : c ≠ ' ') : c ∉ entry.print := fun listed => by
  rcases entry.letters c listed with letter | same
  · rw [letter] at refused
    cases refused
  · exact blank same

theorem isPrinted_marker (marked : Bool) : ∀ c ∈ marker marked, isPrinted c = true := by
  cases marked <;> exact List.all_iff_forall_prop.mp (by decide)

theorem NameList.isPrinted (list : NameList) : ∀ c ∈ list.print, isPrinted c = true := by
  have entry (item : Entry) : ∀ c ∈ item.print, Code.isPrinted c = true := fun c listed => by
    rcases item.letters c listed with letter | rfl
    · rw [Code.isPrinted, letter]
      rfl
    · rfl
  cases list with
  | space name =>
    exact List.forall_mem_append.mpr ⟨List.all_iff_forall_prop.mp (by decide), name.isPrinted⟩
  | entries first rest =>
    refine List.forall_mem_append.mpr ⟨List.all_iff_forall_prop.mp (by decide),
      List.forall_mem_append.mpr ⟨entry first,
      List.forall_mem_append.mpr ⟨fun c listed => ?_, List.all_iff_forall_prop.mp (by decide)⟩⟩⟩
    obtain ⟨item, -, inside⟩ := List.mem_flatMap.mp listed
    exact List.forall_mem_append.mpr ⟨List.all_iff_forall_prop.mp (by decide), entry item⟩ c inside

theorem Clause.isPrinted (clause : Clause) : ∀ c ∈ clause.print, isPrinted c = true := by
  cases clause with
  | single name => exact name.isPrinted
  | listed default list =>
    cases default with
    | none => exact list.isPrinted
    | some name =>
      exact List.forall_mem_append.mpr ⟨name.isPrinted,
        List.forall_mem_append.mpr ⟨List.all_iff_forall_prop.mp (by decide), list.isPrinted⟩⟩

theorem Head.isPrinted_before (head : Head) : ∀ c ∈ head.before, isPrinted c = true := by
  cases head with
  | imports | reexports | effect => exact fun c listed => absurd listed List.not_mem_nil
  | call binding required =>
    exact List.forall_mem_append.mpr ⟨List.all_iff_forall_prop.mp (by decide),
      List.forall_mem_append.mpr ⟨binding.isPrinted, List.all_iff_forall_prop.mp (by decide)⟩⟩

theorem Head.isPrinted_opening (head : Head) : ∀ c ∈ head.opening, isPrinted c = true := by
  cases head with
  | imports marked clause =>
    exact List.forall_mem_append.mpr ⟨List.all_iff_forall_prop.mp (by decide),
      List.forall_mem_append.mpr ⟨isPrinted_marker _,
      List.forall_mem_append.mpr ⟨clause.isPrinted, List.all_iff_forall_prop.mp (by decide)⟩⟩⟩
  | reexports marked list =>
    have exported : ∀ c ∈ Head.exported list, isPrinted c = true := by
      cases list with
      | none => exact List.all_iff_forall_prop.mp (by decide)
      | some list => exact list.isPrinted
    exact List.forall_mem_append.mpr ⟨List.all_iff_forall_prop.mp (by decide),
      List.forall_mem_append.mpr ⟨isPrinted_marker _,
      List.forall_mem_append.mpr ⟨exported, List.all_iff_forall_prop.mp (by decide)⟩⟩⟩
  | effect => exact List.all_iff_forall_prop.mp (by decide)
  | call binding required =>
    have words : (∀ c ∈ "import(".toList, isPrinted c = true) ∧
        ∀ c ∈ "require(".toList, isPrinted c = true := by
      exact ⟨List.all_iff_forall_prop.mp (by decide), List.all_iff_forall_prop.mp (by decide)⟩
    cases required with
    | false => exact words.1
    | true => exact words.2

theorem ne_of_isPrinted {c other : Char} (printed : isPrinted c = true)
    (refused : isPrinted other = false) : c ≠ other := by
  rintro rfl
  rw [printed] at refused
  cases refused

end Letters

section Names

/-- The words of an entry. -/
def Entry.words (entry : Entry) : List String :=
  (if entry.marked then ["type"] else []) ++ entry.name.text ::
    match entry.given with
    | none => []
    | some other => ["as", other.text]

/-- An entry is read as one name. -/
theorem Entry.listedName?_words (entry : Entry) :
    (listedName? entry.words).map (·.declared) = some entry.read := by
  obtain ⟨marked, name, given⟩ := entry
  cases marked with
  | true => cases given <;> simp [words, listedName?, read]
  | false =>
    cases given with
    | none =>
      rw [read, if_neg (by simp)]
      simp [words, listedName?]
    | some other =>
      by_cases same : name.text = "type"
      · simp [words, listedName?, read, same]
      · simp [words, listedName?, read, same]

/-- An entry is printed by its words. -/
theorem Entry.words_print (entry : Entry) (rest : List Char)
    (ends : rest = [] ∨ rest = [' ']) :
    (Text.words (' ' :: (entry.print ++ rest))).map String.ofList = entry.words := by
  have last (identifier : Identifier) :
      (Text.words (identifier.text.toList ++ rest)).map String.ofList = [identifier.text] := by
    rcases ends with rfl | rfl
    · rw [List.append_nil, words_word identifier.isName.1 identifier.isBlank_of_mem]
      simp
    · rw [words_append identifier.isName.1 identifier.isBlank_of_mem (by decide)]
      simp [Text.words, wordsFrom]
  have word {letters : List Char} (filled : letters ≠ [])
      (visible : ∀ c ∈ letters, isBlank c = false) (back : List Char) :
      Text.words (letters ++ ' ' :: back) = letters :: Text.words back :=
    words_append filled visible (by decide)
  have named : (Text.words (entry.name.text.toList ++ (match entry.given with
      | none => []
      | some other => " as ".toList ++ other.text.toList) ++ rest)).map String.ofList =
        entry.name.text :: match entry.given with
          | none => []
          | some other => ["as", other.text] := by
    cases entry.given with
    | none => rw [List.append_nil, last]
    | some other =>
      have split : entry.name.text.toList ++ (" as ".toList ++ other.text.toList) ++ rest =
          entry.name.text.toList ++ ' ' :: ("as".toList ++ ' ' :: (other.text.toList ++ rest)) := by
        simp
      rw [split, word entry.name.isName.1 entry.name.isBlank_of_mem,
        word (by decide) (List.all_iff_forall_prop.mp (by decide)), List.map_cons, List.map_cons,
        last, String.ofList_toList]
      rfl
  rw [words_blank (by decide), print, Entry.words, marker, List.append_assoc]
  cases entry.marked with
  | false => exact named
  | true =>
    have split (back : List Char) : "type ".toList ++ back = "type".toList ++ ' ' :: back := rfl
    rw [if_pos rfl, if_pos rfl, split, word (by decide) (List.all_iff_forall_prop.mp (by decide)),
      List.map_cons, named]
    rfl

/-- The names of a list are read off what is printed between its braces. -/
theorem names_entries (first : Entry) (rest : List Entry) :
    (listedNames (' ' :: (first.print ++ (rest.flatMap (", ".toList ++ ·.print) ++ [' '])))).map
      (·.declared) = first.read :: rest.map Entry.read := by
  have comma (entry : Entry) : ',' ∉ ' ' :: entry.print := fun listed => by
    rcases List.mem_cons.mp listed with same | inside
    · exact absurd same (by decide)
    · exact entry.not_mem_print (by decide) (by decide) inside
  have one (entry : Entry) (rest : List Char) (ends : rest = [] ∨ rest = [' ']) :
      ((listedName? ((Text.words (' ' :: (entry.print ++ rest))).map String.ofList)).map
        (·.declared)) = some entry.read := by
    rw [entry.words_print rest ends, entry.listedName?_words]
  rw [listedNames, List.map_filterMap]
  induction rest generalizing first with
  | nil =>
    have whole : ',' ∉ ' ' :: (first.print ++ [' ']) := fun listed => by
      rcases List.mem_append.mp (List.cons_append ▸ listed) with inside | same
      · exact comma first inside
      · exact absurd (List.mem_singleton.mp same) (by decide)
    rw [List.flatMap_nil, List.nil_append, fields_eq_singleton whole, List.filterMap_cons,
      one first [' '] (Or.inr rfl)]
    rfl
  | cons second others inductionHypothesis =>
    have split : ' ' :: (first.print ++ ((second :: others).flatMap (", ".toList ++ ·.print) ++
        [' '])) = (' ' :: first.print) ++ ',' :: (' ' :: (second.print ++
          (others.flatMap (", ".toList ++ ·.print) ++ [' ']))) := by
      simp
    have single := one first [] (Or.inl rfl)
    rw [List.append_nil] at single
    rw [split, fields_append, fields_eq_singleton (comma first), List.singleton_append,
      List.filterMap_cons, single, inductionHypothesis second]
    rfl

/-- A printed list is taken out of its braces. -/
theorem withoutBraces_print (first : Entry) (rest : List Entry) :
    withoutBraces (NameList.entries first rest).print =
      ' ' :: (first.print ++ (rest.flatMap (", ".toList ++ ·.print) ++ [' '])) := by
  have split : (NameList.entries first rest).print =
      '{' :: ' ' :: (first.print ++ (rest.flatMap (", ".toList ++ ·.print) ++ [' ', '}'])) := rfl
  have ends : (' ' :: (first.print ++ (rest.flatMap (", ".toList ++ ·.print) ++ [' ', '}']))) =
      (' ' :: (first.print ++ (rest.flatMap (", ".toList ++ ·.print) ++ [' ']))) ++ ['}'] := by
    simp
  rw [withoutBraces, split, List.dropWhile_cons, if_pos (by decide), List.dropWhile_cons,
    if_neg (by decide), ends, List.reverse_append, List.reverse_singleton, List.singleton_append,
    List.dropWhile_cons, if_pos (by decide)]
  have last : (' ' :: (first.print ++ (rest.flatMap (", ".toList ++ ·.print) ++ [' ']))).reverse =
      ' ' :: (' ' :: (first.print ++ rest.flatMap (", ".toList ++ ·.print))).reverse := by
    simp
  rw [last, List.dropWhile_cons, if_neg (by decide), ← last, List.reverse_reverse]

/-- A printed list starts with a star or a brace. -/
theorem NameList.isList (list : NameList) : IsList list.print := by
  cases list with
  | space name =>
    have parts : IsList ('*' :: ([' '] ++ ("as".toList ++ ([' '] ++ name.text.toList)))) :=
      .space isGap_single isSpace_single name.isName
    exact parts
  | entries first rest =>
    have inner : (NameList.entries first rest).print =
        '{' :: ((' ' :: (first.print ++ (rest.flatMap (", ".toList ++ ·.print) ++ [' ']))) ++
          ['}']) := by
      simp [NameList.print]
    rw [inner]
    refine .braced fun listed => ?_
    have absent (entry : Entry) : '}' ∉ entry.print := entry.not_mem_print (by decide) (by decide)
    simp [absent] at listed

theorem Clause.isClause (clause : Clause) : IsClause clause.print := by
  cases clause with
  | single name => exact .single name.isName
  | listed default list =>
    cases default with
    | none => exact .listed .absent list.isList
    | some name =>
      have parts : IsClause ((name.text.toList ++ ([] ++ ',' :: [' '])) ++ list.print) :=
        .listed (.present name.isName (fun c listed => absurd listed List.not_mem_nil) isGap_single)
          list.isList
      rwa [List.append_assoc] at parts

/-- A printed clause has no blanks at its ends. -/
theorem trim_eq_of_isClause {clause : List Char} (isClause : IsClause clause) :
    trim clause = clause := by
  refine trim_eq_self (fun c first => ?_) fun c last => ?_
  · obtain ⟨d, rest, rfl, filled, -⟩ := clauses_import.starts isClause
    rwa [← Option.some.inj first]
  · obtain ⟨before, d, rfl, filled⟩ := clauses_import.ends isClause
    rw [List.getLast?_concat] at last
    rwa [← Option.some.inj last]

/-- The names between braces are read off the text of their list. -/
theorem listedNames_print (first : Entry) (rest : List Entry) :
    (listedNames (withoutBraces (NameList.entries first rest).print)).map (·.declared) =
      (NameList.entries first rest).names := by
  rw [withoutBraces_print]
  exact names_entries first rest

/-- The names of an import are read off its clause. -/
theorem clauseNames_print (clause : Clause) : clauseNames clause.print = clause.names := by
  have first (name : Identifier) : ∃ c rest, name.text.toList = c :: rest ∧ c ≠ '{' ∧ c ≠ '*' := by
    obtain ⟨c, rest, same⟩ := List.exists_cons_of_ne_nil name.isName.1
    have letter := name.letters c (same ▸ List.mem_cons_self)
    exact ⟨c, rest, same, ne_of_isNameChar letter (by decide), ne_of_isNameChar letter (by decide)⟩
  have plain (name : Identifier) : ∀ c ∈ name.text.toList, (c != ',') = true := fun c listed =>
    bne_iff_ne.mpr (ne_of_isNameChar (name.letters c listed) (by decide))
  rw [clauseNames, trim_eq_of_isClause clause.isClause]
  cases clause with
  | single name =>
    obtain ⟨c, rest, same, brace, star⟩ := first name
    have dropped : name.text.toList.dropWhile (· != ',') = [] :=
      List.dropWhile_eq_nil_iff.mpr (plain name)
    rw [Clause.print, same] at *
    simp [dropped, brace, star, Clause.names]
  | listed default list =>
    cases default with
    | none =>
      cases list with
      | space name =>
        have dropped : name.text.toList.dropWhile (· != ',') = [] :=
          List.dropWhile_eq_nil_iff.mpr (plain name)
        simp [Clause.print, NameList.print, dropped, Clause.names, NameList.names]
      | entries one rest => exact listedNames_print one rest
    | some name =>
      obtain ⟨c, rest, same, brace, -⟩ := first name
      have dropped : (name.text.toList ++ ',' :: (' ' :: list.print)).dropWhile (· != ',') =
          ',' :: ' ' :: list.print := by
        rw [List.dropWhile_append_of_pos (plain name), List.dropWhile_cons, if_neg (by simp)]
      have listed : trim (' ' :: list.print) = list.print := by
        have whole := trim_eq_of_isClause (Clause.listed none list).isClause
        rw [trim, trimFront, List.dropWhile_cons, if_pos (by decide)]
        exact whole
      have split : (Clause.listed (some name) list).print =
          name.text.toList ++ ',' :: (' ' :: list.print) := rfl
      rw [same, List.cons_append] at dropped
      rw [split, same, List.cons_append]
      simp only [dropped, listed, brace, List.cons.injEq, false_and, imp_false, not_false_eq_true,
        implies_true]
      cases list with
      | space other => rfl
      | entries one rest => exact congrArg ("default" :: ·) (listedNames_print one rest)

/-- The names of a reexport are read off its clause. -/
theorem reexportNames_exported (list : Option NameList) :
    reexportNames (Head.exported list) = (Head.reexports false list).names := by
  cases list with
  | none => rfl
  | some list =>
    cases list with
    | space name => rfl
    | entries one rest => exact listedNames_print one rest

end Names

section Openings

theorem isMarker_marker (marked : Bool) : IsMarker (marker marked) := by
  cases marked with
  | false => exact .absent
  | true => exact .present isSpace_single

theorem isReexported_exported (list : Option NameList) : IsReexported (Head.exported list) := by
  cases list with
  | none => exact .all
  | some list => exact .listed list.isList

theorem heading_imports (marked : Bool) (clause : Clause) :
    Heading "import" IsClause (Head.imports marked clause).opening clause.print := by
  have parts : Heading "import" IsClause ("import".toList ++ ([' '] ++ (marker marked ++
      (clause.print ++ ([' '] ++ ("from".toList ++ [' '])))))) clause.print :=
    .intro isSpace_single (isMarker_marker marked) clause.isClause isGap_single isGap_single
  exact parts

theorem heading_reexports (marked : Bool) (list : Option NameList) :
    Heading "export" IsReexported (Head.reexports marked list).opening (Head.exported list) := by
  have parts : Heading "export" IsReexported ("export".toList ++ ([' '] ++ (marker marked ++
      (Head.exported list ++ ([' '] ++ ("from".toList ++ [' '])))))) (Head.exported list) :=
    .intro isSpace_single (isMarker_marker marked) (isReexported_exported list) isGap_single
      isGap_single
  exact parts

/-- What is printed of a list has a star or a brace at its start and nowhere else. -/
theorem NameList.starts (list : NameList) : ∃ c rest, list.print = c :: rest ∧
    (c = '*' ∨ c = '{') ∧ ∀ d ∈ rest, d ≠ '*' ∧ d ≠ '{' := by
  have named (identifier : Identifier) : ∀ d ∈ identifier.text.toList, d ≠ '*' ∧ d ≠ '{' :=
    fun d listed => ⟨ne_of_isNameChar (identifier.letters d listed) (by decide),
      ne_of_isNameChar (identifier.letters d listed) (by decide)⟩
  have entry (item : Entry) : ∀ d ∈ item.print, d ≠ '*' ∧ d ≠ '{' := fun d listed => by
    rcases item.letters d listed with letter | rfl
    · exact ⟨ne_of_isNameChar letter (by decide), ne_of_isNameChar letter (by decide)⟩
    · decide
  cases list with
  | space name =>
    exact ⟨'*', _, rfl, Or.inl rfl,
      List.forall_mem_append.mpr ⟨List.all_iff_forall_prop.mp (by decide), named name⟩⟩
  | entries first rest =>
    have signs {text : List Char} (plain : (text.all fun d => d ≠ '*' ∧ d ≠ '{') = true) :
        ∀ d ∈ text, d ≠ '*' ∧ d ≠ '{' := List.all_iff_forall_prop.mp plain
    refine ⟨'{', _, rfl, Or.inr rfl, List.forall_mem_append.mpr ⟨signs (by decide),
      List.forall_mem_append.mpr ⟨entry first, List.forall_mem_append.mpr ⟨fun d listed => ?_,
        signs (by decide)⟩⟩⟩⟩
    obtain ⟨item, -, inside⟩ := List.mem_flatMap.mp listed
    exact List.forall_mem_append.mpr ⟨signs (by decide), entry item⟩ d inside

/-- Every brace that is opened is closed behind it. -/
def ClosesBraces (text : List Char) : Prop :=
  ∀ front back, text = front ++ '{' :: back → '}' ∈ back

theorem closesBraces_of_not_mem {text : List Char} (absent : '{' ∉ text) : ClosesBraces text :=
  fun front back same => absurd (same ▸ by simp) absent

theorem ClosesBraces.append {front back : List Char} (one : ClosesBraces front)
    (other : ClosesBraces back) : ClosesBraces (front ++ back) := by
  intro before behind same
  rcases List.append_eq_append_iff.mp same with ⟨between, rfl, split⟩ | ⟨between, rfl, split⟩
  · exact other between behind split
  · cases between with
    | nil => exact other [] behind split.symm
    | cons c more =>
      obtain ⟨rfl, rfl⟩ := List.cons.inj split
      exact List.mem_append_left _ (one before more rfl)

theorem Identifier.closes (identifier : Identifier) : ClosesBraces identifier.text.toList :=
  closesBraces_of_not_mem fun listed =>
    ne_of_isNameChar (identifier.letters _ listed) (by decide) rfl

theorem NameList.closes (list : NameList) : ClosesBraces list.print := by
  intro front back opened
  obtain ⟨c, rest, same, -, apart⟩ := list.starts
  cases front with
  | cons d more =>
    rw [same] at opened
    obtain ⟨-, inside⟩ := List.cons.inj opened
    exact absurd rfl (apart '{' (inside ▸ by simp)).2
  | nil =>
    cases list with
    | space name => exact absurd (List.cons.inj opened).1 (by decide)
    | entries first others =>
      rw [← (List.cons.inj opened).2]
      simp

theorem Clause.closes (clause : Clause) : ClosesBraces clause.print := by
  cases clause with
  | single name => exact name.closes
  | listed default list =>
    cases default with
    | none => exact list.closes
    | some name =>
      exact name.closes.append ((closesBraces_of_not_mem (by decide)).append list.closes)

/-- Every brace that is printed in front of a specifier is closed there. -/
theorem Head.closes (head : Head) : ClosesBraces (head.before ++ head.opening) := by
  have plain {word : String} (absent : '{' ∉ word.toList) : ClosesBraces word.toList :=
    closesBraces_of_not_mem absent
  have marks (marked : Bool) : ClosesBraces (marker marked) :=
    closesBraces_of_not_mem (by cases marked <;> decide)
  cases head with
  | imports marked clause =>
    exact (plain (by decide)).append ((marks _).append (clause.closes.append (plain (by decide))))
  | reexports marked list =>
    have exported : ClosesBraces (Head.exported list) := by
      cases list with
      | none => exact closesBraces_of_not_mem (by decide)
      | some list => exact list.closes
    exact (plain (by decide)).append ((marks _).append (exported.append (plain (by decide))))
  | effect => exact plain (by decide)
  | call binding required =>
    have function : ClosesBraces (Head.call binding required).opening := by
      cases required <;> exact plain (by decide)
    exact ((plain (by decide)).append (binding.closes.append (plain (by decide)))).append function

end Openings

end FeatureLayout.Code
