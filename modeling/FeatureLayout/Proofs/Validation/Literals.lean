import FeatureLayout.Proofs.Code.Nesting
import FeatureLayout.Proofs.Validation.Collected

/-!
# What is reported of literals

A storage object that is mentioned in the contents of a literal is no reference to it, and nothing
is reported there: what is shown of a literal has no word characters, and what a search finds
reaches up to one. Code is searched as it stands, the expressions of templates included, apart from
the calls that are out of scope.

The literals that stand in an expression of a template are the exception. They are shown as they
are, and a storage object that is mentioned in one of them is reported like one in code.
-/

namespace FeatureLayout

open Text Code

namespace Validation

/-- Whether a diagnostic reports a storage object in a file. -/
def isResidualOf (source : String) : Diagnostic → Bool
  | .residual _ other _ _ => other = source
  | _ => false

/-- The storage objects that are reported in a file, in the order of the report. -/
def residualsOf (validation : Validation) (source : String) : List Diagnostic :=
  validation.errors.filter (isResidualOf source)

/-- What a search for the storage objects finds; nothing when there are none to look for. -/
def foundIn (storage : StorageInterface) (checked : List Char) : List (Match Unit) :=
  (storagePattern? storage).elim [] (·.search checked)

/-- A stretch lies in the contents of a literal that stands in no expression. -/
def LiesInOuterLiteral (text : List Char) (span : Span) : Prop :=
  ∀ place, span.start ≤ place → place ≤ span.stop → InOuterLiteral text place

section Report

variable {scope : Scope} {classification : Classification} {layout : Layout}
  {staged : Ledger String String} {validation : Validation} {move : Move} {content : String}

/-- What is left in a file is reported for this file. -/
theorem isResidualOf_leftIn {pattern : Pattern Unit} {found : List Diagnostic}
    (run : leftIn scope pattern staged move = .ok found) (source : String) {problem : Diagnostic}
    (listed : problem ∈ found) : isResidualOf source problem = decide (move.source = source) := by
  rcases leftIn_cases scope pattern staged move with ⟨name, text, -, -, same⟩ | ⟨-, same⟩
  · rw [same, residuesOf_eq] at run
    obtain ⟨checked, -, rfl⟩ := map_eq_ok.mp run
    obtain ⟨matched, -, rfl⟩ := List.mem_map.mp listed
    rfl
  · rw [same] at run
    obtain rfl := Except.ok.inj run
    exact absurd listed List.not_mem_nil

/-- Of what is left in the files, a file has what is left in it. -/
theorem filter_flatten_leftIn {pattern : Pattern Unit} {moves : List Move}
    {results : List (List Diagnostic)}
    (each : List.Forall₂ (fun move found => leftIn scope pattern staged move = .ok found) moves
      results)
    (distinct : (moves.map (·.source)).Nodup) (listed : move ∈ moves) {found : List Diagnostic}
    (run : leftIn scope pattern staged move = .ok found) :
    results.flatten.filter (isResidualOf move.source) = found := by
  have others {other : Move} {left : List Diagnostic}
      (came : leftIn scope pattern staged other = .ok left) (apart : other.source ≠ move.source) :
      left.filter (isResidualOf move.source) = [] := by
    refine List.filter_eq_nil_iff.mpr fun problem inside => ?_
    rw [isResidualOf_leftIn came _ inside, decide_eq_true_eq]
    exact apart
  induction each with
  | nil => exact absurd listed List.not_mem_nil
  | @cons first left moves results head tail inductionHypothesis =>
    rw [List.map_cons, List.nodup_cons] at distinct
    rw [List.flatten_cons, List.filter_append]
    rcases List.mem_cons.mp listed with rfl | later
    · obtain rfl := Except.ok.inj (head.symm.trans run)
      have own : left.filter (isResidualOf move.source) = left := by
        refine List.filter_eq_self.mpr fun problem inside => ?_
        rw [isResidualOf_leftIn head _ inside, decide_eq_true_eq]
      have none : results.flatten.filter (isResidualOf move.source) = [] := by
        refine List.filter_eq_nil_iff.mpr fun problem inside => ?_
        obtain ⟨result, among, there⟩ := List.mem_flatten.mp inside
        obtain ⟨other, planned, came⟩ := exists_of_rel_mem tail.flip among
        rw [isResidualOf_leftIn came _ there, decide_eq_true_eq]
        exact fun same => distinct.1 (List.mem_map.mpr ⟨other, planned, same⟩)
      rw [own, none, List.append_nil]
    · have apart : first.source ≠ move.source :=
        fun same => distinct.1 (List.mem_map.mpr ⟨move, later, same.symm⟩)
      rw [others head apart, List.nil_append]
      exact inductionHypothesis distinct.2 later

/-- What is reported in a file is among what is left in the files. -/
theorem residualsOf_eq_filter
    (ran : ofStaged scope classification layout staged = .ok validation)
    {left : List Diagnostic} (searched : residues scope layout staged = .ok left)
    (source : String) : residualsOf validation source = left.filter (isResidualOf source) := by
  obtain ⟨also, again, -, errors⟩ := errors_of_ofStaged ran
  obtain rfl := Except.ok.inj (searched.symm.trans again)
  have silent {found : List Diagnostic}
      (other : ∀ problem ∈ found, isResidualOf source problem = false) :
      found.filter (isResidualOf source) = [] :=
    List.filter_eq_nil_iff.mpr fun problem inside => by simp [other problem inside]
  have unread := silent fun problem
      (inside : problem ∈ (edgesOf scope layout staged).errors) => by
    obtain ⟨_, _, rfl⟩ := eq_unscannable_of_mem_edgesOf inside
    rfl
  have crossing := silent fun problem
      (inside : problem ∈ crossings classification (edgesOf scope layout staged).edges) => by
    obtain ⟨_, _, _, _, rfl, -⟩ := mem_crossings.mp inside
    rfl
  have page := silent fun problem
      (inside : problem ∈ missingPages scope layout (edgesOf scope layout staged).edges) => by
    obtain ⟨_, -, rfl⟩ := List.mem_map.mp inside
    rfl
  have shared := silent fun problem
      (inside : problem ∈ unreferenced layout (edgesOf scope layout staged).edges) => by
    obtain ⟨_, -, rfl⟩ := List.mem_map.mp inside
    rfl
  rw [residualsOf, errors]
  simp only [List.filter_append, unread, crossing, page, shared, List.nil_append, List.append_nil]

/-- What is reported in a feature's file is what a search finds in its prepared text. -/
theorem residualsOf_eq (keyed : layout.Keyed) (listed : move ∈ layout.moves.values)
    {feature : String} (owned : move.owner = .feature feature)
    (holds : staged.find? move.source = some content) {checked : List Char}
    (prepared : checkedText scope move.source content.toList = .ok checked)
    (ran : ofStaged scope classification layout staged = .ok validation) :
    residualsOf validation move.source =
      (foundIn scope.storage checked).map fun found =>
        .residual move.destination move.source (lineAt checked found.span.start)
          (String.ofList found.text) := by
  obtain ⟨left, searched, -, -⟩ := errors_of_ofStaged ran
  rw [residualsOf_eq_filter ran searched]
  cases known : storagePattern? scope.storage with
  | none =>
    rw [residues, known] at searched
    obtain rfl := Except.ok.inj searched
    rw [foundIn, known]
    rfl
  | some pattern =>
    rw [residues_eq known] at searched
    obtain ⟨results, each, rfl⟩ := map_eq_ok.mp searched
    have run : leftIn scope pattern staged move = residuesOf scope pattern move content := by
      rw [leftIn, owned, holds]
    rw [residuesOf_eq, prepared] at run
    rw [foundIn, known]
    exact filter_flatten_leftIn (mapM_eq_ok.mp each) keyed.sources_nodup listed run

end Report

section Literals

variable {scope : Scope} {classification : Classification} {layout : Layout}
  {staged : Ledger String String} {move : Move} {content source : String}
  {text checked masked code : List Char} {calls : List StorageCall}

/-- What is searched for is one of the storage objects. -/
theorem exists_oneOf_of_mem_foundIn {storage : StorageInterface} {found : Match Unit}
    (listed : found ∈ foundIn storage checked) :
    found ∈ (Pattern.oneOf (sorted storage.identifiers)).search checked := by
  unfold foundIn storagePattern? at listed
  dsimp only at listed
  split at listed
  · exact absurd listed List.not_mem_nil
  · exact listed

/-- Of the contents of a literal that stands in no expression, no word character is left. -/
theorem isWord_of_inOuterLiteral (shallow : Shallow masked) (read : maskStrings masked = .ok code)
    {spans : List Span} {place : Nat} (literal : InOuterLiteral masked place) {c : Char}
    (shows : (spans.foldl blankSpan code)[place]? = some c) : isWord c = false := by
  by_cases blank : c = ' '
  · rw [blank]
    decide
  · have inCode := (blanked_foldl spans code).getElem?_eq shows blank
    have inside := (List.getElem?_eq_some_iff.mp inCode).1
    have length := (StringLayer.blanked_of_mask read).length_eq
    refine StringLayer.isWord_of_not_isCodeAt read ?_ inCode
    rw [isCodeAt_iff shallow (by omega)]
    exact not_not_intro literal

/-- Nothing is found in the contents of a literal that stands in no expression. -/
theorem not_liesInOuterLiteral (shallow : Shallow masked) (read : maskStrings masked = .ok code)
    {spans : List Span} {storage : StorageInterface} {found : Match Unit}
    (listed : found ∈ foundIn storage (spans.foldl blankSpan code)) :
    ¬ LiesInOuterLiteral masked found.span := by
  intro lies
  obtain ⟨place, c, start, stop, shows, word⟩ :=
    Pattern.exists_word_of_mem_search (exists_oneOf_of_mem_foundIn listed)
  rw [isWord_of_inOuterLiteral shallow read (lies place start stop) shows] at word
  cases word

/-- All other characters are searched as they are, those of the calls that are blanked apart. -/
theorem getElem?_of_not_inOuterLiteral (shallow : Shallow masked)
    (read : maskStrings masked = .ok code) {spans : List Span} {place : Nat}
    (outside : ¬ InOuterLiteral masked place) (apart : ¬ Covered spans place) :
    (spans.foldl blankSpan code)[place]? = masked[place]? := by
  rw [getElem?_foldl code apart]
  by_cases inside : place ≤ masked.length
  · exact StringLayer.getElem?_of_isCodeAt read ((isCodeAt_iff shallow inside).mpr outside)
  · have length := (StringLayer.blanked_of_mask read).length_eq
    rw [List.getElem?_eq_none (by omega), List.getElem?_eq_none (by omega)]

/-- The names that are left to be found are those that stand outside of the contents of literals and
outside of the calls that are blanked. -/
theorem standsAt_left_iff (shallow : Shallow masked) (read : maskStrings masked = .ok code)
    {spans : List Span} (bracketed : ∀ span ∈ spans, Bracketed masked span) {name : List Char}
    (whole : IsWhole name) {place : Nat} :
    StandsAt name (spans.foldl blankSpan code) place ↔
      StandsAt name masked place ∧ ¬ InOuterLiteral masked place ∧ ¬ Covered spans place := by
  rw [standsAt_foldl_iff (StringLayer.blanked_of_mask read) bracketed whole,
    StringLayer.standsAt_shown_iff whole read, and_assoc]
  refine and_congr_right fun stands => and_congr_left fun _ => isCodeAt_iff shallow ?_
  obtain ⟨c, others, starts⟩ := List.exists_cons_of_ne_nil whole.ne_nil
  have there := stands.letters 0 c (by rw [starts]; rfl)
  exact Nat.le_of_lt (List.getElem?_eq_some_iff.mp there).1

/-- What is found when the storage objects are names. -/
theorem foundIn_eq {storage : StorageInterface} (whole : ∀ name ∈ storage.identifiers,
    IsWhole name.toList) (checked : List Char) : foundIn storage checked =
      if storage.identifiers = [] then []
      else (Pattern.oneOf (sorted storage.identifiers)).search checked := by
  rw [foundIn, storagePattern?_eq whole]
  split <;> rfl

/-- What a search finds in a prepared text when no literal stands too deep in it. -/
structure FoundOutside (scope : Scope) (calls : List StorageCall) (masked checked : List Char) :
    Prop where
  /-- Nothing is found in the contents of a literal that stands in no expression. -/
  apart : ∀ found ∈ foundIn scope.storage checked, ¬ LiesInOuterLiteral masked found.span
  /-- Code is searched as it stands, in expressions too, the calls that are out of scope apart. -/
  code : ∀ place, InCode masked place → ¬ Excused scope calls place →
    checked[place]? = masked[place]?
  /-- So are the contents of the literals that stand in expressions. -/
  nested : ∀ place, InLiteral masked place → ¬ InOuterLiteral masked place →
    ¬ Excused scope calls place → checked[place]? = masked[place]?
  /-- What is found of names are names that stand there. -/
  names : (∀ name ∈ scope.storage.identifiers, IsWhole name.toList) →
    ∀ found ∈ foundIn scope.storage checked, ∃ name ∈ scope.storage.identifiers,
      found.text = name.toList ∧ StandsAt name.toList masked found.span.start ∧
        ¬ InOuterLiteral masked found.span.start ∧ ¬ Excused scope calls found.span.start
  /-- Each name that stands there is found, once. -/
  once : (∀ name ∈ scope.storage.identifiers, IsWhole name.toList) →
    (foundIn scope.storage checked).Pairwise
        (fun first second => first.span.start < second.span.start) ∧
      ∀ name ∈ scope.storage.identifiers, ∀ place, StandsAt name.toList masked place →
        ¬ InOuterLiteral masked place → ¬ Excused scope calls place →
          ∃ found ∈ foundIn scope.storage checked, found.span.start = place

/-- When no literal stands too deep, only code and the literals in expressions are searched. -/
theorem foundOutside_of_searched (input : Searched scope source text calls masked code)
    (shallow : Shallow masked) {spans : List Span}
    (bracketed : ∀ span ∈ spans, Bracketed masked span)
    (covered : ∀ place, Covered spans place ↔ Excused scope calls place) :
    FoundOutside scope calls masked (spans.foldl blankSpan code) := by
  have names (whole : ∀ name ∈ scope.storage.identifiers, IsWhole name.toList) :
      ∀ name ∈ sorted scope.storage.identifiers, IsWhole name.toList :=
    fun name listed => whole name (mem_sorted.mp listed)
  have filled {name : String} (listed : name ∈ scope.storage.identifiers) :
      sorted scope.storage.identifiers ≠ [] := List.ne_nil_of_mem (mem_sorted.mpr listed)
  have standing {found : Match Unit}
      (whole : ∀ name ∈ scope.storage.identifiers, IsWhole name.toList)
      (listed : found ∈ foundIn scope.storage (spans.foldl blankSpan code)) :
      ∃ name ∈ scope.storage.identifiers, found.text = name.toList ∧
        found.span = ⟨found.span.start, found.span.start + name.toList.length⟩ ∧
        StandsAt name.toList (spans.foldl blankSpan code) found.span.start := by
    have among := exists_oneOf_of_mem_foundIn listed
    rw [foundIn_eq whole] at listed
    split at listed
    · exact absurd listed List.not_mem_nil
    · next some =>
      obtain ⟨first, rest, shape⟩ := List.exists_cons_of_ne_nil some
      obtain ⟨name, present, found⟩ := Pattern.exists_standsAt_of_mem_search (names whole)
        (filled (shape ▸ List.mem_cons_self)) among
      exact ⟨name, mem_sorted.mp present, found⟩
  constructor
  case apart => exact fun found listed => not_liesInOuterLiteral shallow input.shown listed
  case code =>
    intro place inCode excused
    have outside := mt InOuterLiteral.inLiteral (inCode_iff.mp inCode)
    exact getElem?_of_not_inOuterLiteral shallow input.shown outside (mt (covered place).mp excused)
  case nested =>
    exact fun place _ outside excused =>
      getElem?_of_not_inOuterLiteral shallow input.shown outside (mt (covered place).mp excused)
  case names =>
    intro whole found listed
    obtain ⟨name, present, same, -, stands⟩ := standing whole listed
    obtain ⟨inText, outside, free⟩ :=
      (standsAt_left_iff shallow input.shown bracketed (whole name present)).mp stands
    exact ⟨name, present, same, inText, outside, mt (covered _).mpr free⟩
  case once =>
    intro whole
    constructor
    · have row : (foundIn scope.storage (spans.foldl blankSpan code)).Pairwise
          fun first second => first.span.stop ≤ second.span.start := by
        rw [foundIn_eq whole]
        split
        · exact .nil
        · exact Pattern.search_row _ _
      refine row.imp_of_mem fun {first} {second} listed _ behind => ?_
      obtain ⟨name, present, -, span, -⟩ := standing whole listed
      have stop := congrArg Span.stop span
      have length := List.length_pos_iff.mpr (whole name present).ne_nil
      dsimp only at stop
      omega
    · intro name present place stands outside excused
      have left := (standsAt_left_iff shallow input.shown bracketed (whole name present)).mpr
        ⟨stands, outside, mt (covered place).mp excused⟩
      rw [foundIn_eq whole, if_neg (List.ne_nil_of_mem present)]
      exact Pattern.exists_mem_search (names whole) (filled present) (mem_sorted.mpr present) left

/-- In a feature's file that can be searched, what is reported is what a search finds in its
prepared text, in this order. When no literal stands too deep, nothing is found in the contents of a
literal that stands in no expression, and all of the code is searched, in expressions too. -/
theorem residualsOf_outside (keyed : layout.Keyed) (listed : move ∈ layout.moves.values)
    {feature : String} (owned : move.owner = .feature feature)
    (holds : staged.find? move.source = some content)
    (searchable : Searchable scope move.source content.toList) :
    ∃ calls masked code checked,
      Searched scope move.source content.toList calls masked code ∧
      checkedText scope move.source content.toList = .ok checked ∧
      (∀ classification validation,
        ofStaged scope classification layout staged = .ok validation →
        residualsOf validation move.source = (foundIn scope.storage checked).map fun found =>
          .residual move.destination move.source (lineAt content.toList found.span.start)
            (String.ofList found.text)) ∧
      (Shallow masked → FoundOutside scope calls masked checked) := by
  obtain ⟨checked, prepared⟩ := exists_checkedText_iff.mpr searchable
  obtain ⟨calls, masked, code, spans, input, same, bracketed, covered⟩ := exists_searched prepared
  refine ⟨calls, masked, code, checked, input, prepared, fun classification validation ran => ?_,
    fun shallow => same ▸ foundOutside_of_searched input shallow bracketed covered⟩
  have lines (place : Nat) : lineAt checked place = lineAt content.toList place := by
    rw [same]
    exact (((blanked_foldl spans code).trans (StringLayer.blanked_of_mask input.shown)).trans
      (CommentLayer.blanked_of_mask input.read)).lineAt_eq place
  rw [residualsOf_eq keyed listed owned holds prepared ran]
  exact List.map_congr_left fun found _ => by rw [lines]

end Literals

section Mentioned

/-- A text that mentions a storage object in a template and refers to it in an expression of it. -/
def mentioningText : String := "`localStorage $\x7blocalStorage.length\x7d`"

/-- A text that mentions a storage object in a literal in an expression of a template. -/
def nestingText : String := "`$\x7b'localStorage'\x7d`"

theorem nestedLayout_keyed : nestedLayout.Keyed := by
  intro source move found
  have stored := List.mem_singleton.mp ((Ledger.find?_eq_some_iff nestedLayout.moves _ _).mp found)
  rw [(Prod.mk.inj stored).1, (Prod.mk.inj stored).2]
  rfl

theorem foundIn_nested (checked : List Char) :
    foundIn nestedScope.storage checked = (Pattern.oneOf ["localStorage"]).search checked := by
  have names : sorted nestedScope.storage.identifiers = ["localStorage"] := by cbv
  rw [foundIn_eq isWhole_nested, names, if_neg (by decide)]

/-- The page refers to the storage object once. -/
theorem residualsOf_outside_mentioning :
    nestedLayout.Keyed ∧ nestedMove ∈ nestedLayout.moves.values ∧
      nestedMove.owner = .feature "one" ∧
      (pageText mentioningText).find? nestedMove.source = some mentioningText ∧
      Searchable nestedScope nestedMove.source mentioningText.toList ∧
      ∃ checked, checkedText nestedScope nestedMove.source mentioningText.toList = .ok checked ∧
        (∃ found ∈ foundIn nestedScope.storage checked, found.span.start = 16) ∧
        ∀ found ∈ foundIn nestedScope.storage checked, found.span.start ≠ 1 := by
  have searched : Searched nestedScope nestedMove.source mentioningText.toList []
      mentioningText.toList "`             $\x7blocalStorage.length\x7d`".toList :=
    ⟨by cbv, by cbv, by cbv⟩
  have searchable : Searchable nestedScope nestedMove.source mentioningText.toList :=
    ⟨_, _, _, searched, by simp⟩
  have holds : (pageText mentioningText).find? nestedMove.source = some mentioningText := rfl
  have listed : nestedMove ∈ nestedLayout.moves.values := List.mem_singleton_self _
  refine ⟨nestedLayout_keyed, listed, rfl, holds, searchable, ?_⟩
  obtain ⟨calls, masked, code, checked, input, prepared, -, exact⟩ :=
    residualsOf_outside nestedLayout_keyed listed rfl holds searchable
  obtain ⟨rfl, rfl, -⟩ := input.unique searched
  obtain ⟨-, -, -, names, once⟩ := exact (by decide)
  refine ⟨checked, prepared, ?_, fun found listed start => ?_⟩
  · refine once isWhole_nested |>.2 "localStorage" (by decide) 16 ?_ (by decide) ?_
    · have front : mentioningText.toList =
          "`localStorage $\x7b".toList ++ "localStorage.length\x7d`".toList := rfl
      rw [front]
      exact standsAt_append_iff.mpr ⟨by decide, ".length\x7d`".toList, rfl, by decide⟩
    · rintro ⟨call, none, -⟩
      exact absurd none List.not_mem_nil
  · obtain ⟨-, -, -, -, outside, -⟩ := names isWhole_nested found listed
    rw [start] at outside
    exact outside (by decide)

/-- A mention in a literal that stands in an expression is reported. -/
theorem residualsOf_nesting : ∃ validation,
    ofStaged nestedScope nestedClassification nestedLayout (pageText nestingText) =
        .ok validation ∧
      residualsOf validation "pages/OnePage.tsx" =
        [.residual "features/one/pages/OnePage.tsx" "pages/OnePage.tsx" 1 "localStorage"] ∧
      validation.passed = false ∧ slice nestingText.toList 4 16 = "localStorage".toList ∧
      ∀ place, 4 ≤ place → place ≤ 16 → InLiteral nestingText.toList place := by
  have prepared : checkedText nestedScope nestedMove.source nestingText.toList =
      .ok nestingText.toList := by
    cbv
  have usable : aliasProblem? nestedScope (pageText nestingText) = none := rfl
  have processable : Processable nestedScope nestedLayout (pageText nestingText) := by
    refine Or.inr fun move listed feature content _ holds => ?_
    obtain rfl := List.mem_singleton.mp listed
    obtain rfl : nestingText = content := Option.some.inj holds
    exact exists_checkedText_iff.mp ⟨_, prepared⟩
  obtain ⟨left, searched⟩ := exists_residues_iff.mpr processable
  obtain ⟨validation, ran⟩ : ∃ validation,
      ofStaged nestedScope nestedClassification nestedLayout (pageText nestingText) =
        .ok validation := by
    rw [ofStaged_eq usable, searched]
    exact ⟨_, rfl⟩
  have reported := residualsOf_eq nestedLayout_keyed (List.mem_singleton_self nestedMove) rfl rfl
    prepared ran
  have found : (foundIn nestedScope.storage nestingText.toList).map (fun found =>
      Diagnostic.residual nestedMove.destination nestedMove.source
        (lineAt nestingText.toList found.span.start) (String.ofList found.text)) =
      [.residual "features/one/pages/OnePage.tsx" "pages/OnePage.tsx" 1 "localStorage"] := by
    rw [foundIn_nested]
    cbv
  refine ⟨validation, ran, reported.trans found, ?_, by decide, ?_⟩
  · have listed : .residual "features/one/pages/OnePage.tsx" "pages/OnePage.tsx" 1 "localStorage" ∈
        residualsOf validation nestedMove.source := by
      rw [reported.trans found]
      exact List.mem_singleton_self _
    rw [passed, Bool.not_eq_false', List.any_eq_true]
    exact ⟨_, List.mem_of_mem_filter listed, rfl⟩
  · intro place early late
    interval_cases place <;> decide

end Mentioned

end Validation

end FeatureLayout
