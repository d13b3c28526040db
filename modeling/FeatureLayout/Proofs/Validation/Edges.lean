import FeatureLayout.Proofs.Code.Edited
import FeatureLayout.Proofs.Index.Consistent
import FeatureLayout.Proofs.Rewrite.Imports
import FeatureLayout.Migration
import Mathlib

/-!
# Edges of the staged texts

After the imports of a planned file are rewritten, its text is read again, and the imports that
start with the alias of the target tree are looked up by module path. When the specifiers that are
replaced and their replacements are safe, what is found are the planned targets of the file's
imports, which are its successors in the usage graph, and besides them only what an import that is
left as it is happens to name.
-/

namespace FeatureLayout

open Text Code

namespace Validation

section Staged

variable {shorthand : String} {byModulePath : Ledger String String}

/-- Reading other texts keeps the edges of a file. -/
theorem find?_edges_foldl_of_not_mem (staged : List (String × String)) {source : String}
    (absent : source ∉ staged.map Prod.fst) (validation : Validation) :
    (staged.foldl (addText shorthand byModulePath) validation).edges.find? source =
      validation.edges.find? source := by
  induction staged generalizing validation with
  | nil => rfl
  | cons first rest inductionHypothesis =>
    obtain ⟨other, later⟩ := List.ne_and_not_mem_of_not_mem_cons absent
    rw [List.foldl_cons, inductionHypothesis later]
    unfold addText
    split
    · rfl
    · rw [Ledger.find?_put, if_neg (Ne.symm other)]

/-- The targets that are read off a text. -/
def readTargets (shorthand : String) (byModulePath : Ledger String String) (source text : String) :
    Option (List String) :=
  match Code.Module.ofText text.toList source with
  | .error _ => none
  | .ok found => some (targetsOf shorthand byModulePath found)

/-- The edges of a file are those that are read off its staged text. -/
theorem find?_edgesOf_eq (scope : Scope) (layout : Layout) (staged : Ledger String String)
    (source : String) :
    (edgesOf scope layout staged).edges.find? source =
      (staged.find? source).bind
        (readTargets scope.targetAlias.content layout.byModulePath source) := by
  have kept := sortedBy_perm Prod.fst staged.entries
  cases holds : staged.find? source with
  | none =>
    have absent : source ∉ (sortedBy Prod.fst staged.entries).map Prod.fst := by
      rw [(kept.map Prod.fst).mem_iff]
      exact (Ledger.find?_eq_none_iff staged source).mp holds
    exact find?_edges_foldl_of_not_mem _ absent _
  | some text =>
    have listed : (source, text) ∈ sortedBy Prod.fst staged.entries :=
      kept.mem_iff.mpr ((Ledger.find?_eq_some_iff staged source text).mp holds)
    have distinct : ((sortedBy Prod.fst staged.entries).map Prod.fst).Nodup :=
      (kept.map Prod.fst).nodup_iff.mpr staged.distinct
    obtain ⟨before, after, split⟩ := List.append_of_mem listed
    rw [split, List.map_append, List.map_cons, List.nodup_append] at distinct
    obtain ⟨-, tail, apart⟩ := distinct
    have later : source ∉ after.map Prod.fst := (List.nodup_cons.mp tail).1
    have earlier : source ∉ before.map Prod.fst := fun there =>
      apart source there source List.mem_cons_self rfl
    rw [edgesOf, split, List.foldl_append, List.foldl_cons,
      find?_edges_foldl_of_not_mem after later, Option.bind_some, addText, readTargets]
    cases Code.Module.ofText text.toList source with
    | ok found =>
      dsimp only
      rw [Ledger.find?_put, if_pos rfl]
    | error problem => exact find?_edges_foldl_of_not_mem before earlier _

/-- The edges of a staged text that can be read are those of its module. -/
theorem find?_edgesOf {scope : Scope} {layout : Layout} {staged : Ledger String String}
    {source text : String} {found : Code.Module} (holds : staged.find? source = some text)
    (read : Code.Module.ofText text.toList source = .ok found) :
    (edgesOf scope layout staged).edges.find? source =
      some (targetsOf scope.targetAlias.content layout.byModulePath found) := by
  rw [find?_edgesOf_eq, holds, Option.bind_some, readTargets, read]

end Staged

/-- The planned file that a specifier names in the target tree. -/
def named? (shorthand : String) (byModulePath : Ledger String String) (specifier : String) :
    Option String :=
  if startsWith specifier shorthand then
    byModulePath.find? (String.ofList (specifier.toList.drop shorthand.length))
  else none

/-- The edges of a module are what its specifiers name. -/
theorem mem_targetsOf {shorthand : String} {byModulePath : Ledger String String}
    {found : Code.Module} {target : String} :
    target ∈ targetsOf shorthand byModulePath found ↔
      ∃ imported ∈ found.imports,
        named? shorthand byModulePath imported.specifier = some target := by
  simp only [targetsOf, List.mem_eraseDups, List.mem_filterMap, named?]

/-- A specifier that was put in names the module path that it was made of. -/
theorem named?_specifierOf {scope : Scope} {shorthand : String}
    (isText : scope.targetAlias = .text shorthand) (byModulePath : Ledger String String)
    (modulePath : String) :
    named? shorthand byModulePath (ImportRewrite.specifierOf scope modulePath) =
      byModulePath.find? modulePath := by
  have whole : (ImportRewrite.specifierOf scope modulePath).toList =
      shorthand.toList ++ modulePath.toList := by
    rw [ImportRewrite.specifierOf, isText, Value.display, String.toList_append]
  have starts : startsWith (ImportRewrite.specifierOf scope modulePath) shorthand = true := by
    rw [startsWith, whole]
    exact List.isPrefixOf_iff_prefix.mpr (List.prefix_append _ _)
  rw [named?, if_pos starts, whole, ← String.length_toList, List.drop_left, String.ofList_toList]

end Validation

namespace ImportRewrite

/-- An import that is left as it is, because it leads to no planned file. -/
def Untouched (layout : Layout) (ref : ImportRef) : Prop :=
  ∀ target, ref.target = some target → layout.move? target = none

/-- Edits that put in the planned module paths of the imports that lead to planned files. -/
def Puts (scope : Scope) (layout : Layout) (imports : List ImportRef) (edits : List Edit) : Prop :=
  ∀ edit, edit ∈ edits ↔ ∃ ref ∈ imports, ∃ target goal, ref.target = some target ∧
    layout.move? target = some goal ∧ edit = ⟨ref.span, specifierOf scope goal.modulePath⟩

/-- After such edits, an import names the planned module path of its target, or what it named
before. -/
theorem Puts.editedSpecifier {scope : Scope} {layout : Layout} {imports : List ImportRef}
    {edits : List Edit} (puts : Puts scope layout imports edits)
    (coherent : ∀ first ∈ imports, ∀ second ∈ imports,
      first.span = second.span → first.target = second.target)
    {ref : ImportRef} (listed : ref ∈ imports) {found : Code.Import} (span : ref.span = found.span)
    (specifier : ref.specifier = found.specifier) :
    (∃ target goal, ref.target = some target ∧ layout.move? target = some goal ∧
      Code.Import.editedSpecifier edits found = specifierOf scope goal.modulePath) ∨
    (Untouched layout ref ∧ Code.Import.editedSpecifier edits found = ref.specifier) := by
  cases located : edits.find? (·.span == found.span) with
  | some edit =>
    obtain ⟨other, also, target, goal, led, there, rfl⟩ :=
      (puts edit).mp (List.mem_of_find?_eq_some located)
    have same : other.span = found.span := by simpa using List.find?_some located
    refine Or.inl ⟨target, goal, ?_, there, ?_⟩
    · rw [coherent ref listed other also (span.trans same.symm), led]
    · rw [Code.Import.editedSpecifier, located]
  | none =>
    refine Or.inr ⟨fun target led => ?_, ?_⟩
    · by_contra planned
      obtain ⟨goal, there⟩ := Option.ne_none_iff_exists'.mp planned
      have edited := (puts _).mpr ⟨ref, listed, target, goal, led, there, rfl⟩
      have absent := List.find?_eq_none.mp located _ edited
      exact absent (by simp [span])
    · rw [Code.Import.editedSpecifier, located, specifier]

section Edits

variable (scope : Scope) {index : SourceIndex} (consistent : index.Consistent)
  (classification : Classification) {layout : Layout} (keyed : layout.Keyed) {source : String}
  {move : Move} (planned : layout.move? source = some move) {file : SourceFile}
  (known : index.file? source = some file)

include consistent keyed planned known

/-- The edits for a planned file are those of its imports that lead to planned files. -/
theorem puts_editsFor :
    Puts scope layout file.imports
      ((ofLayout scope index classification layout).editsFor source) := by
  intro edit
  rw [editsFor_ofLayout scope index classification layout keyed planned known
      (consistent.silent source file known), (Edit.ordered_perm _).mem_iff,
    mem_editsOf scope layout (consistent.coherent source file known)]

/-- No specifier of a planned file is edited twice. -/
theorem spans_editsFor_nodup :
    (((ofLayout scope index classification layout).editsFor source).map (·.span)).Nodup := by
  rw [editsFor_ofLayout scope index classification layout keyed planned known
    (consistent.silent source file known)]
  exact ((Edit.ordered_perm _).map _).nodup_iff.mpr (spans_editsOf_nodup scope layout file)

end Edits

end ImportRewrite

namespace Validation

open Code.Import Specifier

section Text

variable {scope : Scope} {layout : Layout} {refs : List ImportRef} {imports : List Code.Import}
  {edits : List Edit}

/-- Edits of safe specifiers with safe replacements. -/
theorem edits_of_puts (mirrors : ImportRef.Mirrors refs imports)
    (puts : ImportRewrite.Puts scope layout refs edits)
    (resolved : ∀ ref ∈ refs, ref.target.isSome = true → IsSafe ref.specifier.toList)
    (replaced : ∀ edit ∈ edits, IsSafe edit.replacement.toList) : Edits imports edits := by
  intro edit listed
  refine ⟨replaced edit listed, ?_⟩
  obtain ⟨ref, inside, target, goal, led, -, rfl⟩ := (puts edit).mp listed
  obtain ⟨found, there, span, specifier⟩ := mirrors.forth ref inside
  refine ⟨found, there, span.symm, ?_⟩
  rw [← specifier]
  exact resolved ref inside (by simp [led])

/-- Edits of the specifiers of a text are apart once they are sorted. -/
theorem apart_of_puts {masked : List Char} (mirrors : ImportRef.Mirrors refs (ofText masked))
    (puts : ImportRewrite.Puts scope layout refs edits) (distinct : (edits.map (·.span)).Nodup) :
    Edit.Apart (Edit.ordered edits) := by
  have quoted (edit : Edit) (listed : edit ∈ edits) : ∃ inner, Quoted masked edit.span inner := by
    obtain ⟨ref, inside, target, goal, -, -, rfl⟩ := (puts edit).mp listed
    obtain ⟨found, there, span, -⟩ := mirrors.forth ref inside
    exact ⟨_, span ▸ quoted_of_mem_ofText there⟩
  exact apart_of_quoted quoted distinct

/-- What the imports of an edited text name: the planned targets of the imports of the text, and
what is named by an import that is left as it is. -/
theorem named?_edited {masked edited : List Char} {shorthand : String}
    (isText : scope.targetAlias = .text shorthand) (keyed : layout.Keyed)
    (clear : (layout.moves.values.map (·.modulePath)).Nodup)
    (coherent : ∀ first ∈ refs, ∀ second ∈ refs,
      first.span = second.span → first.target = second.target)
    (mirrors : ImportRef.Mirrors refs (ofText masked))
    (puts : ImportRewrite.Puts scope layout refs edits)
    (forth : ∀ first ∈ ofText masked, ∃ second ∈ ofText edited, Tracked edits first second)
    (back : ∀ second ∈ ofText edited, ∃ first ∈ ofText masked, Tracked edits first second)
    (target : String) :
    (∃ found ∈ ofText edited,
        named? shorthand layout.byModulePath found.specifier = some target) ↔
      (∃ ref ∈ refs, ref.target = some target ∧ ∃ goal, layout.move? target = some goal) ∨
        ∃ ref ∈ refs, ImportRewrite.Untouched layout ref ∧
          named? shorthand layout.byModulePath ref.specifier = some target := by
  have names (goal : Move) (place : String) (planned : layout.move? place = some goal) :
      named? shorthand layout.byModulePath (ImportRewrite.specifierOf scope goal.modulePath) =
        some place := by
    rw [named?_specifierOf isText]
    exact (Layout.find?_byModulePath keyed clear _ _).mpr ⟨goal, planned, rfl⟩
  constructor
  case mp =>
    rintro ⟨second, listed, named⟩
    obtain ⟨first, there, tracked⟩ := back second listed
    obtain ⟨ref, inside, span, specifier⟩ := mirrors.back first there
    rw [tracked.specifier] at named
    rcases puts.editedSpecifier coherent inside span specifier with
      ⟨place, goal, led, planned, same⟩ | ⟨untouched, same⟩
    · rw [same, names goal place planned] at named
      obtain rfl := Option.some.inj named
      exact Or.inl ⟨ref, inside, led, goal, planned⟩
    · rw [same] at named
      exact Or.inr ⟨ref, inside, untouched, named⟩
  case mpr =>
    have edited (ref : ImportRef) (inside : ref ∈ refs) : ∃ second ∈ ofText edited,
        (∃ place goal, ref.target = some place ∧ layout.move? place = some goal ∧
          second.specifier = ImportRewrite.specifierOf scope goal.modulePath) ∨
        (ImportRewrite.Untouched layout ref ∧ second.specifier = ref.specifier) := by
      obtain ⟨first, there, span, specifier⟩ := mirrors.forth ref inside
      obtain ⟨second, listed, tracked⟩ := forth first there
      refine ⟨second, listed, ?_⟩
      rw [tracked.specifier]
      exact puts.editedSpecifier coherent inside span specifier
    rintro (⟨ref, inside, led, goal, planned⟩ | ⟨ref, inside, untouched, named⟩)
    · obtain ⟨second, listed, ⟨place, other, also, there, same⟩ | ⟨untouched, -⟩⟩ :=
        edited ref inside
      · obtain rfl := Option.some.inj (led.symm.trans also)
        exact ⟨second, listed, by rw [same, names other target there]⟩
      · exact absurd (planned.symm.trans (untouched target led)) (by simp)
    · obtain ⟨second, listed, ⟨place, other, also, there, -⟩ | ⟨-, same⟩⟩ := edited ref inside
      · exact absurd (there.symm.trans (untouched place also)) (by simp)
      · exact ⟨second, listed, by rw [same, named]⟩

end Text

section Exact

variable {scope : Scope} {paths : List String} {read : String → Except ReadProblem String}
  {index : SourceIndex} {analysis : Analysis}

/-- The successors of a planned file in the usage graph are the planned targets of its imports. -/
theorem mem_successors_iff (consistent : index.Consistent)
    (analysed : Analysis.ofIndex scope index = .ok analysis) {source : String} {move : Move}
    (planned : analysis.layout.move? source = some move) {file : SourceFile}
    (known : index.file? source = some file) (target : String) :
    target ∈ analysis.graph.successors source ↔
      ∃ ref ∈ file.imports, ref.target = some target ∧
        ∃ goal, analysis.layout.move? target = some goal := by
  obtain ⟨classification, decided, same⟩ := bind_eq_ok.mp analysed
  obtain rfl := Except.ok.inj same
  obtain rfl := Classification.eq_of_decided decided
  obtain ⟨owner, -, owned, -⟩ := (Layout.move?_ofOwners scope index _ source move).mp planned
  rw [UsageGraph.mem_successors_ofIndex consistent.labelled]
  constructor
  · intro edge
    have goal := ImportRewrite.exists_move_of_import consistent owned edge
    obtain ⟨stored, found, ref, listed, led, -⟩ := edge
    obtain rfl := Option.some.inj (known.symm.trans found)
    exact ⟨ref, listed, led, goal⟩
  · rintro ⟨ref, listed, led, goal, there⟩
    obtain ⟨-, found, -, indexed, -⟩ := (Layout.move?_ofOwners scope index _ target goal).mp there
    exact ⟨file, known, ref, listed, led, found, indexed⟩

/-- An analysis plans its own owners. -/
theorem keyed_of_ofIndex (analysed : Analysis.ofIndex scope index = .ok analysis) :
    analysis.layout.Keyed ∧
      analysis.layout.errors = Layout.conflicts analysis.layout.moves.values := by
  obtain ⟨classification, -, same⟩ := bind_eq_ok.mp analysed
  obtain rfl := Except.ok.inj same
  exact ⟨Layout.ofOwners_keyed scope index _, rfl⟩

/-- The edges that are read off the rewritten text of a planned source file.

For an index of a tree with its own classification and a layout without conflicts, let every
specifier of the file that leads to a file, and every replacement, be safe. Then the text with the
edits of its imports can be read, and what it imports through the alias of the target tree are the
file's successors in the usage graph, which are the planned targets of its imports, and the planned
files that its other specifiers name. When none of the specifiers that are left as they are starts
with the alias, the edges are exactly the successors. -/
theorem edgesOf_rewritten (built : SourceIndex.ofTree scope paths read = .ok index)
    (analysed : Analysis.ofIndex scope index = .ok analysis)
    (clear : analysis.layout.errors = []) {shorthand : String}
    (isText : scope.targetAlias = .text shorthand) {source : String} {move : Move}
    (planned : analysis.layout.move? source = some move) {file : SourceFile}
    (known : index.file? source = some file) (isSource : file.isAsset = false)
    (resolved : ∀ ref ∈ file.imports, ref.target.isSome = true → IsSafe ref.specifier.toList)
    (replaced : ∀ edit ∈ (ImportRewrite.ofLayout scope index analysis.classification
      analysis.layout).editsFor source, IsSafe edit.replacement.toList) :
    ∃ content edited found targets, file.content = some content ∧
      Edit.applyAll ((ImportRewrite.ofLayout scope index analysis.classification
        analysis.layout).editsFor source) content.toList = .ok edited ∧
      Code.Module.ofText edited source = .ok found ∧
      (∀ staged : Ledger String String, staged.find? source = some (String.ofList edited) →
        (edgesOf scope analysis.layout staged).edges.find? source = some targets) ∧
      (∀ target, target ∈ analysis.graph.successors source ↔
        ∃ ref ∈ file.imports, ref.target = some target ∧
          ∃ goal, analysis.layout.move? target = some goal) ∧
      (∀ target, target ∈ targets ↔ target ∈ analysis.graph.successors source ∨
        ∃ ref ∈ file.imports, ImportRewrite.Untouched analysis.layout ref ∧
          named? shorthand analysis.layout.byModulePath ref.specifier = some target) ∧
      ((∀ ref ∈ file.imports, ImportRewrite.Untouched analysis.layout ref →
          startsWith ref.specifier shorthand = false) →
        ∀ target, target ∈ targets ↔ target ∈ analysis.graph.successors source) := by
  have consistent := SourceIndex.consistent_ofTree built
  have successors := mem_successors_iff consistent analysed planned known
  obtain ⟨content, text⟩ : ∃ content, file.content = some content := by
    refine Option.ne_none_iff_exists'.mp fun none => ?_
    rw [(SourceIndex.content_eq_none_iff built known).mp none] at isSource
    cases isSource
  obtain ⟨masked, blanked, mirrors⟩ := SourceIndex.exists_mirrors built known text
  obtain ⟨keyed, conflicts⟩ := keyed_of_ofIndex analysed
  have distinct := (Layout.conflicts_eq_nil_iff _).mp (conflicts.symm.trans clear)
  have coherent := consistent.coherent source file known
  have puts := ImportRewrite.puts_editsFor scope consistent analysis.classification keyed planned
    known
  have spans := ImportRewrite.spans_editsFor_nodup scope consistent analysis.classification keyed
    planned known
  generalize (ImportRewrite.ofLayout scope index analysis.classification
    analysis.layout).editsFor source = edits at replaced puts spans ⊢
  have ordered : ImportRewrite.Puts scope analysis.layout file.imports (Edit.ordered edits) :=
    fun edit => (Edit.ordered_perm edits).mem_iff.trans (puts edit)
  have apart := apart_of_puts mirrors puts spans
  have safe := edits_of_puts mirrors ordered resolved fun edit listed =>
    replaced edit ((Edit.ordered_perm edits).mem_iff.mp listed)
  obtain ⟨edited, readable, forth, back⟩ := tracked_of_edits blanked safe apart
  obtain ⟨found, parsed, imports⟩ : ∃ found,
      Code.Module.ofText ((Edit.ordered edits).foldr Edit.apply content.toList) source = .ok found ∧
        found.imports = ofText edited :=
    Code.Module.exists_ofText_iff.mpr ⟨edited, readable, rfl⟩
  have exact (target : String) : target ∈ targetsOf shorthand analysis.layout.byModulePath found ↔
      target ∈ analysis.graph.successors source ∨
        ∃ ref ∈ file.imports, ImportRewrite.Untouched analysis.layout ref ∧
          named? shorthand analysis.layout.byModulePath ref.specifier = some target := by
    rw [mem_targetsOf, imports, named?_edited isText keyed distinct coherent mirrors ordered forth
      back target, successors]
  refine ⟨content, _, found, _, text, apart.applyAll content.toList, parsed, ?staged, successors,
    exact, ?others⟩
  case staged =>
    intro staged holds
    rw [find?_edgesOf holds (by rw [String.toList_ofList]; exact parsed), isText]
    rfl
  case others =>
    intro others target
    rw [exact, or_iff_left]
    rintro ⟨ref, listed, untouched, named⟩
    rw [named?, others ref listed untouched] at named
    cases named

end Exact

section Stray

/-- The texts of a tree whose excluded file has the path that another file is planned to. -/
def strayTexts : Ledger String String :=
  Ledger.ofList [("a.ts", "import './b'"), ("b.ts", ""),
    ("c.ts", "import '@/features/one/utils/b'"), ("features/one/utils/b.ts", "")]

/-- Reads a file of the tree. -/
def strayRead (path : String) : Except ReadProblem String :=
  .ok ((strayTexts.find? path).getD "")

/-- A scope that excludes the folder of the planned files. -/
def strayScope : Scope where
  root := []
  features := [⟨"one", ["a.ts", "c.ts"], []⟩]
  excluded := ["features"]
  retain := []
  sourceAlias := .text "@/"
  targetAlias := .text "@/"
  bucket kind := .text kind.usualBucket
  storage := .usual
  contract := []
  jobs := 1
  configFile := none

/-- The file that imports a planned file. -/
def importsPlanned : SourceFile where
  path := "a.ts"
  kind := .util
  exports := []
  imports := [⟨"a.ts", "*", "./b", 1, ⟨8, 11⟩, some "b.ts", false⟩]
  content := some "import './b'"

/-- The file that imports the excluded file. -/
def importsExcluded : SourceFile where
  path := "c.ts"
  kind := .util
  exports := []
  imports := [⟨"c.ts", "*", "@/features/one/utils/b", 1, ⟨8, 30⟩, some "features/one/utils/b.ts",
    false⟩]
  content := some "import '@/features/one/utils/b'"

/-- The index of the tree. -/
def strayIndex : SourceIndex where
  files := Ledger.ofList [("a.ts", importsPlanned), ("b.ts", ⟨"b.ts", .util, [], [], some ""⟩),
    ("c.ts", importsExcluded)]
  excluded := ["features/one/utils/b.ts"]
  errors := []

/-- The analysis of the tree: all files of the index belong to the feature. -/
def strayAnalysis : Analysis where
  index := strayIndex
  graph := .ofIndex strayIndex
  classification := .ofGraph strayScope (.ofIndex strayIndex)
  layout := .ofOwners strayScope strayIndex
    (Ledger.ofList [("a.ts", .feature "one"), ("b.ts", .feature "one"), ("c.ts", .feature "one")])

/-- The module of the file that imports the excluded file. -/
def excludedImport : Code.Module :=
  ⟨[], [⟨"@/features/one/utils/b", ["*"], 1, ⟨8, 30⟩, false, false⟩], .util⟩

theorem readFile_importsExcluded : SourceIndex.readFile strayRead "c.ts" =
    .ok ⟨"c.ts", "import '@/features/one/utils/b'", excludedImport⟩ :=
  SourceIndex.readFile_of_imports (by cbv) rfl (by cbv) (by cbv)

theorem ofTree_stray :
    SourceIndex.ofTree strayScope strayTexts.keys strayRead = .ok strayIndex := by
  let opened : List SourceIndex.ReadFile :=
    [⟨"a.ts", "import './b'", ⟨[], [⟨"./b", ["*"], 1, ⟨8, 11⟩, false, false⟩], .util⟩⟩,
      ⟨"b.ts", "", ⟨[], [], .util⟩⟩, ⟨"c.ts", "import '@/features/one/utils/b'", excludedImport⟩]
  have discovered : Discovery.ofPaths strayScope strayTexts.keys =
      ⟨["a.ts", "b.ts", "c.ts"], ["features/one/utils/b.ts"]⟩ := by
    cbv
  have sources : Discovery.sources ⟨["a.ts", "b.ts", "c.ts"], ["features/one/utils/b.ts"]⟩ =
      ["a.ts", "b.ts", "c.ts"] := by
    decide
  have first : SourceIndex.readFile strayRead "a.ts" = .ok opened[0] :=
    SourceIndex.readFile_of_imports (by cbv) rfl (by cbv) (by cbv)
  have second : SourceIndex.readFile strayRead "b.ts" = .ok opened[1] :=
    SourceIndex.readFile_of_imports (by cbv) rfl (by cbv) (by cbv)
  have readable : ["a.ts", "b.ts", "c.ts"].map (SourceIndex.readFile strayRead) =
      opened.map .ok := by
    rw [List.map_cons, List.map_cons, List.map_cons, first, second, readFile_importsExcluded]
    rfl
  have known : opened.map (·.path) ++ ["features/one/utils/b.ts"] =
      ["a.ts", "b.ts", "c.ts", "features/one/utils/b.ts"] := rfl
  have indexed : opened.map (SourceIndex.sourceFileOf strayScope.sourceAlias.content
      ["a.ts", "b.ts", "c.ts", "features/one/utils/b.ts"]) =
        [importsPlanned, ⟨"b.ts", .util, [], [], some ""⟩, importsExcluded] := by
    decide
  exact SourceIndex.ofTree_eq_of_read rfl discovered (by decide) (by rw [sources, readable])
    known indexed (by decide) (by decide) (by decide)

theorem owners_stray : (Classification.ofGraph strayScope (.ofIndex strayIndex)).owners =
    Ledger.ofList
      [("a.ts", .feature "one"), ("b.ts", .feature "one"), ("c.ts", .feature "one")] := by
  have files : sorted (UsageGraph.ofIndex strayIndex).files = ["a.ts", "b.ts", "c.ts"] := by
    have listed : (UsageGraph.ofIndex strayIndex).files = ["a.ts", "b.ts", "c.ts"] := by
      decide
    rw [listed]
    exact List.mergeSort_of_pairwise (by decide)
  have owners : ["a.ts", "b.ts", "c.ts"].filterMap (fun path =>
      (Classification.ownerIn (Classification.reachingIn strayScope (.ofIndex strayIndex))
        (Classification.retainedIn strayScope (.ofIndex strayIndex)
          (Classification.reachingIn strayScope (.ofIndex strayIndex))) path).map
        fun owner => (path, owner)) =
      [("a.ts", .feature "one"), ("b.ts", .feature "one"), ("c.ts", .feature "one")] := by
    decide +kernel
  rw [Classification.ofGraph]
  dsimp only
  rw [files, owners]

theorem ofIndex_stray : Analysis.ofIndex strayScope strayIndex = .ok strayAnalysis := by
  have decided : Classification.decided strayScope (.ofIndex strayIndex) =
      .ok (.ofGraph strayScope (.ofIndex strayIndex)) := Classification.decided_of_nil rfl _
  rw [Analysis.ofIndex, decided, strayAnalysis, ← owners_stray]
  rfl

theorem errors_stray : strayAnalysis.layout.errors = [] := by
  refine (Layout.conflicts_eq_nil_iff _).mpr ?_
  decide

theorem move?_stray : strayAnalysis.layout.move? "a.ts" =
    some ⟨"a.ts", "features/one/utils/a.ts", "features/one/utils/a", .feature "one", .util⟩ ∧
  strayAnalysis.layout.move? "b.ts" =
    some ⟨"b.ts", "features/one/utils/b.ts", "features/one/utils/b", .feature "one", .util⟩ ∧
  strayAnalysis.layout.move? "c.ts" =
    some ⟨"c.ts", "features/one/utils/c.ts", "features/one/utils/c", .feature "one", .util⟩ ∧
  strayAnalysis.layout.move? "features/one/utils/b.ts" = none := by
  decide

theorem isSafe_stray : IsSafe "./b".toList ∧ IsSafe "@/features/one/utils/b".toList :=
  ⟨⟨by decide, List.all_eq_true.mp (by decide), by decide, not_endsInWord (by decide)⟩,
    ⟨by decide, List.all_eq_true.mp (by decide), by decide, not_endsInWord (by decide)⟩⟩

/-- The edits of the tree. -/
def strayRewrite : ImportRewrite :=
  .ofLayout strayScope strayIndex strayAnalysis.classification strayAnalysis.layout

theorem edgesOf_rewritten_stray :
    ∃ edited found,
      Edit.applyAll (strayRewrite.editsFor "a.ts") "import './b'".toList = .ok edited ∧
      Code.Module.ofText edited "a.ts" = .ok found ∧
      ∀ staged : Ledger String String, staged.find? "a.ts" = some (String.ofList edited) →
        ∃ targets,
          (edgesOf strayScope strayAnalysis.layout staged).edges.find? "a.ts" = some targets ∧
          ∀ target, target ∈ targets ↔ target ∈ strayAnalysis.graph.successors "a.ts" := by
  have known : strayIndex.file? "a.ts" = some importsPlanned := rfl
  have consistent := SourceIndex.consistent_ofTree ofTree_stray
  have puts := ImportRewrite.puts_editsFor strayScope consistent strayAnalysis.classification
    (keyed_of_ofIndex ofIndex_stray).1 move?_stray.1 known
  have resolved : ∀ ref ∈ importsPlanned.imports, ref.target.isSome = true →
      IsSafe ref.specifier.toList := by
    intro ref inside _
    obtain rfl := List.mem_singleton.mp inside
    exact isSafe_stray.1
  have replaced : ∀ edit ∈ strayRewrite.editsFor "a.ts", IsSafe edit.replacement.toList := by
    intro edit listed
    obtain ⟨ref, inside, target, goal, led, planned, rfl⟩ := (puts edit).mp listed
    obtain rfl := List.mem_singleton.mp inside
    obtain rfl := Option.some.inj led
    obtain rfl := Option.some.inj (move?_stray.2.1.symm.trans planned)
    exact isSafe_stray.2
  obtain ⟨content, edited, found, targets, text, applied, parsed, staged, -, -, exact⟩ :=
    edgesOf_rewritten ofTree_stray ofIndex_stray errors_stray rfl move?_stray.1 known (by decide)
      resolved replaced
  obtain rfl := Option.some.inj text
  refine ⟨edited, found, applied, parsed, fun ledger holds => ⟨targets, staged ledger holds, ?_⟩⟩
  refine exact fun ref inside _ => ?_
  obtain rfl := List.mem_singleton.mp inside
  decide

/-- An import into an excluded folder whose specifier names a planned file in the target tree makes
an edge that is no import. -/
theorem edgesOf_importsExcluded :
    SourceIndex.ofTree strayScope strayTexts.keys strayRead = .ok strayIndex ∧
      Analysis.ofIndex strayScope strayIndex = .ok strayAnalysis ∧
      strayAnalysis.layout.errors = [] ∧ strayScope.targetAlias = .text "@/" ∧
      (strayAnalysis.layout.move? "c.ts").isSome = true ∧
      strayIndex.file? "c.ts" = some importsExcluded ∧ importsExcluded.isAsset = false ∧
      (∀ ref ∈ importsExcluded.imports, ref.target.isSome = true → IsSafe ref.specifier.toList) ∧
      (∀ edit ∈ strayRewrite.editsFor "c.ts", IsSafe edit.replacement.toList) ∧
      (∀ ref ∈ importsExcluded.imports, ref.target = none →
        startsWith ref.specifier "@/" = false) ∧
      Edit.applyAll (strayRewrite.editsFor "c.ts") "import '@/features/one/utils/b'".toList =
        .ok "import '@/features/one/utils/b'".toList ∧
      (∀ staged : Ledger String String,
        staged.find? "c.ts" = some "import '@/features/one/utils/b'" →
          (edgesOf strayScope strayAnalysis.layout staged).edges.find? "c.ts" = some ["b.ts"]) ∧
      strayAnalysis.graph.successors "c.ts" = [] := by
  have known : strayIndex.file? "c.ts" = some importsExcluded := rfl
  have consistent := SourceIndex.consistent_ofTree ofTree_stray
  have puts := ImportRewrite.puts_editsFor strayScope consistent strayAnalysis.classification
    (keyed_of_ofIndex ofIndex_stray).1 move?_stray.2.2.1 known
  have none : strayRewrite.editsFor "c.ts" = [] := by
    refine List.eq_nil_iff_forall_not_mem.mpr fun edit listed => ?_
    obtain ⟨ref, inside, target, goal, led, planned, -⟩ := (puts edit).mp listed
    obtain rfl := List.mem_singleton.mp inside
    obtain rfl := Option.some.inj led
    exact absurd (move?_stray.2.2.2.symm.trans planned) (by simp)
  have parsed := (SourceIndex.readFile_ok readFile_importsExcluded).2.2
  refine ⟨ofTree_stray, ofIndex_stray, errors_stray, rfl, ?_, known, by decide, ?_, ?_, ?_, ?_,
    ?_, by decide⟩
  · rw [move?_stray.2.2.1]
    rfl
  · intro ref inside _
    obtain rfl := List.mem_singleton.mp inside
    exact isSafe_stray.2
  · rw [none]
    exact fun edit absent => absurd absent List.not_mem_nil
  · intro ref inside unresolved
    obtain rfl := List.mem_singleton.mp inside
    exact absurd unresolved (by simp)
  · rw [none]
    simp [Edit.applyAll, Edit.ordered, Edit.overlap?]
  · intro staged holds
    rw [find?_edgesOf holds parsed]
    decide

end Stray

end Validation

end FeatureLayout
