import FeatureLayout.Proofs.Classification.Along
import FeatureLayout.Proofs.Edit
import FeatureLayout.Proofs.Graph.Usage
import FeatureLayout.Proofs.Layout
import FeatureLayout.Rewrite.Imports
import Mathlib

/-!
# Which imports are rewritten

For a consistent index with its own classification and layout, the planned files are closed under
imports and no import crosses from one feature into another. The edits of a planned file are then
exactly those of its imports that lead to indexed files: one for each specifier, which puts the
planned module path of the target in its place.

Assets and packages are not edited, and neither are imports into excluded folders.
-/

namespace FeatureLayout

open Text

namespace ImportRewrite

section Planned

variable (layout : Layout)

/-- The imports that lead to planned files. -/
theorem mem_led {imports : List ImportRef} {pair : ImportRef × Move} :
    pair ∈ led layout imports ↔
      pair.1 ∈ imports ∧ ∃ target, pair.1.target = some target ∧
        layout.move? target = some pair.2 := by
  obtain ⟨ref, move⟩ := pair
  simp only [led, List.mem_filterMap, Option.map_eq_some_iff, Option.bind_eq_some_iff,
    Prod.mk.injEq]
  constructor
  · rintro ⟨_, listed, _, ⟨target, led, planned⟩, rfl, rfl⟩
    exact ⟨listed, target, led, planned⟩
  · rintro ⟨listed, target, led, planned⟩
    exact ⟨ref, listed, move, ⟨target, led, planned⟩, rfl, rfl⟩

/-- What is kept of some imports in the order in which they come: one for each specifier. -/
structure Kept (candidates kept : List (ImportRef × Move)) : Prop where
  from_candidates : ∀ pair ∈ kept, pair ∈ candidates
  spans : ∀ pair ∈ candidates, ∃ other ∈ kept, other.1.span = pair.1.span
  distinct : (kept.map (·.1.span)).Nodup

/-- One more candidate is kept or has a specifier that is there. -/
theorem Kept.keep {candidates kept : List (ImportRef × Move)} (holds : Kept candidates kept)
    (candidate : ImportRef × Move) :
    Kept (candidates ++ [candidate]) (ImportRewrite.keep kept candidate) := by
  by_cases present : ∃ other ∈ kept, other.1.span = candidate.1.span
  · have same : ImportRewrite.keep kept candidate = kept := by
      simpa [ImportRewrite.keep] using present
    rw [same]
    constructor
    case from_candidates =>
      exact fun pair listed => List.mem_append_left _ (holds.from_candidates pair listed)
    case spans =>
      intro pair listed
      rcases List.mem_append.mp listed with old | new
      · exact holds.spans pair old
      · exact List.mem_singleton.mp new ▸ present
    case distinct => exact holds.distinct
  · have added : ImportRewrite.keep kept candidate = kept ++ [candidate] := by
      simpa [ImportRewrite.keep] using present
    rw [added]
    constructor
    case from_candidates =>
      intro pair listed
      rcases List.mem_append.mp listed with old | new
      · exact List.mem_append_left _ (holds.from_candidates pair old)
      · exact List.mem_append_right _ new
    case spans =>
      intro pair listed
      rcases List.mem_append.mp listed with old | new
      · obtain ⟨other, there, same⟩ := holds.spans pair old
        exact ⟨other, List.mem_append_left _ there, same⟩
      · exact ⟨candidate, List.mem_append_right _ List.mem_cons_self,
          congrArg (·.1.span) (List.mem_singleton.mp new).symm⟩
    case distinct =>
      rw [List.map_append, List.map_singleton, List.nodup_append]
      refine ⟨holds.distinct, List.nodup_singleton _, ?_⟩
      rintro span listed other single rfl
      obtain ⟨pair, there, same⟩ := List.mem_map.mp listed
      exact present ⟨pair, there, same.trans (List.mem_singleton.mp single)⟩

/-- Keeping candidates one after another keeps one for each specifier. -/
theorem Kept.foldl (candidates seen kept : List (ImportRef × Move)) (holds : Kept seen kept) :
    Kept (seen ++ candidates) (candidates.foldl ImportRewrite.keep kept) := by
  induction candidates generalizing seen kept with
  | nil => simpa using holds
  | cons candidate rest inductionHypothesis =>
    simpa using inductionHypothesis _ _ (holds.keep candidate)

/-- The planned imports are one for each specifier that leads to a planned file. -/
theorem kept_planned (imports : List ImportRef) :
    Kept (led layout imports) (planned layout imports) := by
  have nothing : Kept ([] : List (ImportRef × Move)) [] :=
    ⟨fun _ absent => absent, fun _ absent => absurd absent List.not_mem_nil, List.nodup_nil⟩
  simpa [planned] using Kept.foldl (led layout imports) [] [] nothing

end Planned

section Edits

variable (scope : Scope) (index : SourceIndex) (classification : Classification) (layout : Layout)

/-- The edits of a file are those of its imports that lead to planned files. -/
theorem mem_editsOf {file : SourceFile}
    (coherent : ∀ first ∈ file.imports, ∀ second ∈ file.imports,
      first.span = second.span → first.target = second.target) (edit : Edit) :
    edit ∈ editsOf scope layout file ↔
      ∃ ref ∈ file.imports, ∃ target move, ref.target = some target ∧
        layout.move? target = some move ∧
        edit = ⟨ref.span, specifierOf scope move.modulePath⟩ := by
  have kept := kept_planned layout file.imports
  rw [editsOf, List.mem_map]
  constructor
  · rintro ⟨pair, listed, rfl⟩
    obtain ⟨inside, target, led, planned⟩ := (mem_led layout).mp (kept.from_candidates pair listed)
    exact ⟨pair.1, inside, target, pair.2, led, planned, rfl⟩
  · rintro ⟨ref, inside, target, move, led, planned, rfl⟩
    obtain ⟨other, listed, same⟩ := kept.spans (ref, move)
      ((mem_led layout).mpr ⟨inside, target, led, planned⟩)
    obtain ⟨also, found, ledThere, plannedThere⟩ :=
      (mem_led layout).mp (kept.from_candidates other listed)
    have targets : found = target := by
      have equal := coherent other.1 also ref inside same
      rw [ledThere, led] at equal
      exact Option.some.inj equal
    subst targets
    have moves : other.2 = move := Option.some.inj (plannedThere.symm.trans planned)
    exact ⟨other, listed, by rw [same, moves]⟩

/-- No specifier of a file is edited twice. -/
theorem spans_editsOf_nodup (file : SourceFile) :
    ((editsOf scope layout file).map (·.span)).Nodup := by
  have distinct := (kept_planned layout file.imports).distinct
  simpa [editsOf, Function.comp_def] using distinct

/-- The edits that one planned file adds. -/
def addedEdits (move : Move) : List Edit :=
  match index.file? move.source with
  | none => []
  | some file => if file.isAsset then [] else Edit.ordered (editsOf scope layout file)

/-- The errors that one planned file adds. -/
def addedErrors (move : Move) : List Diagnostic :=
  match index.file? move.source with
  | none => []
  | some file => if file.isAsset then [] else crossings classification layout move.source file

theorem errors_addMove (rewrite : ImportRewrite) (move : Move) :
    (addMove scope index classification layout rewrite move).errors =
      rewrite.errors ++ addedErrors index classification layout move := by
  cases known : index.file? move.source with
  | none => simp [addMove, addedErrors, known]
  | some file =>
    by_cases asset : file.isAsset = true
    · simp [addMove, addedErrors, known, asset]
    · simp [addMove, addedErrors, known, asset, addFile]

theorem editsFor_addMove (rewrite : ImportRewrite) (move : Move)
    (fresh : rewrite.editsFor move.source = []) (tested : String) :
    (addMove scope index classification layout rewrite move).editsFor tested =
      if move.source = tested then addedEdits scope index layout move
      else rewrite.editsFor tested := by
  have kept (nothing : addedEdits scope index layout move = []) :
      rewrite.editsFor tested =
        if move.source = tested then addedEdits scope index layout move
        else rewrite.editsFor tested := by
    split
    · next same => rw [nothing, ← same, fresh]
    · rfl
  unfold addMove
  split
  · next unknown => exact kept (by simp [addedEdits, unknown])
  · next file known =>
    split
    · next asset => exact kept (by simp [addedEdits, known, asset])
    · next source =>
      have added : addedEdits scope index layout move =
          Edit.ordered (editsOf scope layout file) := by
        simp [addedEdits, known, source]
      by_cases nothing : editsOf scope layout file = []
      · have same : (addFile scope classification layout rewrite move.source file).editsFor tested =
            rewrite.editsFor tested := by
          simp [addFile, editsFor, nothing]
        rw [same]
        exact kept (by simp [added, nothing, Edit.ordered])
      · simp only [addFile, editsFor, List.isEmpty_iff, nothing, if_false, Ledger.find?_put]
        split
        · exact added.symm
        · rfl

/-- The errors of all files are those of each. -/
theorem errors_foldl_addMove (moves : List Move) (rewrite : ImportRewrite) :
    (moves.foldl (addMove scope index classification layout) rewrite).errors =
      rewrite.errors ++ moves.flatMap (addedErrors index classification layout) := by
  induction moves generalizing rewrite with
  | nil => simp
  | cons move rest inductionHypothesis =>
    rw [List.foldl_cons, inductionHypothesis, errors_addMove, List.flatMap_cons, List.append_assoc]

/-- Files with distinct sources keep their own edits. -/
theorem editsFor_foldl_addMove (moves : List Move) (distinct : (moves.map (·.source)).Nodup)
    (rewrite : ImportRewrite) (fresh : ∀ move ∈ moves, rewrite.editsFor move.source = [])
    (tested : String) :
    (moves.foldl (addMove scope index classification layout) rewrite).editsFor tested =
      match moves.find? (·.source == tested) with
      | some move => addedEdits scope index layout move
      | none => rewrite.editsFor tested := by
  induction moves generalizing rewrite with
  | nil => rfl
  | cons move rest inductionHypothesis =>
    obtain ⟨absent, others⟩ := List.nodup_cons.mp distinct
    have step := editsFor_addMove scope index classification layout rewrite move
      (fresh move List.mem_cons_self)
    have later : ∀ other ∈ rest,
        (addMove scope index classification layout rewrite move).editsFor other.source = [] := by
      intro other listed
      have apart : move.source ≠ other.source := fun same =>
        absent (List.mem_map.mpr ⟨other, listed, same.symm⟩)
      rw [step, if_neg apart]
      exact fresh other (List.mem_cons_of_mem move listed)
    rw [List.foldl_cons, inductionHypothesis others _ later, step]
    by_cases same : move.source = tested
    · have elsewhere : rest.find? (·.source == tested) = none := by
        refine List.find?_eq_none.mpr fun other listed equal => ?_
        exact absent (List.mem_map.mpr ⟨other, listed, (by simpa using equal : _ = tested).trans
          same.symm⟩)
      simp [elsewhere, same]
    · simp [same]

/-- The edits for a planned file are its own. -/
theorem editsFor_ofLayout (keyed : layout.Keyed) {source : String} {move : Move} {file : SourceFile}
    (planned : layout.move? source = some move) (known : index.file? source = some file)
    (silent : file.isAsset = true → file.imports = []) :
    (ofLayout scope index classification layout).editsFor source =
      Edit.ordered (editsOf scope layout file) := by
  have same := keyed source move planned
  have listed : move ∈ layout.moves.values := (keyed.mem_values_iff move).mpr (same ▸ planned)
  obtain ⟨found, located⟩ : ∃ found, layout.moves.values.find? (·.source == source) = some found :=
    Option.isSome_iff_exists.mp (List.find?_isSome.mpr ⟨move, listed, by simp [same]⟩)
  have itself : found.source = source := by simpa using List.find?_some located
  rw [ofLayout, editsFor_foldl_addMove _ _ _ _ _ keyed.sources_nodup _ (fun _ _ => rfl), located]
  by_cases asset : file.isAsset = true
  · have nothing : editsOf scope layout file = [] := by
      simp [editsOf, ImportRewrite.planned, led, silent asset]
    simp [addedEdits, itself, known, asset, nothing, Edit.ordered]
  · simp [addedEdits, itself, known, asset]

end Edits

section Exact

variable {scope : Scope} {index : SourceIndex}

/-- An import of a planned file that leads to an indexed file leads to a planned one. -/
theorem exists_move_of_import (consistent : index.Consistent) {source target : String}
    {owner : Owner}
    (owned : (Classification.ofGraph scope (.ofIndex index)).owner? source = some owner)
    (edge : UsageGraph.Imports index source target) :
    ∃ move, (Layout.ofOwners scope index
      (Classification.ofGraph scope (.ofIndex index)).owners).move? target = some move := by
  have built := UsageGraph.ofIndex_built index
  have step := UsageGraph.reaches_of_import consistent edge
  obtain ⟨other, found⟩ := Classification.exists_owner_along scope built owned step
  obtain ⟨-, -, -, -, -, file, known⟩ := edge
  exact ⟨_, (Layout.move?_ofOwners scope index _ target _).mpr ⟨other, file, found, known, rfl⟩⟩

/-- No import of an indexed file crosses from one feature into another. -/
theorem crossing?_eq_none (consistent : index.Consistent) {source target : String}
    (edge : UsageGraph.Imports index source target) :
    crossing? (Classification.ofGraph scope (.ofIndex index)) source target = none := by
  have step := UsageGraph.reaches_of_import consistent edge
  have feature (path name : String)
      (has : (Classification.ofGraph scope (.ofIndex index)).featureOf path = some name) :
      (Classification.ofGraph scope (.ofIndex index)).owner? path = some (.feature name) := by
    obtain ⟨owner, owned, named⟩ := Option.bind_eq_some_iff.mp has
    cases owner with
    | feature other => exact owned.trans (congrArg (some ∘ Owner.feature) (Option.some.inj named))
    | shared => exact absurd named (by simp [Owner.feature?])
  unfold crossing?
  split
  · next first second ofSource ofTarget =>
    have owner := feature target second ofTarget
    rcases Classification.owner?_along_feature scope (UsageGraph.ofIndex_built index)
      (feature source first ofSource) step with same | shared
    · have equal : first = second := Owner.feature.inj (Option.some.inj (same.symm.trans owner))
      simp [equal]
    · exact absurd (shared.symm.trans owner) (by simp)
  · rfl

/-- Rewriting a consistent index with its own classification and layout meets no crossing between
features. Every import of a planned file that leads to an indexed file leads to a planned one, of
the same feature or shared, and these imports are what is edited, each specifier once. -/
theorem ofLayout_exact (consistent : index.Consistent) {classification : Classification}
    (classified : Classification.decided scope (.ofIndex index) = .ok classification) :
    let layout := Layout.ofOwners scope index classification.owners
    let rewrite := ofLayout scope index classification layout
    rewrite.errors = [] ∧
    ∀ source move file, layout.move? source = some move → index.file? source = some file →
      (∀ ref ∈ file.imports, ∀ target found, ref.target = some target →
        index.file? target = some found →
        (∃ planned, layout.move? target = some planned) ∧
        ∀ name, classification.owner? source = some (.feature name) →
          classification.owner? target = some (.feature name) ∨
            classification.owner? target = some .shared) ∧
      ((rewrite.editsFor source).map (·.span)).Nodup ∧
      ∀ edit, edit ∈ rewrite.editsFor source ↔
        ∃ ref ∈ file.imports, ∃ target found planned, ref.target = some target ∧
          index.file? target = some found ∧ layout.move? target = some planned ∧
          edit = ⟨ref.span, scope.targetAlias.display ++ planned.modulePath⟩ := by
  obtain rfl := Classification.eq_of_decided classified
  intro layout rewrite
  have keyed : layout.Keyed := Layout.ofOwners_keyed _ _ _
  have owned {path : String} {move : Move} (planned : layout.move? path = some move) :
      ∃ owner file, (Classification.ofGraph scope (.ofIndex index)).owner? path = some owner ∧
        index.file? path = some file := by
    obtain ⟨owner, file, has, known, -⟩ :=
      (Layout.move?_ofOwners scope index _ path move).mp planned
    exact ⟨owner, file, has, known⟩
  constructor
  case left =>
    have errors : rewrite.errors = layout.moves.values.flatMap (addedErrors index _ layout) :=
      errors_foldl_addMove scope index _ layout layout.moves.values ⟨.empty, 0, []⟩
    rw [errors, List.flatMap_eq_nil_iff]
    intro move listed
    have planned := (keyed.mem_values_iff move).mp listed
    obtain ⟨-, file, -, known⟩ := owned planned
    simp only [addedErrors, known]
    split
    · rfl
    · refine List.filterMap_eq_nil_iff.mpr fun pair present => ?_
      have candidate := (kept_planned layout file.imports).from_candidates pair present
      obtain ⟨inside, target, led, there⟩ := (mem_led layout).mp candidate
      obtain ⟨-, found, -, indexed⟩ := owned there
      rw [keyed target pair.2 there]
      exact crossing?_eq_none consistent ⟨file, known, pair.1, inside, led, found, indexed⟩
  case right =>
    intro source move file planned known
    obtain ⟨owner, -, has, -⟩ := owned planned
    have edits := editsFor_ofLayout scope index
      (Classification.ofGraph scope (.ofIndex index)) layout keyed planned known
      (consistent.silent source file known)
    refine ⟨?closed, ?once, ?exact⟩
    case closed =>
      intro ref listed target found led indexed
      have edge : UsageGraph.Imports index source target :=
        ⟨file, known, ref, listed, led, found, indexed⟩
      refine ⟨exists_move_of_import consistent has edge, fun name ofSource => ?_⟩
      exact Classification.owner?_along_feature scope (UsageGraph.ofIndex_built index) ofSource
        (UsageGraph.reaches_of_import consistent edge)
    case once =>
      rw [edits]
      exact ((Edit.ordered_perm _).map (·.span)).nodup_iff.mpr
        (spans_editsOf_nodup scope layout file)
    case exact =>
      intro edit
      rw [edits, (Edit.ordered_perm _).mem_iff,
        mem_editsOf scope layout (consistent.coherent source file known)]
      constructor
      · rintro ⟨ref, listed, target, goal, led, there, same⟩
        obtain ⟨-, found, -, indexed⟩ := owned there
        exact ⟨ref, listed, target, found, goal, led, indexed, there, same⟩
      · rintro ⟨ref, listed, target, -, goal, led, -, there, same⟩
        exact ⟨ref, listed, target, goal, led, there, same⟩

/-- A file that imports two names of another. -/
def importer : SourceFile where
  path := "a.ts"
  kind := .util
  exports := []
  imports := [
    ⟨"a.ts", "x", "./b", 1, ⟨22, 25⟩, some "b.ts", false⟩,
    ⟨"a.ts", "y", "./b", 1, ⟨22, 25⟩, some "b.ts", false⟩]
  content := some "import \x7b x, y \x7d from './b'"

/-- The file with the other. -/
def importingPair : SourceIndex where
  files := Ledger.ofList [("a.ts", importer), ("b.ts", ⟨"b.ts", .util, [], [], some ""⟩)]
  excluded := []
  errors := []

/-- A scope whose only feature enters the importing file. -/
def enteringPair : Scope where
  root := []
  features := [⟨"one", ["a.ts"], []⟩]
  excluded := []
  retain := []
  sourceAlias := .text "@/"
  targetAlias := .text "@/"
  bucket kind := .text kind.usualBucket
  storage := .usual
  contract := []
  jobs := 1
  configFile := none

theorem importingPair_consistent : importingPair.Consistent := by
  have two (path : String) (file : SourceFile) (found : importingPair.file? path = some file) :
      (path = "a.ts" ∧ file = importer) ∨
        (path = "b.ts" ∧ file = ⟨"b.ts", .util, [], [], some ""⟩) := by
    simpa using (Ledger.find?_ofList_eq_some_iff _ (by decide) path file).mp found
  refine ⟨?_, ?_, ?_, ?_, ?_, fun _ _ _ => List.not_mem_nil⟩ <;>
    intro path file found <;>
    rcases two path file found with ⟨rfl, rfl⟩ | ⟨rfl, rfl⟩ <;>
    simp [importer, SourceFile.isAsset]

/-- The classification of the pair. -/
def pairClassification : Classification := .ofGraph enteringPair (.ofIndex importingPair)

/-- The layout of the pair. -/
def pairLayout : Layout := .ofOwners enteringPair importingPair pairClassification.owners

/-- Both files are planned, and the two names that are imported of one file are one edit. -/
theorem ofLayout_exact_importingPair :
    importingPair.Consistent ∧
      Classification.decided enteringPair (.ofIndex importingPair) = .ok pairClassification ∧
      (ofLayout enteringPair importingPair pairClassification pairLayout).errors = [] ∧
      pairLayout.move? "a.ts" = some
        ⟨"a.ts", "features/one/utils/a.ts", "features/one/utils/a", .feature "one", .util⟩ ∧
      pairLayout.move? "b.ts" = some
        ⟨"b.ts", "features/one/utils/b.ts", "features/one/utils/b", .feature "one", .util⟩ ∧
      importer.imports.map (·.span) = [⟨22, 25⟩, ⟨22, 25⟩] ∧
      (ofLayout enteringPair importingPair pairClassification pairLayout).editsFor "a.ts" =
        [⟨⟨22, 25⟩, "@/features/one/utils/b"⟩] := by
  have classified : Classification.decided enteringPair (.ofIndex importingPair) =
      .ok pairClassification :=
    Classification.decided_of_nil rfl _
  have owners : pairClassification.owners =
      Ledger.ofList [("a.ts", .feature "one"), ("b.ts", .feature "one")] := by
    cbv
  have first : pairLayout.move? "a.ts" = some
      ⟨"a.ts", "features/one/utils/a.ts", "features/one/utils/a", .feature "one", .util⟩ := by
    rw [pairLayout, owners]
    rfl
  have second : pairLayout.move? "b.ts" = some
      ⟨"b.ts", "features/one/utils/b.ts", "features/one/utils/b", .feature "one", .util⟩ := by
    rw [pairLayout, owners]
    rfl
  obtain ⟨errors, exactly⟩ := ofLayout_exact importingPair_consistent classified
  obtain ⟨-, once, edits⟩ := exactly "a.ts" _ importer first rfl
  refine ⟨importingPair_consistent, classified, errors, first, second, rfl, ?_⟩
  refine List.perm_singleton.mp ((List.perm_ext_iff_of_nodup (List.Nodup.of_map _ once)
    (List.nodup_singleton _)).mpr fun edit => ?_)
  rw [List.mem_singleton]
  refine (edits edit).trans ⟨?_, ?_⟩
  · rintro ⟨ref, listed, target, found, planned, led, -, there, rfl⟩
    obtain ⟨covers, goal⟩ : ref.span = ⟨22, 25⟩ ∧ ref.target = some "b.ts" := by
      rcases List.mem_pair.mp listed with rfl | rfl <;> exact ⟨rfl, rfl⟩
    obtain rfl := Option.some.inj (goal.symm.trans led)
    obtain rfl := Option.some.inj (second.symm.trans there)
    rw [covers]
    rfl
  · rintro rfl
    exact ⟨_, List.mem_cons_self, "b.ts", _, _, rfl, rfl, second, rfl⟩

end Exact

end ImportRewrite

end FeatureLayout
