import FeatureLayout.Proofs.Graph.Usage
import FeatureLayout.Proofs.Validation.Collected

/-!
# Which missing pages are reported

A feature owns the way to each of its files from one of its entry points on, however much of what it
reaches is shared. So where the staged texts import what the graph says, searching from the entry
points that a feature owns finds each of its files, and a missing page is reported exactly when the
plan holds no page of the feature.

Nothing is reported by a validation that ends early, at a text that the search for storage objects
cannot process: then the check of the pages is lost with all others.
-/

namespace FeatureLayout

open Text

namespace Validation

/-- The imports of every planned file are its edges in a graph. -/
def Extracted (graph : UsageGraph) (layout : Layout) (edges : Ledger String (List String)) : Prop :=
  ∀ source move, layout.move? source = some move →
    ∀ target, target ∈ edges.next source ↔ target ∈ graph.successors source

/-- The plan holds a page of a feature. -/
def HoldsPage (layout : Layout) (name : String) : Prop :=
  ∃ move ∈ layout.moves.values, move.owner = .feature name ∧ move.kind = .page

section Pages

variable {scope : Scope} {index : SourceIndex} {edges : Ledger String (List String)}

/-- What a planned file leads to in the graph, the imports of the staged texts lead to as well. -/
theorem leads_of_reaches (labelled : index.Labelled)
    (extracted : Extracted (.ofIndex index)
      (.ofOwners scope index (Classification.ofGraph scope (.ofIndex index)).owners) edges)
    {source target : String} {owner : Owner}
    (owned : (Classification.ofGraph scope (.ofIndex index)).owner? source = some owner)
    (route : (UsageGraph.ofIndex index).Reaches source target) :
    Leads edges.next source target := by
  induction route with
  | refl => exact Relation.ReflTransGen.refl
  | @tail middle target before adjacent inductionHypothesis =>
    -- every file on the way is owned and indexed, and so it is planned
    obtain ⟨other, has⟩ := Classification.exists_owner_along scope (UsageGraph.ofIndex_built index)
      owned before
    obtain ⟨file, known⟩ := (UsageGraph.mem_files_ofIndex labelled middle).mp
      (Classification.mem_files_of_owner? scope has)
    have planned := (Layout.move?_ofOwners scope index _ middle _).mpr
      ⟨other, file, has, known, rfl⟩
    exact inductionHypothesis.tail ((extracted middle _ planned target).mpr adjacent)

/-- A feature has a page that its own entry points reach exactly when the plan holds a page of it.
-/
theorem hasPage_iff (labelled : index.Labelled) (distinct : (scope.features.map (·.name)).Nodup)
    (extracted : Extracted (.ofIndex index)
      (.ofOwners scope index (Classification.ofGraph scope (.ofIndex index)).owners) edges)
    {feature : Feature} (declared : feature ∈ scope.features) :
    hasPage (.ofOwners scope index (Classification.ofGraph scope (.ofIndex index)).owners) edges
        feature = true ↔
      HoldsPage (.ofOwners scope index (Classification.ofGraph scope (.ofIndex index)).owners)
        feature.name := by
  let classification := Classification.ofGraph scope (.ofIndex index)
  let layout := Layout.ofOwners scope index classification.owners
  simp only [hasPage, HoldsPage, List.any_eq_true, Bool.and_eq_true, decide_eq_true_eq, beq_iff_eq]
  refine exists_congr fun move => and_congr_right fun listed => ?_
  refine and_iff_left_of_imp fun target => ?_
  obtain ⟨ofFeature, -⟩ := target
  have planned := ((Layout.ofOwners_keyed _ _ _).mem_values_iff move).mp listed
  obtain ⟨owner, file, has, known, same⟩ :=
    (Layout.move?_ofOwners scope index _ move.source move).mp planned
  have owned : classification.owner? move.source = some (.feature feature.name) := by
    rw [← ofFeature, ← same]
    exact has
  obtain ⟨entry, entering, entered, route⟩ := Classification.exists_owned_entry scope
    (UsageGraph.ofIndex_built index) distinct declared owned
  obtain ⟨found, indexed⟩ := (UsageGraph.mem_files_ofIndex labelled entry).mp
    (Classification.mem_files_of_owner? scope entered)
  have enters : layout.move? entry =
      some (Layout.moveOf scope found entry (.feature feature.name)) :=
    (Layout.move?_ofOwners scope index _ entry _).mpr ⟨_, found, entered, indexed, rfl⟩
  rw [List.contains_iff_mem, Ledger.mem_reach]
  refine ⟨entry, List.mem_filter.mpr ⟨entering, ?_⟩,
    leads_of_reaches labelled extracted entered route⟩
  rw [enters]
  exact decide_eq_true rfl

end Pages

section Reported

variable {scope : Scope} {index : SourceIndex} {classification : Classification}
  {layout : Layout} {staged : Ledger String String} {validation : Validation}

/-- A missing page is reported exactly when the check of the pages finds it missing. -/
theorem missingPage_mem_errors_iff
    (ran : ofStaged scope classification layout staged = .ok validation)
    {name : String} {entries : List String} :
    .missingPage name entries ∈ validation.errors ↔ ∃ feature ∈ scope.features,
      feature.name = name ∧ feature.entryPoints = entries ∧
        hasPage layout (edgesOf scope layout staged).edges feature = false := by
  obtain ⟨left, searched, -⟩ := errors_of_ofStaged ran
  rw [mem_errors_iff ran searched]
  simp only [sameSort, missingPages, List.mem_map, List.mem_filter, Bool.not_eq_true',
    Diagnostic.missingPage.injEq]
  exact exists_congr fun feature =>
    and_assoc.trans (and_congr_right fun _ => and_comm.trans and_assoc)

/-- Where the staged texts import what the graph says, a validation that answers reports a missing
page exactly for the features of which the plan holds no page. It answers whenever imports can be
looked up and the search for storage objects can process its texts. -/
theorem missingPage_exact (labelled : index.Labelled)
    (distinct : (scope.features.map (·.name)).Nodup)
    (classified : Classification.decided scope (.ofIndex index) = .ok classification)
    (extracted : Extracted (.ofIndex index) (.ofOwners scope index classification.owners)
      (edgesOf scope (.ofOwners scope index classification.owners) staged).edges) :
    let layout := Layout.ofOwners scope index classification.owners
    (aliasProblem? scope staged = none → Processable scope layout staged →
      ∃ validation, ofStaged scope classification layout staged = .ok validation) ∧
    ∀ validation, ofStaged scope classification layout staged = .ok validation →
      ∀ name entries, .missingPage name entries ∈ validation.errors ↔
        ∃ feature ∈ scope.features, feature.name = name ∧ feature.entryPoints = entries ∧
          ¬ HoldsPage layout name := by
  obtain rfl := Classification.eq_of_decided classified
  intro layout
  constructor
  case left =>
    intro usable processable
    rw [ofStaged_eq usable, exists_map_eq_ok_iff]
    exact exists_residues_iff.mpr processable
  case right =>
    intro validation ran name entries
    rw [missingPage_mem_errors_iff ran]
    refine exists_congr fun feature => and_congr_right fun declared => ?_
    refine and_congr_right fun named => and_congr_right fun _ => ?_
    rw [← named, ← hasPage_iff labelled distinct extracted declared, Bool.not_eq_true]

end Reported

section Common

/-- Two features, the first of which enters a file that the second uses as well. -/
def commonScope : Scope where
  root := []
  features := [⟨"one", ["common.ts", "pages/OnePage.tsx"], []⟩, ⟨"two", ["two.ts"], []⟩]
  excluded := []
  retain := []
  sourceAlias := .text "@/"
  targetAlias := .text "@/"
  bucket kind := .text kind.usualBucket
  storage :=
    { StorageInterface.usual with calls := Ledger.ofList [("localStorage.setItem", .write)] }
  contract := []
  jobs := 1
  configFile := none

/-- The entry point of the second feature. -/
def usesCommon : SourceFile where
  path := "two.ts"
  kind := .util
  exports := []
  imports := [⟨"two.ts", "*", "./common", 1, ⟨8, 16⟩, some "common.ts", false⟩]
  content := some "import './common'"

/-- The files of the features. -/
def commonIndex : SourceIndex where
  files := Ledger.ofList [("common.ts", ⟨"common.ts", .util, [], [], some ""⟩),
    ("pages/OnePage.tsx", ⟨"pages/OnePage.tsx", .page, [], [], some ""⟩), ("two.ts", usesCommon)]
  excluded := []
  errors := []

/-- The plan: the entry point that both features reach is shared. -/
def commonLayout : Layout :=
  .ofOwners commonScope commonIndex (Ledger.ofList [("common.ts", .shared),
    ("pages/OnePage.tsx", .feature "one"), ("two.ts", .feature "two")])

/-- The staged texts, with any text for the page. -/
def commonStaged (page : String) : Ledger String String :=
  Ledger.ofList
    [("common.ts", ""), ("pages/OnePage.tsx", page), ("two.ts", "import '@/utils/common'")]

theorem labelled_common : commonIndex.Labelled := by
  have three (path : String) (file : SourceFile) (found : commonIndex.file? path = some file) :
      (path = "common.ts" ∧ file = ⟨"common.ts", .util, [], [], some ""⟩) ∨
        (path = "pages/OnePage.tsx" ∧ file = ⟨"pages/OnePage.tsx", .page, [], [], some ""⟩) ∨
        (path = "two.ts" ∧ file = usesCommon) := by
    simpa using (Ledger.find?_ofList_eq_some_iff _ (by decide) path file).mp found
  constructor
  all_goals
    intro path file found
    rcases three path file found with ⟨rfl, rfl⟩ | ⟨rfl, rfl⟩ | ⟨rfl, rfl⟩
    all_goals decide

theorem decided_common : Classification.decided commonScope (.ofIndex commonIndex) =
    .ok (.ofGraph commonScope (.ofIndex commonIndex)) :=
  Classification.decided_of_nil rfl _

theorem owners_common : (Classification.ofGraph commonScope (.ofIndex commonIndex)).owners =
    Ledger.ofList [("common.ts", .shared), ("pages/OnePage.tsx", .feature "one"),
      ("two.ts", .feature "two")] := by
  have files : sorted (UsageGraph.ofIndex commonIndex).files =
      ["common.ts", "pages/OnePage.tsx", "two.ts"] := by
    have listed : (UsageGraph.ofIndex commonIndex).files =
        ["common.ts", "pages/OnePage.tsx", "two.ts"] := by
      decide
    rw [listed]
    exact List.mergeSort_of_pairwise (by decide)
  have owners : ["common.ts", "pages/OnePage.tsx", "two.ts"].filterMap (fun path =>
      (Classification.ownerIn (Classification.reachingIn commonScope (.ofIndex commonIndex))
        (Classification.retainedIn commonScope (.ofIndex commonIndex)
          (Classification.reachingIn commonScope (.ofIndex commonIndex))) path).map
        fun owner => (path, owner)) =
      [("common.ts", .shared), ("pages/OnePage.tsx", .feature "one"),
        ("two.ts", .feature "two")] := by
    decide +kernel
  rw [Classification.ofGraph]
  dsimp only
  rw [files, owners]

/-- The staged texts import what the graph says, whatever the page holds that is no import. -/
theorem extracted_common {page : String} (silent : ∃ found,
    Code.Module.ofText page.toList "pages/OnePage.tsx" = .ok found ∧ found.imports = []) :
    Extracted (.ofIndex commonIndex)
      (.ofOwners commonScope commonIndex
        (Classification.ofGraph commonScope (.ofIndex commonIndex)).owners)
      (edgesOf commonScope (.ofOwners commonScope commonIndex
        (Classification.ofGraph commonScope (.ofIndex commonIndex)).owners)
        (commonStaged page)).edges := by
  rw [owners_common]
  change Extracted (.ofIndex commonIndex) commonLayout
    (edgesOf commonScope commonLayout (commonStaged page)).edges
  have read {path text : String} {found : Code.Module} (holds : (commonStaged page).find? path =
      some text) (parsed : Code.Module.ofText text.toList path = .ok found) :
      (edgesOf commonScope commonLayout (commonStaged page)).edges.next path =
        targetsOf "@/" commonLayout.byModulePath found := by
    rw [Ledger.next, find?_edgesOf holds parsed]
    rfl
  obtain ⟨first, parsed, none⟩ : ∃ found,
      Code.Module.ofText "".toList "common.ts" = .ok found ∧ found.imports = [] :=
    Code.Module.exists_ofText_iff.mpr ⟨[], by cbv, by cbv⟩
  obtain ⟨second, alsoParsed, nothing⟩ := silent
  obtain ⟨third, lastParsed, imports⟩ : ∃ found,
      Code.Module.ofText "import '@/utils/common'".toList "two.ts" = .ok found ∧
        found.imports = [⟨"@/utils/common", ["*"], 1, ⟨8, 22⟩, false, false⟩] :=
    Code.Module.exists_ofText_iff.mpr ⟨"import '@/utils/common'".toList, by cbv, by cbv⟩
  intro source move planned target
  have keys : commonLayout.moves.keys = ["common.ts", "pages/OnePage.tsx", "two.ts"] := by decide
  have three : source ∈ commonLayout.moves.keys :=
    (Ledger.mem_keys_iff _ source).mpr ⟨move, planned⟩
  simp only [keys, List.mem_cons, List.not_mem_nil, or_false] at three
  refine iff_of_eq (congrArg (target ∈ ·) ?_)
  rcases three with rfl | rfl | rfl
  · rw [read rfl parsed, targetsOf, none]
    decide
  · rw [read rfl alsoParsed, targetsOf, nothing]
    decide
  · rw [read rfl lastParsed, targetsOf, imports]
    decide

/-- The search for storage objects in the staged texts. -/
theorem searched_common :
    storagePattern? commonScope.storage = some (Pattern.oneOf ["localStorage"]) := by
  have names : sorted commonScope.storage.identifiers = ["localStorage"] := by cbv
  have known := storagePattern?_eq isWhole_nested
  rw [if_neg (by decide)] at known
  exact names ▸ known

/-- The moves of the files. -/
def commonMoves : List Move :=
  [⟨"common.ts", "utils/common.ts", "utils/common", .shared, .util⟩,
    ⟨"pages/OnePage.tsx", "features/one/pages/OnePage.tsx", "features/one/pages/OnePage",
      .feature "one", .page⟩,
    ⟨"two.ts", "features/two/utils/two.ts", "features/two/utils/two", .feature "two", .util⟩]

theorem moves_common : commonLayout.moves.values = commonMoves := by decide

theorem holdsPage_common : HoldsPage commonLayout "one" ∧ ¬ HoldsPage commonLayout "two" := by
  rw [HoldsPage, HoldsPage, moves_common]
  decide

theorem processable_common : Processable commonScope commonLayout (commonStaged "") := by
  have page : Searchable commonScope "pages/OnePage.tsx" "".toList :=
    exists_checkedText_iff.mp ⟨[], by cbv⟩
  have other : Searchable commonScope "two.ts" "import '@/utils/common'".toList :=
    exists_checkedText_iff.mp ⟨"import '              '".toList, by cbv⟩
  refine Or.inr fun move listed feature content owned holds => ?_
  rw [moves_common] at listed
  simp only [commonMoves, List.mem_cons, List.not_mem_nil, or_false] at listed
  rcases listed with rfl | rfl | rfl
  · cases owned
  · obtain rfl := Option.some.inj holds
    exact page
  · obtain rfl := Option.some.inj holds
    exact other

theorem missingPage_exact_common :
    commonIndex.Labelled ∧ (commonScope.features.map (·.name)).Nodup ∧
      Classification.decided commonScope (.ofIndex commonIndex) =
        .ok (.ofGraph commonScope (.ofIndex commonIndex)) ∧
      ∃ validation, ofStaged commonScope (.ofGraph commonScope (.ofIndex commonIndex)) commonLayout
          (commonStaged "") = .ok validation ∧
        .missingPage "one" ["common.ts", "pages/OnePage.tsx"] ∉ validation.errors ∧
        .missingPage "two" ["two.ts"] ∈ validation.errors := by
  have distinct : (commonScope.features.map (·.name)).Nodup := by decide
  have silent : ∃ found, Code.Module.ofText "".toList "pages/OnePage.tsx" = .ok found ∧
      found.imports = [] :=
    Code.Module.exists_ofText_iff.mpr ⟨[], by cbv, by cbv⟩
  have exact := missingPage_exact labelled_common distinct decided_common (extracted_common silent)
  rw [owners_common] at exact
  change (aliasProblem? commonScope (commonStaged "") = none →
    Processable commonScope commonLayout (commonStaged "") → _) ∧ _ at exact
  obtain ⟨validation, ran⟩ := exact.1 rfl processable_common
  refine ⟨labelled_common, distinct, decided_common, validation, ran, fun reported => ?_, ?_⟩
  · obtain ⟨-, -, -, -, lacks⟩ := (exact.2 validation ran _ _).mp reported
    exact lacks holdsPage_common.1
  · exact (exact.2 validation ran _ _).mpr
      ⟨⟨"two", ["two.ts"], []⟩, List.mem_cons_of_mem _ List.mem_cons_self, rfl, rfl,
        holdsPage_common.2⟩

/-- A page whose staged text cannot be processed keeps the missing page of another feature from
being reported. -/
theorem missingPage_unreported :
    commonIndex.Labelled ∧ (commonScope.features.map (·.name)).Nodup ∧
      Classification.decided commonScope (.ofIndex commonIndex) =
        .ok (.ofGraph commonScope (.ofIndex commonIndex)) ∧
      (Classification.ofGraph commonScope (.ofIndex commonIndex)).owners =
        Ledger.ofList [("common.ts", .shared), ("pages/OnePage.tsx", .feature "one"),
          ("two.ts", .feature "two")] ∧
      Extracted (.ofIndex commonIndex) commonLayout
        (edgesOf commonScope commonLayout (commonStaged quotingText)).edges ∧
      ¬ HoldsPage commonLayout "two" ∧
      ofStaged commonScope (.ofGraph commonScope (.ofIndex commonIndex)) commonLayout
          (commonStaged quotingText) =
        .error (.diagnostic (.unscannable "pages/OnePage.tsx" .openTemplate)) := by
  have silent : ∃ found, Code.Module.ofText quotingText.toList "pages/OnePage.tsx" = .ok found ∧
      found.imports = [] :=
    Code.Module.exists_ofText_iff.mpr ⟨quotingText.toList, by cbv, by cbv⟩
  have extracted := extracted_common silent
  rw [owners_common] at extracted
  refine ⟨labelled_common, by decide, decided_common, owners_common, extracted,
    holdsPage_common.2, ?_⟩
  have usable : aliasProblem? commonScope (commonStaged quotingText) = none := rfl
  have failed : checkedText commonScope "pages/OnePage.tsx" quotingText.toList =
      .error (.diagnostic (.unscannable "pages/OnePage.tsx" .openTemplate)) := by
    cbv
  have page : leftIn commonScope (Pattern.oneOf ["localStorage"]) (commonStaged quotingText)
      ⟨"pages/OnePage.tsx", "features/one/pages/OnePage.tsx", "features/one/pages/OnePage",
        .feature "one", .page⟩ =
      .error (.diagnostic (.unscannable "pages/OnePage.tsx" .openTemplate)) := by
    change residuesOf commonScope _ _ quotingText = _
    rw [residuesOf_eq, failed]
    rfl
  rw [ofStaged_eq usable, residues_eq searched_common, moves_common, commonMoves, List.mapM_cons,
    List.mapM_cons, page]
  rfl

end Common

end Validation

end FeatureLayout
