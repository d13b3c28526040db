import FeatureLayout.Proofs.Destinations
import Mathlib.Data.List.Permutation

/-!
# What a layout plans and what it reports

A layout plans every owned file of its index exactly once. The module paths that several files are
planned to are reported one by one, each with all of its files. When nothing is reported, a module
path stands for one file and a destination belongs to one file, so that plans can be read backwards.
-/

namespace FeatureLayout

open Text

namespace Layout

section Reported

variable (moves : List Move)

/-- The module paths that several files are planned to, in increasing order. -/
def contested : List String :=
  ((sortedBy Prod.fst (claims moves).entries).filter (1 < ·.2.length)).map Prod.fst

/-- Every claim is entered with all of its claimants. -/
theorem eq_claimants_of_mem {entry : String × List String}
    (listed : entry ∈ (claims moves).entries) : entry.2 = claimants moves entry.1 := by
  have found := (Ledger.find?_eq_some_iff (claims moves) entry.1 entry.2).mpr listed
  rw [← next_claims, Ledger.next, found, Option.getD_some]

/-- The conflicts are the contested module paths with their claimants. -/
theorem conflicts_eq : conflicts moves =
    (contested moves).map fun path => .planConflict path (sorted (claimants moves path)) := by
  rw [conflicts, contested, List.map_map]
  refine List.map_congr_left fun entry listed => ?_
  have entered := (sortedBy_perm _ _).mem_iff.mp (List.mem_filter.mp listed).1
  rw [eq_claimants_of_mem moves entered]
  rfl

/-- A module path is contested when it has several claimants. -/
theorem mem_contested {path : String} :
    path ∈ contested moves ↔ 1 < (claimants moves path).length := by
  simp only [contested, List.mem_map, List.mem_filter, (sortedBy_perm _ _).mem_iff,
    decide_eq_true_eq]
  constructor
  · rintro ⟨entry, ⟨listed, several⟩, rfl⟩
    rwa [← eq_claimants_of_mem moves listed]
  · intro several
    rw [← next_claims, Ledger.next] at several
    cases found : (claims moves).find? path with
    | none => rw [found] at several; exact absurd several (by simp)
    | some sources =>
      rw [found] at several
      exact ⟨(path, sources), ⟨(Ledger.find?_eq_some_iff _ _ _).mp found, several⟩, rfl⟩

/-- No module path is reported twice. -/
theorem contested_increasing : (contested moves).Pairwise (· < ·) := by
  have keys : ((sortedBy Prod.fst (claims moves).entries).map Prod.fst).Nodup :=
    ((sortedBy_perm Prod.fst (claims moves).entries).map Prod.fst).nodup_iff.mpr
      (claims moves).distinct
  have ordered : ((sortedBy Prod.fst (claims moves).entries).map Prod.fst).Pairwise (· ≤ ·) :=
    List.pairwise_map.mpr (sortedBy_pairwise Prod.fst _)
  exact (increasing_of_nodup ordered keys).sublist (List.filter_sublist.map Prod.fst)

/-- What claims a module path are the sources that are planned to it. -/
theorem mem_claimants {path source : String} :
    source ∈ claimants moves path ↔ ∃ move ∈ moves, move.source = source ∧ move.modulePath = path := by
  simp only [claimants, List.mem_map, List.mem_filter, beq_iff_eq, and_assoc, and_comm]

/-- Moves with distinct sources have distinct claimants. -/
theorem claimants_nodup (distinct : (moves.map (·.source)).Nodup) (path : String) :
    (claimants moves path).Nodup := distinct.sublist (List.filter_sublist.map _)

end Reported

section Exact

variable {scope origin : Scope} {index : SourceIndex} {owners : Ledger String Owner}
  {paths : List String} {read : String → Except ReadProblem String}

/-- An owned file of the index is planned once, and to its destination. -/
theorem filter_source_eq {source : String} {owner : Owner} {file : SourceFile}
    (owned : owners.find? source = some owner) (indexed : index.file? source = some file) :
    (ofOwners scope index owners).moves.values.filter (·.source = source) =
      [moveOf scope file source owner] := by
  have keyed := ofOwners_keyed scope index owners
  have listed : moveOf scope file source owner ∈ (ofOwners scope index owners).moves.values :=
    (keyed.mem_values_iff _).mpr
      ((move?_ofOwners scope index owners source _).mpr ⟨owner, file, owned, indexed, rfl⟩)
  exact filter_key_eq_singleton (·.source) keyed.sources_nodup listed

/-- The conflicts name the contested module paths in increasing order, each with all of its
claimants in increasing order. -/
theorem exists_errors_eq (scope : Scope) (index : SourceIndex) (owners : Ledger String Owner) :
    ∃ (shared : List String) (claiming : String → List String),
      (ofOwners scope index owners).errors =
        shared.map (fun path => .planConflict path (claiming path)) ∧
      shared.Pairwise (· < ·) ∧
      (∀ path, path ∈ shared ↔ ∃ first ∈ (ofOwners scope index owners).moves.values,
        ∃ second ∈ (ofOwners scope index owners).moves.values,
          first.source ≠ second.source ∧ first.modulePath = path ∧ second.modulePath = path) ∧
      ∀ path, (claiming path).Pairwise (· < ·) ∧ ∀ source, source ∈ claiming path ↔
        ∃ move ∈ (ofOwners scope index owners).moves.values,
          move.source = source ∧ move.modulePath = path := by
  have distinct := (ofOwners_keyed scope index owners).sources_nodup
  have errors : (ofOwners scope index owners).errors =
      conflicts (ofOwners scope index owners).moves.values := rfl
  generalize (ofOwners scope index owners).moves.values = moves at distinct errors ⊢
  refine ⟨contested moves, fun path => sorted (claimants moves path),
    errors.trans (conflicts_eq moves), contested_increasing moves, fun path => ?shared,
    fun path => ⟨?increasing, fun source => ?claiming⟩⟩
  case shared =>
    rw [mem_contested, one_lt_length_iff (claimants_nodup moves distinct path)]
    simp only [mem_claimants]
    constructor
    · rintro ⟨_, ⟨first, listed, rfl, here⟩, _, ⟨second, also, rfl, there⟩, other⟩
      exact ⟨first, listed, second, also, other, here, there⟩
    · rintro ⟨first, listed, second, also, other, here, there⟩
      exact ⟨_, ⟨first, listed, rfl, here⟩, _, ⟨second, also, rfl, there⟩, other⟩
  case increasing =>
    exact increasing_of_nodup (sortedBy_pairwise id _)
      ((sorted_perm _).nodup_iff.mpr (claimants_nodup moves distinct path))
  case claiming => rw [mem_sorted, mem_claimants]

/-- A layout plans each owned file of the index exactly once, to its own destination, and nothing
else. Its conflicts are the module paths that several sources are planned to, one each and in
increasing order, with all of these sources in increasing order. Without conflicts, moves have
distinct module paths and distinct destinations, and a module path leads back to the one source that
is planned to it. -/
theorem ofOwners_exact (built : SourceIndex.ofTree origin paths read = .ok index)
    (plain : ∀ path ∈ paths, Path.IsPlain path) :
    (∀ source owner file, owners.find? source = some owner → index.file? source = some file →
      (ofOwners scope index owners).moves.values.filter (·.source = source) =
        [moveOf scope file source owner]) ∧
    (∀ move ∈ (ofOwners scope index owners).moves.values, ∃ owner file,
      owners.find? move.source = some owner ∧ index.file? move.source = some file ∧
        move = moveOf scope file move.source owner) ∧
    (∃ (shared : List String) (claiming : String → List String),
      (ofOwners scope index owners).errors =
        shared.map (fun path => .planConflict path (claiming path)) ∧
      shared.Pairwise (· < ·) ∧
      (∀ path, path ∈ shared ↔ ∃ first ∈ (ofOwners scope index owners).moves.values,
        ∃ second ∈ (ofOwners scope index owners).moves.values,
          first.source ≠ second.source ∧ first.modulePath = path ∧ second.modulePath = path) ∧
      ∀ path, (claiming path).Pairwise (· < ·) ∧ ∀ source, source ∈ claiming path ↔
        ∃ move ∈ (ofOwners scope index owners).moves.values,
          move.source = source ∧ move.modulePath = path) ∧
    ((ofOwners scope index owners).errors = [] →
      ((ofOwners scope index owners).moves.values.map (·.modulePath)).Nodup ∧
      ((ofOwners scope index owners).moves.values.map (·.destination)).Nodup ∧
      ∀ modulePath source,
        (ofOwners scope index owners).byModulePath.find? modulePath = some source ↔
          ∃ move, (ofOwners scope index owners).move? source = some move ∧
            move.modulePath = modulePath) := by
  refine ⟨fun source owner file => filter_source_eq, fun move => exists_file_of_mem,
    exists_errors_eq scope index owners, fun clear => ?_⟩
  have distinct := (conflicts_eq_nil_iff _).mp clear
  exact ⟨distinct, destinations_nodup built plain distinct,
    find?_byModulePath (ofOwners_keyed scope index owners) distinct⟩

end Exact

section Twins

/-- Two empty files of one name in two folders. -/
def twinPaths : List String := ["a/tone.ts", "b/tone.ts"]

/-- Reads one of the files. -/
def twinRead (_ : String) : Except ReadProblem String := .ok ""

/-- A scope of two features. -/
def twinScope : Scope where
  root := []
  features := [⟨"one", ["a/tone.ts"], []⟩, ⟨"two", ["b/tone.ts"], []⟩]
  excluded := []
  retain := []
  sourceAlias := .text "@/"
  targetAlias := .text "@/"
  bucket kind := .text kind.usualBucket
  storage := .usual
  contract := []
  jobs := 1
  configFile := none

/-- The index of the files. -/
def twinIndex : SourceIndex where
  files := Ledger.ofList [("a/tone.ts", ⟨"a/tone.ts", .util, [], [], some ""⟩),
    ("b/tone.ts", ⟨"b/tone.ts", .util, [], [], some ""⟩)]
  excluded := []
  errors := []

/-- Both files belong to one feature. -/
def crowdedOwners : Ledger String Owner :=
  Ledger.ofList [("a/tone.ts", .feature "one"), ("b/tone.ts", .feature "one")]

/-- Each file belongs to a feature of its own. -/
def apartOwners : Ledger String Owner :=
  Ledger.ofList [("a/tone.ts", .feature "one"), ("b/tone.ts", .feature "two")]

theorem ofTree_twins : SourceIndex.ofTree twinScope twinPaths twinRead = .ok twinIndex := by
  let opened : List SourceIndex.ReadFile :=
    [⟨"a/tone.ts", "", ⟨[], [], .util⟩⟩, ⟨"b/tone.ts", "", ⟨[], [], .util⟩⟩]
  have discovered : Discovery.ofPaths twinScope twinPaths = ⟨twinPaths, []⟩ := by cbv
  have sources : Discovery.sources ⟨twinPaths, []⟩ = twinPaths := by decide
  have first : SourceIndex.readFile twinRead "a/tone.ts" = .ok opened[0] :=
    SourceIndex.readFile_of_imports (by cbv) rfl (by cbv) (by cbv)
  have second : SourceIndex.readFile twinRead "b/tone.ts" = .ok opened[1] :=
    SourceIndex.readFile_of_imports (by cbv) rfl (by cbv) (by cbv)
  have readable : twinPaths.map (SourceIndex.readFile twinRead) = opened.map .ok := by
    rw [twinPaths, List.map_cons, List.map_cons, first, second]
    rfl
  exact SourceIndex.ofTree_eq_of_read rfl discovered (by decide) (by rw [sources, readable])
    rfl rfl rfl (by decide) (by decide)

theorem ofOwners_exact_twins :
    SourceIndex.ofTree twinScope twinPaths twinRead = .ok twinIndex ∧
      (∀ path ∈ twinPaths, Path.IsPlain path) ∧
      (ofOwners twinScope twinIndex crowdedOwners).errors =
        [.planConflict "features/one/utils/tone" twinPaths] ∧
      ((ofOwners twinScope twinIndex crowdedOwners).moves.values.filter
        (·.source = "b/tone.ts")).map (·.destination) = ["features/one/utils/tone.ts"] ∧
      (ofOwners twinScope twinIndex apartOwners).errors = [] ∧
      ((ofOwners twinScope twinIndex apartOwners).moves.values.map (·.destination)).Nodup ∧
      (ofOwners twinScope twinIndex apartOwners).byModulePath.find? "features/two/utils/tone" =
        some "b/tone.ts" := by
  have plain : ∀ path ∈ twinPaths, Path.IsPlain path := by decide
  have clear : (ofOwners twinScope twinIndex apartOwners).errors = [] := by cbv
  obtain ⟨planned, -⟩ :=
    @ofOwners_exact twinScope twinScope twinIndex crowdedOwners _ _ ofTree_twins plain
  obtain ⟨-, -, -, apart⟩ :=
    @ofOwners_exact twinScope twinScope twinIndex apartOwners _ _ ofTree_twins plain
  obtain ⟨-, destinations, back⟩ := apart clear
  refine ⟨ofTree_twins, plain, by cbv, ?_, clear, destinations, ?_⟩
  · rw [planned "b/tone.ts" (.feature "one") ⟨"b/tone.ts", .util, [], [], some ""⟩ rfl rfl]
    rfl
  · exact (back _ _).mpr ⟨⟨"b/tone.ts", "features/two/utils/tone.ts", "features/two/utils/tone",
      .feature "two", .util⟩, by decide, rfl⟩

end Twins

end Layout

end FeatureLayout
