import FeatureLayout.Proofs.Classification.Reaching
import FeatureLayout.Proofs.Scope.Config

/-!
# The exact classification

`Classification.Exact` says what a classification of the files of a graph has to be: the reaching
features are those from whose entry points imports lead to a file, one such feature owns the file
and several share it, what is kept is exactly what lies behind kept files that no feature reaches,
and every file of the graph is either owned or unreached, never both.

The classification that is computed for a built graph meets it for every accepted scope. It can be
refused only where a kept file would have to be recognized by a setting that is no glob.
-/

namespace FeatureLayout

open Text

namespace Owner

/-- A feature name is never the written form of shared files. -/
theorem ofText_of_isFeatureName {name : String} (named : Scope.isFeatureName name = true) :
    ofText name = feature name := by
  have refused : Scope.isFeatureName shared.text = false := by decide
  refine if_neg fun same => ?_
  rw [same, refused] at named
  exact Bool.false_ne_true named

end Owner

namespace Classification

/-- What a classification of the files of a graph has to be. -/
structure Exact (scope : Scope) (graph : UsageGraph) (classification : Classification) : Prop where
  /-- The features listed for a file are those that reach it. -/
  reaching : ∀ path ∈ graph.files, ∀ name,
    name ∈ classification.reachingOf path ↔ ReachedBy scope graph path name
  /-- They are listed once. -/
  once : ∀ path, (classification.reachingOf path).Nodup
  /-- One reaching feature owns a file. -/
  owned : ∀ path ∈ graph.files, ∀ name,
    classification.reachingOf path = [name] → classification.owner? path = some (.feature name)
  /-- Several reaching features share a file. -/
  contested : ∀ path ∈ graph.files,
    2 ≤ (classification.reachingOf path).length → classification.owner? path = some .shared
  /-- What is kept lies behind kept files, and no feature reaches it. -/
  retained : ∀ path, path ∈ classification.retained ↔
    path ∈ graph.files ∧ classification.reachingOf path = [] ∧
      ∃ root ∈ graph.files, classification.reachingOf root = [] ∧ scope.isRetained root = true ∧
        graph.Reaches root path
  /-- What is kept is shared. -/
  shared : ∀ path ∈ classification.retained, classification.owner? path = some .shared
  /-- Every file is either owned or unreached. -/
  partition : (classification.owners.keys ++ classification.unreached).Perm graph.files

section

variable (scope : Scope) {graph : UsageGraph}

/-- The kept files. -/
theorem mem_retained (built : graph.Built) (path : String) :
    path ∈ (ofGraph scope graph).retained ↔
      path ∈ graph.files ∧ (ofGraph scope graph).reachingOf path = [] ∧
        ∃ root ∈ graph.files, (ofGraph scope graph).reachingOf root = [] ∧
          scope.isRetained root = true ∧ graph.Reaches root path := by
  have same (tested : String) :
      (ofGraph scope graph).reachingOf tested = (reachingIn scope graph).next tested := rfl
  simp only [same]
  have kept : (ofGraph scope graph).retained =
      retainedIn scope graph (reachingIn scope graph) := rfl
  rw [kept]
  simp only [retainedIn, List.mem_filter, UsageGraph.mem_reach, Bool.and_eq_true, Bool.not_not,
    List.isEmpty_iff]
  constructor
  · rintro ⟨⟨root, ⟨listed, empty, keeps⟩, -, route⟩, nothing⟩
    exact ⟨built.reaches_mem listed route, nothing, root, listed, empty, keeps, route⟩
  · rintro ⟨-, nothing, root, listed, empty, keeps, route⟩
    exact ⟨⟨root, ⟨listed, empty, keeps⟩, listed, route⟩, nothing⟩

/-- The entries of the owners. -/
theorem entries_owners (graph : UsageGraph) :
    (ofGraph scope graph).owners.entries =
      (sorted graph.files).filterMap fun path =>
        (ownerIn (reachingIn scope graph) (ofGraph scope graph).retained path).map fun owner =>
          (path, owner) := by
  refine Ledger.entries_ofList _ ?_
  rw [map_fst_filterMap]
  exact ((sorted_perm graph.files).nodup_iff.mpr graph.files_nodup).filter _

/-- The owner of a file. -/
theorem owner?_of_mem {path : String} (listed : path ∈ graph.files) :
    (ofGraph scope graph).owner? path =
      ownerIn (reachingIn scope graph) (ofGraph scope graph).retained path := by
  ext owner
  rw [owner?, Ledger.find?_eq_some_iff, entries_owners, List.mem_filterMap]
  simp only [Option.map_eq_some_iff, Prod.mk.injEq]
  constructor
  · rintro ⟨_, _, _, found, rfl, rfl⟩
    exact found
  · intro found
    exact ⟨path, mem_sorted.mpr listed, owner, found, rfl, rfl⟩

/-- Kept files are shared. -/
theorem owner?_of_retained (built : graph.Built) {path : String}
    (kept : path ∈ (ofGraph scope graph).retained) :
    (ofGraph scope graph).owner? path = some .shared := by
  have listed := ((mem_retained scope built path).mp kept).1
  rw [owner?_of_mem scope listed, ownerIn]
  simp [kept]

/-- A file that some feature reaches is owned by what reaches it. -/
theorem owner?_of_reached (built : graph.Built) {path : String} (listed : path ∈ graph.files)
    (reached : (ofGraph scope graph).reachingOf path ≠ []) :
    (ofGraph scope graph).owner? path =
      Owner.ofReaching ((ofGraph scope graph).reachingOf path) := by
  have apart : path ∉ (ofGraph scope graph).retained := fun kept =>
    reached ((mem_retained scope built path).mp kept).2.1
  rw [owner?_of_mem scope listed, ownerIn, if_neg (by simpa using apart)]
  rfl

/-- The owned and the unreached files are the files of the graph. -/
theorem partition_ofGraph (graph : UsageGraph) :
    ((ofGraph scope graph).owners.keys ++ (ofGraph scope graph).unreached).Perm graph.files := by
  let owned (path : String) : Bool :=
    (ownerIn (reachingIn scope graph) (ofGraph scope graph).retained path).isSome
  have keys : (ofGraph scope graph).owners.keys = (sorted graph.files).filter owned := by
    rw [Ledger.keys, entries_owners, map_fst_filterMap]
  have others : (ofGraph scope graph).unreached =
      sorted (graph.files.filter fun path => !owned path) := by
    simp only [owned, Option.not_isSome]
    rfl
  rw [keys, others]
  calc (sorted graph.files).filter owned ++ sorted (graph.files.filter fun path => !owned path)
      |>.Perm (graph.files.filter owned ++ graph.files.filter fun path => !owned path) :=
        ((sorted_perm graph.files).filter owned).append (sorted_perm _)
    _ |>.Perm graph.files := List.filter_append_perm owned graph.files

/-- The unreached files are those of the graph that no feature reaches and that are not kept. -/
theorem mem_unreached (graph : UsageGraph) (path : String) :
    path ∈ (ofGraph scope graph).unreached ↔
      path ∈ graph.files ∧ path ∉ (ofGraph scope graph).retained ∧
        (ofGraph scope graph).reachingOf path = [] := by
  have unowned : (ofGraph scope graph).unreached = sorted (graph.files.filter fun path =>
      (ownerIn (reachingIn scope graph) (ofGraph scope graph).retained path).isNone) := rfl
  rw [unowned, mem_sorted, List.mem_filter, ownerIn]
  refine and_congr_right' ?_
  change _ ↔ _ ∧ (reachingIn scope graph).next path = []
  split
  · next kept => simp [List.contains_iff_mem.mp kept]
  · next other =>
    rw [List.contains_iff_mem] at other
    cases names : (reachingIn scope graph).next path with
    | nil => simp [other, Owner.ofReaching]
    | cons first rest =>
      cases rest <;> simp [Owner.ofReaching]

/-- A file that a feature owns is owned by a feature of the scope. -/
theorem exists_feature_of_owner? (built : graph.Built) {path name : String}
    (owner : (ofGraph scope graph).owner? path = some (.feature name)) :
    ∃ feature ∈ scope.features, feature.name = name := by
  have keyed : path ∈ (ofGraph scope graph).owners.keys :=
    (Ledger.mem_keys_iff _ path).mpr ⟨_, owner⟩
  have listed : path ∈ graph.files :=
    (partition_ofGraph scope graph).subset (List.mem_append_left _ keyed)
  rw [owner?_of_mem scope listed, ownerIn] at owner
  split at owner
  · cases owner
  · cases features : (reachingIn scope graph).next path with
    | nil => simp [features, Owner.ofReaching] at owner
    | cons first rest =>
      have reached : first ∈ (reachingIn scope graph).next path := by simp [features]
      obtain ⟨feature, declared, same, -⟩ := (mem_reachingIn scope built listed first).mp reached
      cases rest with
      | cons second others => simp [features, Owner.ofReaching] at owner
      | nil =>
        have written : Owner.ofText first = .feature name := by
          simpa [features, Owner.ofReaching] using owner
        unfold Owner.ofText at written
        split at written
        · cases written
        · exact ⟨feature, declared, same.trans (Owner.feature.inj written)⟩

/-- For features with feature names the classification of a built graph is exact. -/
theorem exact_ofGraph (built : graph.Built)
    (named : ∀ feature ∈ scope.features, Scope.isFeatureName feature.name = true) :
    Exact scope graph (ofGraph scope graph) where
  reaching path listed name := mem_reachingIn scope built listed name
  once path := reachingIn_nodup scope built path
  owned path listed name single := by
    have reached : (ofGraph scope graph).reachingOf path ≠ [] := by simp [single]
    have present : name ∈ (ofGraph scope graph).reachingOf path := by simp [single]
    obtain ⟨feature, declared, same, -⟩ := (mem_reachingIn scope built listed name).mp present
    rw [owner?_of_reached scope built listed reached, single, Owner.ofReaching,
      Owner.ofText_of_isFeatureName (same ▸ named feature declared)]
  contested path listed several := by
    have reached : (ofGraph scope graph).reachingOf path ≠ [] := by
      intro nothing
      simp [nothing] at several
    rw [owner?_of_reached scope built listed reached]
    match (ofGraph scope graph).reachingOf path, several with
    | _ :: _ :: _, _ => rfl
  retained path := mem_retained scope built path
  shared path kept := owner?_of_retained scope built kept
  partition := partition_ofGraph scope graph

end

/-- A classification is refused only on account of a file that no feature reaches and of a setting
that is no glob. -/
theorem decided_cases (scope : Scope) (graph : UsageGraph) :
    decided scope graph = .ok (ofGraph scope graph) ∨
      ∃ problem, decided scope graph = .error problem ∧
        ∃ path ∈ graph.files, (ofGraph scope graph).reachingOf path = [] ∧
          ∃ glob ∈ scope.retain, glob.isText = false := by
  unfold decided
  simp only
  split
  · next problem found =>
    obtain ⟨path, listed, refused⟩ := List.exists_of_findSome?_eq_some found
    obtain ⟨present, empty⟩ := List.mem_filter.mp listed
    refine Or.inr ⟨problem, rfl, path, present, by simpa using empty, ?_⟩
    unfold Scope.retainProblem? at refused
    split at refused
    · exact absurd refused (by simp)
    · exact absurd refused (by simp)
    · next glob noText chosen =>
      refine ⟨glob, List.mem_of_find?_eq_some chosen, ?_⟩
      cases glob with
      | text content => exact absurd rfl (noText content)
      | _ => rfl
  · exact Or.inl rfl

/-- A classification that is decided is that of the graph. -/
theorem eq_of_decided {scope : Scope} {graph : UsageGraph} {classification : Classification}
    (classified : decided scope graph = .ok classification) :
    classification = ofGraph scope graph := by
  rcases decided_cases scope graph with same | ⟨problem, refused, -⟩
  · exact Except.ok.inj (classified.symm.trans same)
  · exact absurd (classified.symm.trans refused) (by simp)

/-- Where all settings of files to keep are texts, every graph is classified. -/
theorem decided_of_texts {scope : Scope} (texts : ∀ glob ∈ scope.retain, glob.isText = true)
    (graph : UsageGraph) : decided scope graph = .ok (ofGraph scope graph) := by
  rcases decided_cases scope graph with same | ⟨_, -, _, -, -, glob, listed, noText⟩
  · exact same
  · rw [texts glob listed] at noText
    cases noText

/-- Without files to keep, every graph is classified. -/
theorem decided_of_nil {scope : Scope} (nothing : scope.retain = []) (graph : UsageGraph) :
    decided scope graph = .ok (ofGraph scope graph) :=
  decided_of_texts (fun _ listed => absurd (nothing ▸ listed) List.not_mem_nil) graph

/-- Classifying a built graph for an accepted scope gives its exact classification, and fails only
where a file that no feature reaches meets a setting that is no glob. With settings that are texts it
always answers (`decided_of_texts`). -/
theorem decided_exact {base : Location} {config : Value} {scope : Scope}
    (accepted : Scope.ofValue base config = .ok scope) {graph : UsageGraph} (built : graph.Built) :
    (∀ classification, decided scope graph = .ok classification →
      classification.Exact scope graph) ∧
    (∀ problem, decided scope graph = .error problem →
      (∃ glob ∈ scope.retain, glob.isText = false) ∧
        ∃ path ∈ graph.files, ∀ name, ¬ ReachedBy scope graph path name) := by
  have named : ∀ feature ∈ scope.features, Scope.isFeatureName feature.name = true :=
    fun feature listed => (Scope.ofValue_admitted accepted feature listed).named
  have exactly := exact_ofGraph scope built named
  rcases decided_cases scope graph with same | ⟨problem, same, path, listed, empty, glob⟩
  · rw [same]
    refine ⟨fun classification equal => ?_, fun problem absurd => by cases absurd⟩
    obtain rfl := Except.ok.inj equal
    exact exactly
  · rw [same]
    refine ⟨fun classification absurd => (by cases absurd), fun _ _ => ⟨glob, path, listed, ?_⟩⟩
    intro name reached
    have present := (exactly.reaching path listed name).mpr reached
    rw [empty] at present
    exact absurd present List.not_mem_nil

/-- Two features enter one cycle, and a kept file uses another that leads into the cycle. -/
def sharedCycle : UsageGraph :=
  ((((UsageGraph.empty.addEdge "a.ts" "b.ts").addEdge "b.ts" "c.ts").addEdge "c.ts" "b.ts").addEdge
    "kept.ts" "used.ts").addEdge "used.ts" "b.ts"

theorem decided_exact_sharedCycle :
    ∃ scope, Scope.ofValue [] (.table [
        ("features", .table [
          ("one", .table [("entry_points", .list [.text "a.ts", .text "gone.ts"])]),
          ("two", .table [("entry_points", .list [.text "c.ts"])])]),
        ("retain", .list [.text "kept.ts"])]) = .ok scope ∧
      sharedCycle.Built ∧
      decided scope sharedCycle = .ok (ofGraph scope sharedCycle) ∧
      (ofGraph scope sharedCycle).Exact scope sharedCycle := by
  have built : sharedCycle.Built :=
    .addEdge _ _ (.addEdge _ _ (.addEdge _ _ (.addEdge _ _ (.addEdge _ _ .empty))))
  obtain ⟨scope, accepted, globs⟩ : ∃ scope, Scope.ofValue [] (.table [
      ("features", .table [
        ("one", .table [("entry_points", .list [.text "a.ts", .text "gone.ts"])]),
        ("two", .table [("entry_points", .list [.text "c.ts"])])]),
      ("retain", .list [.text "kept.ts"])]) = .ok scope ∧ scope.retain = [.text "kept.ts"] :=
    ⟨_, rfl, rfl⟩
  have outcome : decided scope sharedCycle = .ok (ofGraph scope sharedCycle) := by
    refine decided_of_texts (fun glob listed => ?_) sharedCycle
    rw [globs, List.mem_singleton] at listed
    rw [listed]
    decide
  exact ⟨scope, accepted, built, outcome, (decided_exact accepted built).1 _ outcome⟩

end Classification

end FeatureLayout
