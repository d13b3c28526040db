import FeatureLayout.Proofs.Classification.Along
import FeatureLayout.Proofs.Graph.Chain

/-!
# Explanations

The explanation of a file lists a chain of imports for exactly those features that the
classification says reach the file. The classification goes by the nodes of the condensation and
the chain by the files themselves; both come down to the same paths of imports. Each chain starts at
an entry point of its feature, and no list of files that follows imports from there is shorter.
-/

namespace FeatureLayout

namespace Classification

variable {scope : Scope} {graph : UsageGraph} {reaching : List String} {path : String}

/-- A chain is listed for a feature when it is the one that is found first among its entry points. -/
theorem mem_chainsTo {name : String} {chain : List String} :
    (name, chain) ∈ chainsTo scope graph reaching path ↔
      ∃ feature ∈ scope.features, feature.name = name ∧ name ∈ reaching ∧
        feature.entryPoints.findSome? (fun entry => graph.shortestChain? entry path) =
          some chain := by
  simp only [chainsTo, List.mem_filterMap, List.mem_filter, List.contains_iff_mem,
    Option.map_eq_some_iff, Prod.mk.injEq]
  constructor
  · rintro ⟨feature, ⟨listed, reaches⟩, _, found, rfl, rfl⟩
    exact ⟨feature, listed, rfl, reaches, found⟩
  · rintro ⟨feature, listed, rfl, reaches, found⟩
    exact ⟨feature, ⟨listed, reaches⟩, chain, found, rfl, rfl⟩

/-- Chains are listed in the order of the features of the scope, at most one for each. -/
theorem names_chainsTo_sublist (scope : Scope) (graph : UsageGraph) (reaching : List String)
    (path : String) :
    ((chainsTo scope graph reaching path).map Prod.fst).Sublist (scope.features.map (·.name)) := by
  unfold chainsTo
  induction scope.features with
  | nil => exact List.Sublist.refl []
  | cons feature rest inductionHypothesis =>
    by_cases reaches : reaching.contains feature.name
    · rw [List.filter_cons_of_pos (by exact reaches)]
      cases found : feature.entryPoints.findSome? fun entry => graph.shortestChain? entry path with
      | none =>
        rw [List.filterMap_cons_none (by simp [found])]
        exact inductionHypothesis.cons feature.name
      | some chain =>
        rw [List.filterMap_cons_some (b := (feature.name, chain)) (by simp [found])]
        exact inductionHypothesis.cons_cons feature.name
    · rw [List.filter_cons_of_neg (by exact reaches)]
      exact inductionHypothesis.cons feature.name

/-- Among entry points, one from which a chain is found is one from which a path of imports leads,
and a chain is found if there is one. -/
theorem findSome?_shortestChain?_isSome_iff (built : graph.Built) (entries : List String)
    (path : String) :
    (entries.findSome? fun entry => graph.shortestChain? entry path).isSome ↔
      ∃ entry ∈ entries, entry ∈ graph.files ∧ graph.Reaches entry path := by
  rw [List.findSome?_isSome_iff]
  refine exists_congr fun entry => and_congr_right fun _ => ?_
  have outcome := built.shortestChain?_cases entry path
  cases found : graph.shortestChain? entry path with
  | none =>
    rw [found] at outcome
    simpa using outcome
  | some chain =>
    rw [found] at outcome
    simpa using ⟨outcome.1, outcome.2.1⟩

/-- The features with a chain are those that are listed for the file and reach it. -/
theorem mem_names_chainsTo_iff (built : graph.Built) (name : String) :
    name ∈ (chainsTo scope graph reaching path).map Prod.fst ↔
      name ∈ reaching ∧ ReachedBy scope graph path name := by
  simp only [List.mem_map, Prod.exists, exists_and_right, exists_eq_right, mem_chainsTo]
  constructor
  · rintro ⟨chain, feature, listed, same, reaches, found⟩
    refine ⟨reaches, feature, listed, same, ?_⟩
    exact (findSome?_shortestChain?_isSome_iff built feature.entryPoints path).mp (by simp [found])
  · rintro ⟨reaches, feature, listed, same, route⟩
    obtain ⟨chain, found⟩ := Option.isSome_iff_exists.mp
      ((findSome?_shortestChain?_isSome_iff built feature.entryPoints path).mpr route)
    exact ⟨chain, feature, listed, same, reaches, found⟩

/-- The explanation of a file of a classified graph lists a chain for exactly the features that reach
the file, each of them once if the features have different names. Every chain follows imports from
an entry point of its feature to the file, and none that does so is shorter. Between any two files,
no chain is found exactly when no path of imports leads from one to the other. -/
theorem explain_exact (built : graph.Built) {classification : Classification}
    (classified : decided scope graph = .ok classification) (listed : path ∈ graph.files) :
    (∀ name, name ∈ (classification.explain scope graph path).chains.map Prod.fst ↔
      name ∈ classification.reachingOf path) ∧
    ((scope.features.map (·.name)).Nodup →
      ((classification.explain scope graph path).chains.map Prod.fst).Nodup) ∧
    (∀ name chain, (name, chain) ∈ (classification.explain scope graph path).chains →
      ∃ feature ∈ scope.features, feature.name = name ∧
        ∃ entry ∈ feature.entryPoints, graph.ImportsShortest entry path chain) ∧
    ∀ source target, graph.shortestChain? source target = none ↔
      ¬ (source ∈ graph.files ∧ graph.Reaches source target) := by
  have same : classification = ofGraph scope graph := eq_of_decided classified
  refine ⟨fun name => ?_, fun distinct => ?_, fun name chain explained => ?_,
    fun source target => ?_⟩
  · refine (mem_names_chainsTo_iff built name).trans (and_iff_left_of_imp fun reaches => ?_)
    rw [same] at reaches
    exact (mem_reachingIn scope built listed name).mp reaches
  · exact distinct.sublist (names_chainsTo_sublist scope graph _ path)
  · obtain ⟨feature, declared, named, -, found⟩ := mem_chainsTo.mp explained
    obtain ⟨entry, enters, arrives⟩ := List.exists_of_findSome?_eq_some found
    have outcome := built.shortestChain?_cases entry path
    rw [arrives] at outcome
    exact ⟨feature, declared, named, entry, enters, outcome.2.2⟩
  · have outcome := built.shortestChain?_cases source target
    cases found : graph.shortestChain? source target with
    | none =>
      rw [found] at outcome
      exact ⟨fun _ => outcome, fun _ => rfl⟩
    | some chain =>
      rw [found] at outcome
      exact iff_of_false (by simp) (not_not_intro ⟨outcome.1, outcome.2.1⟩)

theorem explain_exact_sharedCycle :
    ∃ scope classification, Scope.ofValue [] (.table [
        ("features", .table [
          ("one", .table [("entry_points", .list [.text "gone.ts", .text "a.ts"])]),
          ("two", .table [("entry_points", .list [.text "c.ts"])])])]) = .ok scope ∧
      sharedCycle.Built ∧ decided scope sharedCycle = .ok classification ∧
      "b.ts" ∈ sharedCycle.files ∧
      "one" ∈ (classification.explain scope sharedCycle "b.ts").chains.map Prod.fst ∧
      (∀ name chain, (name, chain) ∈ (classification.explain scope sharedCycle "b.ts").chains →
        ∃ feature ∈ scope.features, feature.name = name ∧
          ∃ entry ∈ feature.entryPoints, sharedCycle.ImportsShortest entry "b.ts" chain) := by
  have built : sharedCycle.Built :=
    .addEdge _ _ (.addEdge _ _ (.addEdge _ _ (.addEdge _ _ (.addEdge _ _ .empty))))
  obtain ⟨scope, one, rest, accepted, retains, features, name, entry⟩ :
      ∃ scope one rest, Scope.ofValue [] (.table [
        ("features", .table [
          ("one", .table [("entry_points", .list [.text "gone.ts", .text "a.ts"])]),
          ("two", .table [("entry_points", .list [.text "c.ts"])])])]) = .ok scope ∧
        scope.retain = [] ∧ scope.features = one :: rest ∧ one.name = "one" ∧
        "a.ts" ∈ one.entryPoints :=
    ⟨_, _, _, rfl, rfl, rfl, rfl, by decide⟩
  have classified : decided scope sharedCycle = .ok (ofGraph scope sharedCycle) :=
    decided_of_nil retains sharedCycle
  have listed : "b.ts" ∈ sharedCycle.files := by decide
  have edge : "b.ts" ∈ sharedCycle.successors "a.ts" := by decide
  have reached : "one" ∈ (ofGraph scope sharedCycle).reachingOf "b.ts" :=
    (mem_reachingIn scope built listed "one").mpr ⟨one, by simp [features], name, "a.ts", entry,
      by decide, Relation.ReflTransGen.single edge⟩
  obtain ⟨named, -, chains, -⟩ := explain_exact built classified listed
  exact ⟨scope, _, accepted, built, classified, listed, (named "one").mpr reached, chains⟩

end Classification

end FeatureLayout
