import FeatureLayout.Classification
import FeatureLayout.Proofs.Basic
import FeatureLayout.Proofs.Graph.Condensation
import FeatureLayout.Proofs.Ledger

/-!
# Which features reach a file

The table of reaching features is filled node by node, each file taking what its node has. For a
built graph this is the same as following imports file by file: a feature is listed for a file
exactly when a path of imports leads to the file from one of those entry points of the feature that
are in the graph.

Several features of one name count as one.
-/

namespace FeatureLayout

namespace Classification

/-- A path of imports leads to a file from an entry point of a feature with some name. -/
def ReachedBy (scope : Scope) (graph : UsageGraph) (path name : String) : Prop :=
  ∃ feature ∈ scope.features, feature.name = name ∧
    ∃ entry ∈ feature.entryPoints, entry ∈ graph.files ∧ graph.Reaches entry path

/-- What reaches a file reaches the files behind it. -/
theorem ReachedBy.trans {scope : Scope} {graph : UsageGraph} {path target name : String}
    (reached : ReachedBy scope graph path name) (route : graph.Reaches path target) :
    ReachedBy scope graph target name := by
  obtain ⟨feature, listed, same, entry, present, inside, before⟩ := reached
  exact ⟨feature, listed, same, entry, present, inside, Relation.ReflTransGen.trans before route⟩

/-- The features of a node are those with the node among the nodes that they reach. -/
theorem mem_featuresOfNode {reached : List (String × List Nat)} {node : Nat} {name : String} :
    name ∈ featuresOfNode reached node ↔ ∃ nodes, (name, nodes) ∈ reached ∧ node ∈ nodes := by
  simp [featuresOfNode]

/-- The features of a node are listed once. -/
theorem featuresOfNode_nodup (reached : List (String × List Nat)) (node : Nat) :
    (featuresOfNode reached node).Nodup :=
  nodup_eraseDups _

theorem map_fst_spread (members : List (List String)) (value : Nat → List String) :
    (spread members value).map Prod.fst = members.flatten := by
  have copied (group : List String) (index : Nat) :
      (group.map fun path => (path, value index)).map Prod.fst = group := by
    simp [Function.comp_def]
  calc (spread members value).map Prod.fst
      = (members.zipIdx.map fun entry =>
          (entry.1.map fun path => (path, value entry.2)).map Prod.fst).flatten := by
        rw [spread, List.map_flatMap, List.flatMap_def]
    _ = (members.zipIdx.map Prod.fst).flatten := by simp only [copied]
    _ = members.flatten := by rw [List.zipIdx_map_fst]

theorem mem_spread {members : List (List String)} {value : Nat → List String} {path : String}
    {names : List String} :
    (path, names) ∈ spread members value ↔
      ∃ node group, members[node]? = some group ∧ path ∈ group ∧ value node = names := by
  simp only [spread, List.mem_flatMap, List.mem_map, Prod.mk.injEq, Prod.exists,
    List.mem_zipIdx_iff_getElem?]
  constructor
  · rintro ⟨group, node, listed, _, present, rfl, same⟩
    exact ⟨node, group, listed, present, same⟩
  · rintro ⟨node, group, listed, present, same⟩
    exact ⟨group, node, listed, path, present, rfl, same⟩

variable {graph : UsageGraph}

/-- The table of a built graph has one entry for each of its files. -/
theorem keys_reachingIn_perm (scope : Scope) (built : graph.Built) :
    (reachingIn scope graph).keys.Perm graph.files := by
  have distinct : ((spread graph.components (featuresOfNode
      (reachedNodes scope (Condensation.ofGraph graph)))).map Prod.fst).Nodup := by
    rw [map_fst_spread]
    exact built.components_nodup
  have keys := Ledger.keys_ofList _ distinct
  rw [map_fst_spread] at keys
  exact keys ▸ built.components_perm

/-- A file has the features of its node. -/
theorem next_reachingIn (scope : Scope) (built : graph.Built) {path : String} {node : Nat}
    (ofPath : (Condensation.ofGraph graph).node? path = some node) :
    (reachingIn scope graph).next path =
      featuresOfNode (reachedNodes scope (Condensation.ofGraph graph)) node := by
  have distinct : ((spread graph.components (featuresOfNode
      (reachedNodes scope (Condensation.ofGraph graph)))).map Prod.fst).Nodup := by
    rw [map_fst_spread]
    exact built.components_nodup
  have place := (Condensation.nodeIn_eq_some_iff _ built.components_nodup path node).mp ofPath
  obtain ⟨group, listed, present⟩ := place
  have stored : (reachingIn scope graph).find? path =
      some (featuresOfNode (reachedNodes scope (Condensation.ofGraph graph)) node) :=
    (Ledger.find?_ofList_eq_some_iff _ distinct path _).mpr
      (mem_spread.mpr ⟨node, group, listed, present, rfl⟩)
  rw [Ledger.next, stored, Option.getD_some]

/-- No feature is listed twice for a file. -/
theorem reachingIn_nodup (scope : Scope) (built : graph.Built) (path : String) :
    ((reachingIn scope graph).next path).Nodup := by
  by_cases listed : path ∈ graph.files
  · obtain ⟨node, ofPath⟩ := (built.exists_node_iff path).mpr listed
    rw [next_reachingIn scope built ofPath]
    exact featuresOfNode_nodup _ node
  · have absent : path ∉ (reachingIn scope graph).keys := fun present =>
      listed ((keys_reachingIn_perm scope built).mem_iff.mp present)
    rw [Ledger.next, (Ledger.find?_eq_none_iff _ path).mpr absent]
    exact List.nodup_nil

/-- A feature is listed for a file exactly when it reaches the file. -/
theorem mem_reachingIn (scope : Scope) (built : graph.Built) {path : String}
    (listed : path ∈ graph.files) (name : String) :
    name ∈ (reachingIn scope graph).next path ↔ ReachedBy scope graph path name := by
  obtain ⟨node, ofPath⟩ := (built.exists_node_iff path).mpr listed
  rw [next_reachingIn scope built ofPath, mem_featuresOfNode]
  simp only [reachedNodes, List.mem_map, Prod.mk.injEq]
  constructor
  · rintro ⟨_, ⟨feature, present, same, rfl⟩, reached⟩
    exact ⟨feature, present, same, (built.mem_reach_condensation _ ofPath).mp reached⟩
  · rintro ⟨feature, present, same, route⟩
    exact ⟨_, ⟨feature, present, same, rfl⟩, (built.mem_reach_condensation _ ofPath).mpr route⟩

end Classification

end FeatureLayout
