import FeatureLayout.Layout
import FeatureLayout.Proofs.Basic
import FeatureLayout.Proofs.Graph.Operations
import FeatureLayout.Proofs.Ledger

/-!
# The planned moves

A layout plans one move for every owned file of the index, and for no other. When it has no
conflicts, different moves have different module paths, and looking up a module path leads back to
the file that is planned to it.
-/

namespace FeatureLayout

open Text

namespace Layout

section Moves

variable (scope : Scope) (index : SourceIndex) (owners : Ledger String Owner)

/-- The move of one owned file, if it is indexed. -/
def moved (entry : String × Owner) : Option (String × Move) :=
  (index.file? entry.1).map fun file => (entry.1, moveOf scope file entry.1 entry.2)

/-- The moves of owned files are entered in the order of the owners. -/
theorem entries_movesOf :
    (movesOf scope index owners).entries = owners.entries.filterMap (moved scope index) := by
  have added : ∀ (entries : List (String × Owner)) (moves : Ledger String Move),
      entries.foldl (addOwned scope index) moves =
      (entries.filterMap (moved scope index)).foldl (fun moves pair => moves.put pair.1 pair.2)
        moves := by
    intro entries
    induction entries with
    | nil => exact fun _ => rfl
    | cons entry rest inductionHypothesis =>
      intro moves
      rw [List.foldl_cons, inductionHypothesis]
      cases found : index.file? entry.1 with
      | none => simp [addOwned, moved, found]
      | some file => simp [addOwned, moved, found]
  have names : ∀ entries : List (String × Owner),
      ((entries.filterMap (moved scope index)).map Prod.fst).Sublist (entries.map Prod.fst) := by
    intro entries
    induction entries with
    | nil => exact List.Sublist.refl _
    | cons entry rest inductionHypothesis =>
      cases found : index.file? entry.1 with
      | none => simpa [moved, found] using inductionHypothesis.cons entry.1
      | some file => simpa [moved, found] using inductionHypothesis
  rw [movesOf, added]
  exact Ledger.entries_ofList _ ((names owners.entries).nodup owners.distinct)

/-- The planned moves are those of the owned files of the index. -/
theorem move?_ofOwners (path : String) (move : Move) :
    (ofOwners scope index owners).move? path = some move ↔
      ∃ owner file, owners.find? path = some owner ∧ index.file? path = some file ∧
        moveOf scope file path owner = move := by
  rw [move?, Ledger.find?_eq_some_iff]
  simp only [ofOwners, entries_movesOf, List.mem_filterMap, moved, Option.map_eq_some_iff,
    Prod.mk.injEq, Prod.exists]
  constructor
  · rintro ⟨_, owner, listed, file, found, rfl, same⟩
    exact ⟨owner, file, (Ledger.find?_eq_some_iff owners _ owner).mpr listed, found, same⟩
  · rintro ⟨owner, file, stored, found, same⟩
    exact ⟨path, owner, (Ledger.find?_eq_some_iff owners path owner).mp stored, file, found, rfl,
      same⟩

end Moves

/-- A layout enters every move under its source. -/
def Keyed (layout : Layout) : Prop :=
  ∀ path move, layout.move? path = some move → move.source = path

theorem ofOwners_keyed (scope : Scope) (index : SourceIndex) (owners : Ledger String Owner) :
    (ofOwners scope index owners).Keyed := by
  intro path move found
  obtain ⟨owner, file, -, -, rfl⟩ := (move?_ofOwners scope index owners path move).mp found
  rfl

section Lookup

variable {layout : Layout}

/-- The moves of a keyed layout are found under their sources. -/
theorem Keyed.mem_values_iff (keyed : layout.Keyed) (move : Move) :
    move ∈ layout.moves.values ↔ layout.move? move.source = some move := by
  constructor
  · intro listed
    obtain ⟨⟨path, stored⟩, entered, rfl⟩ := List.mem_map.mp listed
    have found : layout.move? path = some stored :=
      (Ledger.find?_eq_some_iff layout.moves path stored).mpr entered
    rw [keyed path stored found]
    exact found
  · intro found
    exact List.mem_map.mpr ⟨_, (Ledger.find?_eq_some_iff layout.moves _ move).mp found, rfl⟩

/-- The moves of a keyed layout have distinct sources. -/
theorem Keyed.sources_nodup (keyed : layout.Keyed) :
    (layout.moves.values.map (·.source)).Nodup := by
  have same : layout.moves.values.map (·.source) = layout.moves.entries.map Prod.fst := by
    rw [Ledger.values, List.map_map]
    refine List.map_congr_left fun entry listed => ?_
    exact keyed entry.1 entry.2 ((Ledger.find?_eq_some_iff layout.moves entry.1 entry.2).mpr listed)
  exact same ▸ layout.moves.distinct

end Lookup

section Conflicts

/-- The sources planned to a module path. -/
def claimants (moves : List Move) (modulePath : String) : List String :=
  (moves.filter (·.modulePath == modulePath)).map (·.source)

/-- The table of claims holds the claimants of every module path. -/
theorem next_claims (moves : List Move) (modulePath : String) :
    (claims moves).next modulePath = claimants moves modulePath := by
  have grouped := Ledger.getD_find?_grouped (·.modulePath) (·.source) moves .empty modulePath
  simpa [claims, Ledger.next, claimants, beq_eq_decide] using grouped

/-- As many sources claim a module path as there are moves to it. -/
theorem length_claimants (moves : List Move) (modulePath : String) :
    (claimants moves modulePath).length = (moves.map (·.modulePath)).count modulePath := by
  rw [claimants, List.length_map, List.count, List.countP_map, List.countP_eq_length_filter]
  rfl

/-- A layout has no conflicts exactly when its moves have distinct module paths. -/
theorem conflicts_eq_nil_iff (moves : List Move) :
    conflicts moves = [] ↔ (moves.map (·.modulePath)).Nodup := by
  have entries : conflicts moves = [] ↔
      ∀ entry ∈ (claims moves).entries, entry.2.length ≤ 1 := by
    rw [conflicts, List.map_eq_nil_iff, List.filter_eq_nil_iff]
    simp only [(sortedBy_perm Prod.fst (claims moves).entries).mem_iff, decide_eq_true_eq,
      Nat.not_lt]
  have stored (entry : String × List String) (listed : entry ∈ (claims moves).entries) :
      entry.2 = claimants moves entry.1 := by
    have found := (Ledger.find?_eq_some_iff (claims moves) entry.1 entry.2).mpr listed
    rw [← next_claims, Ledger.next, found, Option.getD_some]
  rw [entries, List.nodup_iff_count_le_one]
  constructor
  · intro single modulePath
    rw [← length_claimants, ← next_claims, Ledger.next]
    cases found : (claims moves).find? modulePath with
    | none => simp
    | some sources =>
      exact single _ ((Ledger.find?_eq_some_iff (claims moves) modulePath sources).mp found)
  · intro single entry listed
    rw [stored entry listed, length_claimants]
    exact single entry.1

/-- Without conflicts, a module path leads back to the file that is planned to it. -/
theorem find?_byModulePath {layout : Layout} (keyed : layout.Keyed)
    (distinct : (layout.moves.values.map (·.modulePath)).Nodup) (modulePath source : String) :
    layout.byModulePath.find? modulePath = some source ↔
      ∃ move, layout.move? source = some move ∧ move.modulePath = modulePath := by
  have paths : ((layout.moves.values.map fun move => (move.modulePath, move.source)).map
      Prod.fst).Nodup := by
    simpa [Function.comp_def] using distinct
  rw [byModulePath, Ledger.find?_ofList_eq_some_iff _ paths, List.mem_map]
  constructor
  · rintro ⟨move, listed, same⟩
    obtain ⟨rfl, rfl⟩ := Prod.mk.inj same
    exact ⟨move, (keyed.mem_values_iff move).mp listed, rfl⟩
  · rintro ⟨move, found, rfl⟩
    obtain rfl := keyed source move found
    exact ⟨move, (keyed.mem_values_iff move).mpr found, rfl⟩

end Conflicts

end Layout

end FeatureLayout
