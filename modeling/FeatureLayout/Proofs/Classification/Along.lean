import FeatureLayout.Proofs.Classification.Exact

/-!
# Owners along imports

What reaches a file reaches everything behind it, so the reaching features grow along imports. The
owned files are closed under imports, and a file behind one that a feature owns belongs to the same
feature or is shared. Behind a kept file there may be files of any owner.

In the other direction, a file in front of one that a feature owns belongs to that feature, if any
feature reaches it. So a feature owns the way to each of its files from an entry point on.
-/

namespace FeatureLayout

namespace Owner

/-- What some feature reaches has an owner. -/
theorem exists_ofReaching {names : List String} (reached : names ≠ []) :
    ∃ owner, ofReaching names = some owner := by
  match names, reached with
  | [name], _ => exact ⟨ofText name, rfl⟩
  | _ :: _ :: _, _ => exact ⟨shared, rfl⟩

/-- What nothing reaches has no owner. -/
theorem ne_nil_of_ofReaching {names : List String} {owner : Owner}
    (owned : ofReaching names = some owner) : names ≠ [] := by
  rintro rfl
  exact absurd owned (by simp [ofReaching])

/-- A feature that owns a file through what reaches it is all that reaches it. -/
theorem eq_of_ofReaching {names : List String} {name : String}
    (owned : ofReaching names = some (feature name)) :
    names = [name] ∧ ofText name = feature name := by
  match names, owned with
  | [single], owned =>
    have known : ofText single = feature name := Option.some.inj owned
    have same : single = name := by
      unfold ofText at known
      split at known
      · exact absurd known (by simp)
      · exact feature.inj known
    exact ⟨congrArg (fun name => [name]) same, same ▸ known⟩

/-- A file that a feature reaches belongs to it or is shared, if the feature owns anything. -/
theorem ofReaching_of_mem {names : List String} {name : String} (present : name ∈ names)
    (known : ofText name = feature name) :
    ofReaching names = some (feature name) ∨ ofReaching names = some shared := by
  match names, present with
  | [single], present =>
    obtain rfl : name = single := List.mem_singleton.mp present
    exact Or.inl (congrArg some known)
  | _ :: _ :: _, _ => exact Or.inr rfl

end Owner

namespace Classification

variable (scope : Scope) {graph : UsageGraph}

/-- The features that reach a file reach what it leads to. -/
theorem reachingOf_mono (built : graph.Built) {path target : String}
    (listed : path ∈ graph.files) (route : graph.Reaches path target) {name : String}
    (reached : name ∈ (ofGraph scope graph).reachingOf path) :
    name ∈ (ofGraph scope graph).reachingOf target := by
  have source := (mem_reachingIn scope built listed name).mp reached
  exact (mem_reachingIn scope built (built.reaches_mem listed route) name).mpr (source.trans route)

/-- Only files of the graph are owned. -/
theorem mem_files_of_owner? {path : String} {owner : Owner}
    (owned : (ofGraph scope graph).owner? path = some owner) : path ∈ graph.files := by
  have key : path ∈ (ofGraph scope graph).owners.keys :=
    (Ledger.mem_keys_iff _ path).mpr ⟨owner, owned⟩
  exact (partition_ofGraph scope graph).mem_iff.mp (List.mem_append_left _ key)

/-- An owned file is kept, or owned by what reaches it. -/
theorem owner?_cases (built : graph.Built) {path : String} {owner : Owner}
    (owned : (ofGraph scope graph).owner? path = some owner) :
    (path ∈ (ofGraph scope graph).retained ∧ owner = .shared) ∨
      Owner.ofReaching ((ofGraph scope graph).reachingOf path) = some owner := by
  have listed := mem_files_of_owner? scope owned
  by_cases kept : path ∈ (ofGraph scope graph).retained
  · have shared := owner?_of_retained scope built kept
    exact Or.inl ⟨kept, Option.some.inj (owned.symm.trans shared)⟩
  · rw [owner?_of_mem scope listed, ownerIn, if_neg (by simpa using kept)] at owned
    exact Or.inr owned

/-- What an owned file leads to is owned: if no feature reaches it, then it is kept with the file
that leads to it. -/
theorem exists_owner_along (built : graph.Built) {path target : String} {owner : Owner}
    (owned : (ofGraph scope graph).owner? path = some owner) (route : graph.Reaches path target) :
    ∃ other, (ofGraph scope graph).owner? target = some other := by
  have listed := mem_files_of_owner? scope owned
  have inside := built.reaches_mem listed route
  by_cases nothing : (ofGraph scope graph).reachingOf target = []
  · rcases owner?_cases scope built owned with ⟨kept, -⟩ | through
    · obtain ⟨-, -, root, present, empty, keeps, before⟩ := (mem_retained scope built path).mp kept
      have alsoKept : target ∈ (ofGraph scope graph).retained :=
        (mem_retained scope built target).mpr ⟨inside, nothing, root, present, empty, keeps,
          Relation.ReflTransGen.trans before route⟩
      exact ⟨.shared, owner?_of_retained scope built alsoKept⟩
    · obtain ⟨name, reached⟩ := List.exists_mem_of_ne_nil _ (Owner.ne_nil_of_ofReaching through)
      have later := reachingOf_mono scope built listed route reached
      rw [nothing] at later
      exact absurd later List.not_mem_nil
  · obtain ⟨other, found⟩ := Owner.exists_ofReaching nothing
    exact ⟨other, (owner?_of_reached scope built inside nothing).trans found⟩

/-- What a file of a feature leads to belongs to the feature or is shared. -/
theorem owner?_along_feature (built : graph.Built) {path target name : String}
    (owned : (ofGraph scope graph).owner? path = some (.feature name))
    (route : graph.Reaches path target) :
    (ofGraph scope graph).owner? target = some (.feature name) ∨
      (ofGraph scope graph).owner? target = some .shared := by
  have listed := mem_files_of_owner? scope owned
  have inside := built.reaches_mem listed route
  rcases owner?_cases scope built owned with ⟨-, absurd⟩ | through
  · cases absurd
  · obtain ⟨single, known⟩ := Owner.eq_of_ofReaching through
    have reached : name ∈ (ofGraph scope graph).reachingOf target :=
      reachingOf_mono scope built listed route (by simp [single])
    rw [owner?_of_reached scope built inside (List.ne_nil_of_mem reached)]
    exact Owner.ofReaching_of_mem reached known

/-- What leads to a file of a feature belongs to the feature, if anything reaches it. -/
theorem owner?_in_front (built : graph.Built) {path target name : String}
    (listed : path ∈ graph.files) (reached : (ofGraph scope graph).reachingOf path ≠ [])
    (route : graph.Reaches path target)
    (owned : (ofGraph scope graph).owner? target = some (.feature name)) :
    (ofGraph scope graph).owner? path = some (.feature name) := by
  rcases owner?_cases scope built owned with ⟨-, absurd⟩ | through
  · cases absurd
  · obtain ⟨single, known⟩ := Owner.eq_of_ofReaching through
    have only : ∀ other ∈ (ofGraph scope graph).reachingOf path, other = name := fun other among =>
      List.mem_singleton.mp (single ▸ reachingOf_mono scope built listed route among)
    have once : ((ofGraph scope graph).reachingOf path).Nodup := reachingIn_nodup scope built path
    have alone : (ofGraph scope graph).reachingOf path = [name] := by
      match features : (ofGraph scope graph).reachingOf path, reached with
      | [first], _ => rw [only first (by simp [features])]
      | first :: second :: rest, _ =>
        rw [features] at only once
        have same : first = second := (only first (by simp)).trans (only second (by simp)).symm
        simp [same] at once
    rw [owner?_of_reached scope built listed reached, alone, Owner.ofReaching, known]

/-- A file of a feature lies behind an entry point that the feature owns. -/
theorem exists_owned_entry (built : graph.Built) (distinct : (scope.features.map (·.name)).Nodup)
    {feature : Feature} (declared : feature ∈ scope.features) {path : String}
    (owned : (ofGraph scope graph).owner? path = some (.feature feature.name)) :
    ∃ entry ∈ feature.entryPoints,
      (ofGraph scope graph).owner? entry = some (.feature feature.name) ∧
        graph.Reaches entry path := by
  have listed := mem_files_of_owner? scope owned
  rcases owner?_cases scope built owned with ⟨-, absurd⟩ | through
  · cases absurd
  · obtain ⟨single, -⟩ := Owner.eq_of_ofReaching through
    have reached : feature.name ∈ (ofGraph scope graph).reachingOf path := by simp [single]
    obtain ⟨other, present, named, entry, entering, inside, route⟩ :=
      (mem_reachingIn scope built listed feature.name).mp reached
    obtain rfl : other = feature := List.inj_on_of_nodup_map distinct present declared named
    have entered : other.name ∈ (ofGraph scope graph).reachingOf entry :=
      (mem_reachingIn scope built inside other.name).mpr
        ⟨other, present, rfl, entry, entering, inside, Relation.ReflTransGen.refl⟩
    exact ⟨entry, entering,
      owner?_in_front scope built inside (List.ne_nil_of_mem entered) route owned, route⟩

end Classification

end FeatureLayout
