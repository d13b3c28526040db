import FeatureLayout.Proofs.Basic
import FeatureLayout.Scope.Config

/-!
# What an accepted configuration promises

Every feature of a scope that was read off a configuration has passed the checks of its entry: its
name is a feature name, it has entry points, and none of them lies in an excluded folder.
-/

namespace FeatureLayout

namespace Scope

/-- What is checked of a single feature. -/
structure Admitted (excluded : List String) (feature : Feature) : Prop where
  named : isFeatureName feature.name = true
  entered : feature.entryPoints ≠ []
  inside : ∀ entry ∈ feature.entryPoints, excluded.any (liesIn entry) = false

/-- A feature that is read has been admitted. -/
theorem featureOf_admitted {excluded : List String} {owners later : Owners} {name : String}
    {value : Value} {feature : Feature}
    (accepted : featureOf excluded owners name value = .ok (feature, later)) :
    Admitted excluded feature := by
  unfold featureOf at accepted
  by_cases named : isFeatureName name = true
  case neg => simp [named, refuse, bind, Except.bind] at accepted
  simp only [named, Bool.not_true, Bool.false_eq_true, if_false, bind_eq_ok] at accepted
  obtain ⟨settings, -, texts, -, rest⟩ := accepted
  by_cases none : (texts.map Path.relative).isEmpty = true
  case pos => simp [none, refuse, bind, Except.bind] at rest
  simp only [none, Bool.false_eq_true, if_false] at rest
  cases found : (texts.map Path.relative).find? fun entry => excluded.any (liesIn entry) with
  | some entry => simp [found, refuse, bind, Except.bind] at rest
  | none =>
    simp only [found, bind_eq_ok] at rest
    obtain ⟨items, -, resources, -, claimed, -, same⟩ := rest
    obtain ⟨rfl, -⟩ := Prod.mk.inj (Except.ok.inj same)
    refine ⟨named, by simpa using none, fun entry listed => ?_⟩
    simpa using List.find?_eq_none.mp found entry listed

/-- All features that are read have been admitted. -/
theorem featuresOf_admitted {excluded : List String} {owners : Owners}
    {named : List (String × Value)} {features : List Feature}
    (accepted : featuresOf excluded owners named = .ok features) :
    ∀ feature ∈ features, Admitted excluded feature := by
  induction named generalizing owners features with
  | nil =>
    obtain rfl : [] = features := Except.ok.inj accepted
    exact fun _ absent => absurd absent List.not_mem_nil
  | cons entry rest inductionHypothesis =>
    obtain ⟨name, value⟩ := entry
    simp only [featuresOf, bind_eq_ok] at accepted
    obtain ⟨⟨feature, later⟩, read, others, remaining, same⟩ := accepted
    obtain rfl : feature :: others = features := Except.ok.inj same
    exact List.forall_mem_cons.mpr ⟨featureOf_admitted read, inductionHypothesis remaining⟩

/-- The features of an accepted scope have been admitted. -/
theorem ofValue_admitted {base : Location} {config : Value} {scope : Scope}
    (accepted : ofValue base config = .ok scope) :
    ∀ feature ∈ scope.features, Admitted scope.excluded feature := by
  unfold ofValue at accepted
  simp only [bind_eq_ok] at accepted
  obtain ⟨settings, -, root, -, excluded, -, named, -, rest⟩ := accepted
  by_cases nothing : named.isEmpty = true
  case pos => simp [nothing, refuse, bind, Except.bind] at rest
  simp only [nothing, Bool.false_eq_true, if_false, pure_bind, bind_eq_ok] at rest
  obtain ⟨features, read, table, -, bucket, -, jobs, -, rest⟩ := rest
  by_cases few : jobs < 1
  case pos => simp [few, refuse, bind, Except.bind] at rest
  simp only [few, if_false, bind_eq_ok] at rest
  obtain ⟨retain, -, rest⟩ := rest
  have kept : scope.features = features ∧ scope.excluded = excluded.map Path.relative := by
    split at rest
    · simp only [bind_eq_ok] at rest
      obtain ⟨storage, -, entries, -, contract, -, same⟩ := rest
      obtain rfl := Except.ok.inj same
      exact ⟨rfl, rfl⟩
    · simp only [bind_eq_ok] at rest
      obtain ⟨entries, -, contract, -, same⟩ := rest
      obtain rfl := Except.ok.inj same
      exact ⟨rfl, rfl⟩
  rw [kept.1, kept.2]
  exact featuresOf_admitted read

end Scope

end FeatureLayout
