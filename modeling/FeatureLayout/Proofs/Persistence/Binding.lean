import FeatureLayout.Diagnostic
import FeatureLayout.Persistence.Contract
import FeatureLayout.Proofs.Basic
import FeatureLayout.Proofs.Ledger

/-!
# What calls are bound to

A binding leads from an operation and a resource to all contract entries that serve them. A call is
bound only to an entry that is alone in this, and passes as many arguments as it takes. Of the calls
that are not bound, those for resources that no feature owns are let pass; all others either are
fatal or have several entries compete for them, and the competition is fatal.
-/

namespace FeatureLayout

open Text

/-- What a call asks a contract entry to serve. -/
def StorageCall.asked (call : StorageCall) : BindingKey := (call.operation, call.resource.key?)

namespace Binding

/-- The entries that serve a key. -/
def servers (contract : List ContractEntry) (key : BindingKey) : List ContractEntry :=
  contract.filter (·.served = key)

/-- A binding leads from a key to the entries that serve it. -/
theorem getD_find?_grouped (contract : List ContractEntry) (key : BindingKey) :
    ((grouped contract).entries.find? key).getD [] = servers contract key := by
  have entered := Ledger.getD_find?_grouped (·.served) id contract .empty key
  simpa [grouped, servers] using entered

/-- A binding that is made of a contract groups its entries. -/
theorem eq_grouped_of_ofContract {contract : List ContractEntry} {binding : Binding}
    (made : ofContract contract = .ok binding) : binding = grouped contract := by
  unfold ofContract at made
  dsimp only at made
  split at made
  · cases made
  · split at made
    · cases made
    · exact (Except.ok.inj made).symm

/-- Competing entries are a fatal conflict. -/
theorem exists_conflict {binding : Binding} {key : BindingKey} {first second : ContractEntry}
    {others : List ContractEntry}
    (competing : binding.entries.find? key = some (first :: second :: others)) :
    ∃ problem ∈ binding.conflicts, problem.isFatal = true := by
  have listed : first :: second :: others ∈ binding.contested := by
    refine List.mem_filter.mpr ⟨?_, by simp⟩
    exact List.mem_map.mpr ⟨_, (Ledger.find?_eq_some_iff _ _ _).mp competing, rfl⟩
  exact ⟨_, List.mem_flatMap.mpr ⟨_, listed, List.mem_singleton.mpr rfl⟩, rfl⟩

end Binding

namespace StorageCall

variable {scope : Scope} {binding : Binding} {call : StorageCall}

/-- All that can become of a call, each with what has to hold for it. -/
inductive Settled (scope : Scope) (binding : Binding) (call : StorageCall) : Verdict → Prop where
  | outOfScope (unowned : scope.resourceOwner call.resource = .ok none) :
      Settled scope binding call (.refused (.outOfScope call))
  | refused (problem : Diagnostic) (fatal : problem.isFatal = true) :
      Settled scope binding call (.refused problem)
  | contested (first second : ContractEntry) (others : List ContractEntry)
      (competing : binding.entries.find? call.asked = some (first :: second :: others)) :
      Settled scope binding call .contested
  | bound (owner : String) (entry : ContractEntry)
      (owned : scope.resourceOwner call.resource = .ok (some owner))
      (alone : binding.entries.find? call.asked = some [entry])
      (arguments : call.arguments.length = entry.params.length)
      (result : call.fitsResult entry = .ok true) :
      Settled scope binding call (.bound entry)

/-- A call that is compared with an entry is bound to it when it fits, and refused otherwise. -/
theorem compare_cases {entry : ContractEntry} {verdict : Verdict}
    (compared : call.compare entry = .ok verdict) :
    (verdict = .bound entry ∧ call.arguments.length = entry.params.length ∧
        call.fitsResult entry = .ok true) ∨
      ∃ problem, verdict = .refused problem ∧ problem.isFatal = true := by
  unfold compare at compared
  split_ifs at compared with arguments
  · obtain rfl := Except.ok.inj compared
    exact Or.inr ⟨_, rfl, rfl⟩
  · obtain ⟨fits, result, rfl⟩ := map_eq_ok.mp compared
    cases fits with
    | true => exact Or.inl ⟨rfl, not_not.mp arguments, result⟩
    | false => exact Or.inr ⟨_, rfl, rfl⟩

/-- Looking for the contract entry of a call does nothing else. -/
theorem settled_of_bind {verdict : Verdict} (looked : call.bind scope binding = .ok verdict) :
    Settled scope binding call verdict := by
  unfold bind at looked
  split_ifs at looked with null lists
  · obtain rfl := Except.ok.inj looked
    exact .refused _ rfl
  · obtain rfl := Except.ok.inj looked
    exact .refused _ rfl
  · obtain ⟨owner, owned, looked⟩ := bind_eq_ok.mp looked
    cases owner with
    | none =>
      obtain rfl := Except.ok.inj looked
      exact .outOfScope owned
    | some owner =>
      dsimp only at looked
      split at looked
      · obtain rfl := Except.ok.inj looked
        exact .refused _ rfl
      · obtain rfl := Except.ok.inj looked
        exact .refused _ rfl
      · next entry alone =>
        rcases compare_cases looked with ⟨rfl, arguments, result⟩ | ⟨problem, rfl, fatal⟩
        · exact .bound owner entry owned alone arguments result
        · exact .refused problem fatal
      · next group filled several competing =>
        obtain rfl := Except.ok.inj looked
        cases group with
        | nil => exact absurd rfl filled
        | cons first rest =>
          cases rest with
          | nil => exact absurd rfl (several first)
          | cons second others => exact .contested first second others competing

end StorageCall

end FeatureLayout
