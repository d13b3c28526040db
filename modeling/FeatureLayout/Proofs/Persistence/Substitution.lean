import FeatureLayout.Persistence.Substitution
import FeatureLayout.Proofs.Layout
import FeatureLayout.Proofs.Persistence.Binding
import FeatureLayout.Proofs.Persistence.Call

/-!
# What is recorded of a file

Substituting the calls of a file gives one outcome for each call: it is flagged, or it is replaced,
or something is fatal. The outcomes of a file are recorded behind those of the files before it, and
its edits under its own name, so that what is recorded of one file stays as it is while the others
are processed.
-/

namespace FeatureLayout

open Text Code

namespace Substitution

section Outcomes

variable {scope : Scope} {binding : Binding} {call : StorageCall}

/-- All that can come out for a call, each with what has to hold for it. -/
inductive Handled (scope : Scope) (binding : Binding) (call : StorageCall) : Outcome → Prop where
  | flagged (unowned : scope.resourceOwner call.resource = .ok none) :
      Handled scope binding call ⟨none, none, true, some (.outOfScope call)⟩
  | failed (problem : Diagnostic) (fatal : problem.isFatal = true) :
      Handled scope binding call ⟨none, none, false, some problem⟩
  | contested (first second : ContractEntry) (others : List ContractEntry)
      (competing : binding.entries.find? call.asked = some (first :: second :: others)) :
      Handled scope binding call ⟨none, none, false, none⟩
  | replaced (owner : String) (entry : ContractEntry) (text : String)
      (owned : scope.resourceOwner call.resource = .ok (some owner))
      (alone : binding.entries.find? call.asked = some [entry])
      (arguments : call.arguments.length = entry.params.length)
      (rendered : StorageCall.render scope.storage entry call.arguments = .ok text) :
      Handled scope binding call ⟨some ⟨call.span, text⟩, some entry, false, none⟩

/-- Nothing else comes out for a call. -/
theorem handled_of_outcomeOf {outcome : Outcome}
    (came : outcomeOf scope binding call = .ok outcome) : Handled scope binding call outcome := by
  obtain ⟨verdict, looked, came⟩ := bind_eq_ok.mp came
  have settled := StorageCall.settled_of_bind (eq_ok_of_mapError looked)
  cases settled with
  | outOfScope unowned =>
    obtain rfl := Except.ok.inj came
    exact .flagged unowned
  | refused problem fatal =>
    have other : (problem.code == .outOfScopeCall) = false := by
      refine beq_eq_false_iff_ne.mpr fun same => ?_
      rw [Diagnostic.isFatal, same] at fatal
      cases fatal
    obtain rfl := Except.ok.inj came
    rw [other]
    exact .failed problem fatal
  | contested first second others competing =>
    obtain rfl := Except.ok.inj came
    exact .contested first second others competing
  | bound owner entry owned alone arguments result =>
    obtain ⟨text, rendered, came⟩ := bind_eq_ok.mp came
    obtain rfl := Except.ok.inj came
    exact .replaced owner entry text owned alone arguments rendered

end Outcomes

section Entered

/-- The replacements among the outcomes of calls. -/
def replacements (outcomes : List (StorageCall × Outcome)) : List Edit :=
  outcomes.filterMap (·.2.edit)

/-- The calls with a replacement, each with the entry that it is bound to. -/
def bindings (outcomes : List (StorageCall × Outcome)) : List (StorageCall × ContractEntry) :=
  outcomes.filterMap fun outcome => outcome.2.entry.map fun entry => (outcome.1, entry)

/-- The calls that are flagged. -/
def spared (outcomes : List (StorageCall × Outcome)) : List StorageCall :=
  (outcomes.filter (·.2.flagged)).map (·.1)

variable {scope : Scope} {binding : Binding} {before after : Substitution} {file : SourceFile}
  {source content : String}

/-- What processing a file enters: one outcome for each of its calls, and its edits when there are
replacements. -/
structure Entered (scope : Scope) (binding : Binding) (before : Substitution) (file : SourceFile)
    (source content : String) (outcomes : List (StorageCall × Outcome)) (added : Option Edit)
    (after : Substitution) : Prop where
  calls : StorageCall.allIn scope.storage content.toList source = .ok (outcomes.map Prod.fst)
  came : ∀ outcome ∈ outcomes, outcomeOf scope binding outcome.1 = .ok outcome.2
  nothing : replacements outcomes = [] → added = none ∧ after.edits = before.edits
  something : replacements outcomes ≠ [] →
    interfaceImport scope.storage content.toList file.imports = .ok added ∧
      after.edits =
        before.edits.put source (Edit.ordered (replacements outcomes ++ added.toList))
  substituted : after.substituted = before.substituted ++ bindings outcomes
  flagged : after.flagged = before.flagged ++ spared outcomes
  errors : after.errors = before.errors ++ outcomes.filterMap (·.2.error)

/-- Attempts that keep their input list all inputs, each with what comes out for it. -/
theorem outcomes_of_mapM {calls : List StorageCall} {outcomes : List (StorageCall × Outcome)}
    (came : List.Forall₂ (fun call outcome =>
      (outcomeOf scope binding call).map (fun found => (call, found)) = .ok outcome)
      calls outcomes) :
    outcomes.map Prod.fst = calls ∧
      ∀ outcome ∈ outcomes, outcomeOf scope binding outcome.1 = .ok outcome.2 := by
  induction came with
  | nil => exact ⟨rfl, fun _ absent => absurd absent List.not_mem_nil⟩
  | cons head tail inductionHypothesis =>
    obtain ⟨found, first, rfl⟩ := map_eq_ok.mp head
    obtain ⟨calls, others⟩ := inductionHypothesis
    refine ⟨by rw [List.map_cons, calls], fun outcome listed => ?_⟩
    rcases List.mem_cons.mp listed with rfl | later
    · exact first
    · exact others outcome later

/-- Processing a file enters just that. -/
theorem exists_entered_of_addFile
    (processed : addFile scope binding before file source content = .ok after) :
    ∃ outcomes added, Entered scope binding before file source content outcomes added after := by
  obtain ⟨calls, found, processed⟩ := bind_eq_ok.mp processed
  obtain ⟨outcomes, came, processed⟩ := bind_eq_ok.mp processed
  obtain ⟨kept, each⟩ := outcomes_of_mapM (mapM_eq_ok.mp came)
  have located := kept ▸ eq_ok_of_mapError found
  dsimp only at processed
  split at processed
  · next none =>
    obtain rfl := Except.ok.inj processed
    have nothing : replacements outcomes = [] := List.isEmpty_iff.mp none
    exact ⟨outcomes, Option.none, located, each, fun _ => ⟨rfl, rfl⟩,
      fun some => absurd nothing some, rfl, rfl, rfl⟩
  · next some =>
    obtain ⟨added, imported, written⟩ := bind_eq_ok.mp processed
    obtain rfl := Except.ok.inj written
    have something : replacements outcomes ≠ [] := fun none => some (List.isEmpty_iff.mpr none)
    exact ⟨outcomes, added, located, each, fun none => absurd none something,
      fun _ => ⟨imported, rfl⟩, rfl, rfl, rfl⟩

end Entered

section Run

variable {scope : Scope} {index : SourceIndex} {binding : Binding} {before after : Substitution}
  {move : Move}

/-- Processes the file of a move, if it has a text. -/
def addMove (scope : Scope) (index : SourceIndex) (binding : Binding) (substitution : Substitution)
    (move : Move) : Except Fault Substitution :=
  match (index.file? move.source).bind fun file => file.content.map (file, ·) with
  | none => pure substitution
  | some (file, content) => addFile scope binding substitution file move.source content

/-- All planned files are processed one after another. -/
theorem ofLayout_eq (scope : Scope) (index : SourceIndex) (layout : Layout) :
    ofLayout scope index layout =
      ((Binding.ofContract scope.contract).mapError Fault.setting >>= fun binding =>
        layout.moves.values.foldlM (addMove scope index binding)
          ⟨.empty, [], [], binding.conflicts⟩) := rfl

/-- Processing a move changes nothing, or processes a text. -/
theorem addMove_cases (processed : addMove scope index binding before move = .ok after) :
    after = before ∨ ∃ file content outcomes added, index.file? move.source = some file ∧
      file.content = some content ∧
      Entered scope binding before file move.source content outcomes added after := by
  unfold addMove at processed
  split at processed
  · exact Or.inl (Except.ok.inj processed).symm
  · next file content located =>
    obtain ⟨listed, found, pair⟩ := Option.bind_eq_some_iff.mp located
    obtain ⟨text, read, same⟩ := Option.map_eq_some_iff.mp pair
    obtain ⟨rfl, rfl⟩ := Prod.mk.inj same
    obtain ⟨outcomes, added, entered⟩ := exists_entered_of_addFile processed
    exact Or.inr ⟨listed, text, outcomes, added, found, read, entered⟩

/-- What is recorded grows: errors stay, and calls that come in are bound to the only entry that
serves them. -/
structure Grows (binding : Binding) (before after : Substitution) : Prop where
  errors : before.errors ⊆ after.errors
  substituted : ∀ pair ∈ after.substituted, pair ∈ before.substituted ∨
    binding.entries.find? pair.1.asked = some [pair.2]

theorem Grows.refl (binding : Binding) (substitution : Substitution) :
    Grows binding substitution substitution := ⟨List.Subset.refl _, fun _ => Or.inl⟩

theorem Grows.trans {first second third : Substitution} (one : Grows binding first second)
    (two : Grows binding second third) : Grows binding first third where
  errors := List.Subset.trans one.errors two.errors
  substituted pair listed :=
    (two.substituted pair listed).elim (one.substituted pair) Or.inr

/-- A call with an entry is bound to it. -/
theorem alone_of_mem_bindings {outcomes : List (StorageCall × Outcome)}
    (came : ∀ outcome ∈ outcomes, outcomeOf scope binding outcome.1 = .ok outcome.2)
    {pair : StorageCall × ContractEntry} (listed : pair ∈ bindings outcomes) :
    binding.entries.find? pair.1.asked = some [pair.2] := by
  obtain ⟨⟨call, outcome⟩, there, bound⟩ := List.mem_filterMap.mp listed
  obtain ⟨entry, given, rfl⟩ := Option.map_eq_some_iff.mp bound
  have handled := handled_of_outcomeOf (came _ there)
  dsimp only at given handled
  cases handled with
  | replaced owner found text owned alone arguments rendered =>
    obtain rfl := Option.some.inj given
    exact alone
  | flagged unowned => cases given
  | failed problem fatal => cases given
  | contested first second others competing => cases given

/-- Processing a move lets what is recorded grow. -/
theorem grows_of_addMove (processed : addMove scope index binding before move = .ok after) :
    Grows binding before after := by
  rcases addMove_cases processed with rfl | ⟨file, content, outcomes, added, -, -, entered⟩
  · exact .refl binding after
  · constructor
    case errors =>
      rw [entered.errors]
      exact List.subset_append_left _ _
    case substituted =>
      intro pair listed
      rw [entered.substituted] at listed
      exact (List.mem_append.mp listed).imp_right (alone_of_mem_bindings entered.came)

/-- The replaced calls of a file, with the entries that they are bound to. -/
def replacedIn (substitution : Substitution) (source : String) :
    List (StorageCall × ContractEntry) :=
  substitution.substituted.filter (·.1.file = source)

/-- The flagged calls of a file. -/
def flaggedIn (substitution : Substitution) (source : String) : List StorageCall :=
  substitution.flagged.filter (·.file = source)

/-- What is recorded of a file stays as it is. -/
structure SameAt (source : String) (before after : Substitution) : Prop where
  edits : after.editsFor source = before.editsFor source
  replaced : after.replacedIn source = before.replacedIn source
  flagged : after.flaggedIn source = before.flaggedIn source

theorem SameAt.refl (source : String) (substitution : Substitution) :
    SameAt source substitution substitution := ⟨rfl, rfl, rfl⟩

theorem SameAt.trans {source : String} {first second third : Substitution}
    (one : SameAt source first second) (two : SameAt source second third) :
    SameAt source first third where
  edits := two.edits.trans one.edits
  replaced := two.replaced.trans one.replaced
  flagged := two.flagged.trans one.flagged

variable {file : SourceFile} {source content : String} {outcomes : List (StorageCall × Outcome)}
  {added : Option Edit}

/-- All calls of a file are recorded as its own. -/
theorem Entered.file_eq
    (entered : Entered scope binding before file source content outcomes added after)
    {outcome : StorageCall × Outcome} (listed : outcome ∈ outcomes) : outcome.1.file = source :=
  (StorageCall.standsIn_of_mem entered.calls (List.mem_map_of_mem listed)).file

theorem Entered.file_of_mem_bindings
    (entered : Entered scope binding before file source content outcomes added after)
    {pair : StorageCall × ContractEntry} (listed : pair ∈ bindings outcomes) :
    pair.1.file = source := by
  obtain ⟨outcome, there, bound⟩ := List.mem_filterMap.mp listed
  obtain ⟨entry, -, rfl⟩ := Option.map_eq_some_iff.mp bound
  exact entered.file_eq there

theorem Entered.file_of_mem_spared
    (entered : Entered scope binding before file source content outcomes added after)
    {call : StorageCall} (listed : call ∈ spared outcomes) : call.file = source := by
  obtain ⟨outcome, there, rfl⟩ := List.mem_map.mp listed
  exact entered.file_eq (List.mem_filter.mp there).1

/-- Processing another file leaves what is recorded of a file. -/
theorem sameAt_of_addMove (processed : addMove scope index binding before move = .ok after)
    (other : move.source ≠ source) : SameAt source before after := by
  rcases addMove_cases processed with rfl | ⟨file, content, outcomes, added, -, -, entered⟩
  · exact .refl source after
  · constructor
    case edits =>
      by_cases none : replacements outcomes = []
      · rw [editsFor, (entered.nothing none).2, editsFor]
      · rw [editsFor, (entered.something none).2, Ledger.find?_put, if_neg other, editsFor]
    case replaced =>
      have elsewhere : (bindings outcomes).filter (·.1.file = source) = [] := by
        refine List.filter_eq_nil_iff.mpr fun pair listed => ?_
        rw [entered.file_of_mem_bindings listed, decide_eq_true_eq]
        exact other
      rw [replacedIn, entered.substituted, List.filter_append, elsewhere, List.append_nil,
        replacedIn]
    case flagged =>
      have elsewhere : (spared outcomes).filter (·.file = source) = [] := by
        refine List.filter_eq_nil_iff.mpr fun call listed => ?_
        rw [entered.file_of_mem_spared listed, decide_eq_true_eq]
        exact other
      rw [flaggedIn, entered.flagged, List.filter_append, elsewhere, List.append_nil, flaggedIn]

/-- What is recorded of a file when it is processed first: its own outcomes. -/
structure RecordedAt (source : String) (outcomes : List (StorageCall × Outcome))
    (added : Option Edit) (substitution : Substitution) : Prop where
  edits : substitution.editsFor source =
    if replacements outcomes = [] then []
    else Edit.ordered (replacements outcomes ++ added.toList)
  replaced : substitution.replacedIn source = bindings outcomes
  flagged : substitution.flaggedIn source = spared outcomes

theorem RecordedAt.sameAt (recorded : RecordedAt source outcomes added before)
    (same : SameAt source before after) : RecordedAt source outcomes added after where
  edits := same.edits.trans recorded.edits
  replaced := same.replaced.trans recorded.replaced
  flagged := same.flagged.trans recorded.flagged

/-- Processing a file of which nothing is recorded yet records its own outcomes. -/
theorem Entered.recordedAt
    (entered : Entered scope binding before file source content outcomes added after)
    (edits : before.editsFor source = []) (replaced : before.replacedIn source = [])
    (flagged : before.flaggedIn source = []) : RecordedAt source outcomes added after := by
  constructor
  case edits =>
    split_ifs with none
    · rw [editsFor, (entered.nothing none).2]
      exact edits
    · rw [editsFor, (entered.something none).2, Ledger.find?_put, if_pos rfl, Option.getD_some]
  case replaced =>
    have own : (bindings outcomes).filter (·.1.file = source) = bindings outcomes :=
      List.filter_eq_self.mpr fun pair listed => by
        rw [entered.file_of_mem_bindings listed, decide_eq_true_eq]
    rw [replacedIn] at replaced ⊢
    rw [entered.substituted, List.filter_append, replaced, own, List.nil_append]
  case flagged =>
    have own : (spared outcomes).filter (·.file = source) = spared outcomes :=
      List.filter_eq_self.mpr fun call listed => by
        rw [entered.file_of_mem_spared listed, decide_eq_true_eq]
    rw [flaggedIn] at flagged ⊢
    rw [entered.flagged, List.filter_append, flagged, own, List.nil_append]

end Run

end Substitution

end FeatureLayout
