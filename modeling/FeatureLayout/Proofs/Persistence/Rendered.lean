import FeatureLayout.Proofs.Persistence.Processed
import FeatureLayout.Scope.Config

/-!
# Which template a call is replaced through

The template of a contract entry is asked for twice: the comparison of result types is left out when
it is not null, and the replacement is written through it when it counts as given. A template that is
set and empty is neither, so its entry may return anything, although the calls that are bound to it
are written through the template of the interface.
-/

namespace FeatureLayout

open Text

namespace StorageCall

variable {storage : StorageInterface} {call : StorageCall} {entry : ContractEntry}
  {arguments : List String} {text : String}

/-- A template makes a text of an entry and of the arguments of a call. -/
def Writes (template : Value) (entry : ContractEntry) (arguments : List String) (text : String) :
    Prop :=
  ∃ content, template = .text content ∧
    Template.fill content (offered entry arguments) = .ok text

/-- Two result types have the same parts. -/
def SameParts (first second : Option String) : Prop :=
  ∀ part, part ∈ resultShape first ↔ part ∈ resultShape second

/-- What is rendered is written by one of the two templates. -/
theorem writes_of_render (rendered : render storage entry arguments = .ok text) :
    Writes (templateOf storage entry) entry arguments text := by
  unfold render at rendered
  split at rendered
  · next content given => exact ⟨content, given, eq_ok_of_mapError rendered⟩
  · cases rendered

theorem sameShape_iff {first second : Option String} :
    sameShape first second = true ↔ SameParts first second := by
  simp only [sameShape, Bool.and_eq_true, List.all_eq_true, List.contains_iff_mem, SameParts]
  constructor
  · rintro ⟨one, other⟩ part
    exact ⟨one part, other part⟩
  · intro same
    exact ⟨fun part => (same part).mp, fun part => (same part).mpr⟩

/-- A call fits an entry when the entry has a template that is not null, or returns what the local
call returned. -/
theorem fitsResult_iff : call.fitsResult entry = .ok true ↔
    entry.template.isNull = false ∨ (entry.returns.isMisfit = false ∧
      SameParts entry.returns.text? (some call.operation.localResult)) := by
  unfold fitsResult
  cases null : entry.template.isNull with
  | false => simp
  | true =>
    cases misfit : entry.returns.isMisfit with
    | true => simp
    | false => simp [sameShape_iff]

/-- A call is bound to an entry when it passes as many arguments as the entry takes, and fits it. -/
theorem compare_eq_bound_iff : call.compare entry = .ok (.bound entry) ↔
    call.arguments.length = entry.params.length ∧ call.fitsResult entry = .ok true := by
  constructor
  · intro bound
    rcases compare_cases bound with ⟨-, arguments, result⟩ | ⟨problem, other, -⟩
    · exact ⟨arguments, result⟩
    · cases other
  · rintro ⟨arguments, result⟩
    rw [compare, if_neg (not_not.mpr arguments), result]
    rfl

end StorageCall

namespace Substitution

open StorageCall hiding bind

variable {scope : Scope} {index : SourceIndex} {layout : Layout} {substitution : Substitution}
  {pair : StorageCall × ContractEntry}

/-- Each call that is recorded as replaced has an edit at its place. What the edit writes comes from
the template of the entry if this one counts as given, and from the template of the interface if not.
When the template of the entry is null, the entry returns what the local call returned. When it is
not null, the call is bound to the entry whatever it returns, and this is so even if its template
does not count as given and the template of the interface is used. -/
theorem rendered_exact (made : ofLayout scope index layout = .ok substitution)
    (listed : pair ∈ substitution.substituted) :
    (∃ edit ∈ substitution.editsFor pair.1.file, edit.span = pair.1.span) ∧
    (∀ edit ∈ substitution.editsFor pair.1.file, edit.span = pair.1.span →
      Writes (if pair.2.template.isGiven then pair.2.template else scope.storage.callTemplate)
        pair.2 pair.1.arguments edit.replacement) ∧
    (pair.2.template.isNull = true → pair.2.returns.isMisfit = false ∧
      SameParts pair.2.returns.text? (some pair.1.operation.localResult)) ∧
    (pair.2.template.isNull = false → ∀ returns,
      let other := { pair.2 with returns := returns }
      pair.1.compare other = .ok (.bound other)) := by
  obtain ⟨binding, covered⟩ := exists_covered made
  obtain ⟨file, content, outcomes, added, processed, among⟩ := covered pair listed
  obtain ⟨bound, written, renders⟩ := processed.rendered among
  obtain ⟨arguments, result⟩ : pair.1.arguments.length = pair.2.params.length ∧
      pair.1.fitsResult pair.2 = .ok true := by
    cases settled_of_bind bound with
    | bound owner entry owned alone arguments result => exact ⟨arguments, result⟩
  refine ⟨written, fun edit there place => writes_of_render (renders edit there place),
    fun null => ?_, fun set returns => ?_⟩
  · refine (fitsResult_iff.mp result).resolve_left ?_
    rw [null]
    exact Bool.noConfusion
  · exact compare_eq_bound_iff.mpr ⟨arguments, fitsResult_iff.mpr (Or.inl set)⟩

section Counting

theorem rendered_exact_user :
    ofLayout storingScope storingIndex storingLayout = .ok storingSubstitution ∧
      (userCall, loadUser) ∈ storingSubstitution.substituted ∧
      Writes storingScope.storage.callTemplate loadUser [] "api.loadUser()" ∧
      SameParts (some "string | null") (some Operation.read.localResult) := by
  have listed : (userCall, loadUser) ∈ storingSubstitution.substituted := List.mem_singleton.mpr rfl
  obtain ⟨-, writes, shape, -⟩ := rendered_exact ofLayout_storing listed
  exact ⟨ofLayout_storing, listed, writes userEdit (by decide) rfl, (shape rfl).2⟩

/-- Settings of a contract entry with an empty template that returns a number. -/
def countingSettings : Value := .table [
  ("features", .table [("one", .table [("entry_points", .list [.text "a.ts"]),
    ("resources", .list [.text "user"])])]),
  ("persistence", .table [("calls", .table [("localStorage.getItem", .text "read")])]),
  ("contract", .list [.table [("name", .text "countUsers"), ("operation", .text "read"),
    ("resource", .text "user"), ("path", .text "/users"), ("returns", .text "number"),
    ("template", .text "")]])]

/-- The contract entry. -/
def countUsers : ContractEntry :=
  ⟨.text "countUsers", .read, .text "user", "GET", .text "/users", [], .text "number", .text ""⟩

/-- The scope of the settings. -/
def countingScope : Scope where
  root := ["src"]
  features := [⟨"one", ["a.ts"], [.text "user"]⟩]
  excluded := []
  retain := []
  sourceAlias := .text "@/"
  targetAlias := .text "@/"
  bucket kind := .text kind.usualBucket
  storage := ⟨Ledger.ofList [("localStorage.getItem", .read)],
    .text StorageInterface.usualTemplate, .text StorageInterface.usualImport, .null⟩
  contract := [countUsers]
  jobs := 4
  configFile := none

/-- The edit that replaces the first call. -/
def countedEdit : Edit := ⟨⟨14, 42⟩, "api.countUsers()"⟩

/-- What becomes of the two calls. -/
def countingSubstitution : Substitution where
  edits := Ledger.ofList [("a.ts", [clientEdit, countedEdit])]
  substituted := [(userCall, countUsers)]
  flagged := [themeCall]
  errors := [.outOfScope themeCall]

/-- What comes out for the two calls. -/
def countingOutcomes : List (StorageCall × Outcome) :=
  [(userCall, ⟨some countedEdit, some countUsers, false, none⟩),
    (themeCall, ⟨none, none, true, some (.outOfScope themeCall)⟩)]

theorem addFile_counting :
    addFile countingScope (.grouped countingScope.contract) ⟨.empty, [], [], []⟩ storingFile "a.ts"
      storingText = .ok countingSubstitution := by
  have came : ∀ outcome ∈ countingOutcomes,
      outcomeOf countingScope (.grouped countingScope.contract) outcome.1 = .ok outcome.2 := by
    simp only [countingOutcomes, List.forall_mem_cons, List.not_mem_nil, false_implies,
      implies_true, and_true]
    exact ⟨by cbv, by cbv⟩
  have calls : StorageCall.allIn countingScope.storage storingText.toList "a.ts" =
      .ok (countingOutcomes.map Prod.fst) := allIn_storing
  have imported : interfaceImport countingScope.storage storingText.toList storingFile.imports =
      .ok (some clientEdit) := rfl
  have order : Edit.ordered (replacements countingOutcomes ++ [clientEdit]) =
      [clientEdit, countedEdit] := by cbv
  rw [addFile_eq_ok calls came (List.cons_ne_nil _ _) imported, Option.toList_some, order]
  rfl

theorem ofLayout_counting :
    ofLayout countingScope storingIndex storingLayout = .ok countingSubstitution := by
  have none : StorageCall.allIn countingScope.storage "".toList "b.ts" = .ok [] := by cbv
  rw [ofLayout_eq, moves_storing]
  exact bind_eq_ok.mpr ⟨_, rfl, bind_eq_ok.mpr ⟨_, addFile_counting,
    bind_eq_ok.mpr ⟨_, addFile_eq_self none, rfl⟩⟩⟩

/-- A call is replaced through the template of the interface by an entry that returns something
else, because the template of the entry is empty and not null. -/
theorem rendered_other_result :
    Scope.ofValue ["src"] countingSettings = .ok countingScope ∧
      ofLayout countingScope storingIndex storingLayout = .ok countingSubstitution ∧
      (userCall, countUsers) ∈ countingSubstitution.substituted ∧
      countedEdit ∈ countingSubstitution.editsFor userCall.file ∧
      countedEdit.span = userCall.span ∧
      ¬ Writes countUsers.template countUsers [] countedEdit.replacement ∧
      Writes countingScope.storage.callTemplate countUsers [] countedEdit.replacement ∧
      ¬ SameParts countUsers.returns.text? (some userCall.operation.localResult) := by
  refine ⟨rfl, ofLayout_counting, List.mem_singleton.mpr rfl, by decide, rfl, ?_,
    ⟨_, rfl, by cbv⟩, ?_⟩
  · rintro ⟨content, given, written⟩
    obtain rfl := Value.text.inj given
    have empty : Template.fill "" (offered countUsers []) = .ok "" := by cbv
    exact absurd (Except.ok.inj (empty.symm.trans written)) (by decide)
  · intro same
    have among : "number" ∈ resultShape (some Operation.read.localResult) :=
      (same "number").mp (by decide +kernel)
    exact absurd among (by decide +kernel)

end Counting

end Substitution

end FeatureLayout
