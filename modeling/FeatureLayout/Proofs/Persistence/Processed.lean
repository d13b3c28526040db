import FeatureLayout.Proofs.Persistence.Accounted

/-!
# The edits of a replaced call

Whatever plan is carried out, the calls that are recorded as replaced are those of texts that were
processed, and the edits of such a text are the replacements of its calls and the line that is added
to it. A text that is planned more than once is processed to the same edits again. Each replaced call
has one edit at its place, which writes what its contract entry renders.
-/

namespace FeatureLayout

open Text

namespace Substitution

variable {scope : Scope} {index : SourceIndex} {layout : Layout} {binding : Binding}
  {before after substitution : Substitution} {source content : String} {file : SourceFile}
  {outcomes : List (StorageCall × Outcome)} {added : Option Edit}
  {pair : StorageCall × ContractEntry}

/-- What comes out for the calls of a text, and the edits that are recorded of it. -/
structure Processed (scope : Scope) (index : SourceIndex) (binding : Binding)
    (substitution : Substitution) (source : String) (file : SourceFile) (content : String)
    (outcomes : List (StorageCall × Outcome)) (added : Option Edit) : Prop where
  indexed : index.file? source = some file
  read : file.content = some content
  calls : StorageCall.allIn scope.storage content.toList source = .ok (outcomes.map Prod.fst)
  came : ∀ outcome ∈ outcomes, outcomeOf scope binding outcome.1 = .ok outcome.2
  imported : interfaceImport scope.storage content.toList file.imports = .ok added
  edits : substitution.editsFor source = Edit.ordered (replacements outcomes ++ added.toList)

/-- What is recorded as replaced belongs to a processed text. -/
def Covered (scope : Scope) (index : SourceIndex) (binding : Binding)
    (substitution : Substitution) : Prop :=
  ∀ pair ∈ substitution.substituted, ∃ file content outcomes added,
    Processed scope index binding substitution pair.1.file file content outcomes added ∧
      pair ∈ bindings outcomes

/-- A call that is bound to an entry is replaced by what the entry renders. -/
theorem exists_of_outcomeOf {call : StorageCall} {outcome : Outcome} {entry : ContractEntry}
    (came : outcomeOf scope binding call = .ok outcome) (bound : outcome.entry = some entry) :
    ∃ text, call.bind scope binding = .ok (.bound entry) ∧
      StorageCall.render scope.storage entry call.arguments = .ok text ∧
      outcome = ⟨some ⟨call.span, text⟩, some entry, false, none⟩ := by
  obtain ⟨verdict, looked, came⟩ := bind_eq_ok.mp came
  cases verdict with
  | refused problem | contested =>
    obtain rfl := Except.ok.inj came
    cases bound
  | bound found =>
    obtain ⟨text, rendered, came⟩ := bind_eq_ok.mp came
    obtain rfl := Except.ok.inj came
    obtain rfl := Option.some.inj bound
    exact ⟨text, eq_ok_of_mapError looked, rendered, rfl⟩

/-- Texts with bound calls have replacements. -/
theorem replacements_ne_nil
    (came : ∀ outcome ∈ outcomes, outcomeOf scope binding outcome.1 = .ok outcome.2)
    (listed : pair ∈ bindings outcomes) : replacements outcomes ≠ [] := by
  obtain ⟨outcome, there, bound⟩ := List.mem_filterMap.mp listed
  obtain ⟨entry, given, -⟩ := Option.map_eq_some_iff.mp bound
  obtain ⟨text, -, -, same⟩ := exists_of_outcomeOf (came outcome there) given
  have replaced : ⟨outcome.1.span, text⟩ ∈ replacements outcomes :=
    List.mem_filterMap.mpr ⟨outcome, there, by rw [same]⟩
  exact List.ne_nil_of_mem replaced

/-- The same calls have the same outcomes. -/
theorem outcomes_unique {others : List (StorageCall × Outcome)}
    (came : ∀ outcome ∈ outcomes, outcomeOf scope binding outcome.1 = .ok outcome.2)
    (also : ∀ outcome ∈ others, outcomeOf scope binding outcome.1 = .ok outcome.2)
    (same : outcomes.map Prod.fst = others.map Prod.fst) : outcomes = others := by
  induction outcomes generalizing others with
  | nil => exact (List.map_eq_nil_iff.mp same.symm).symm
  | cons outcome rest inductionHypothesis =>
    cases others with
    | nil => cases same
    | cons other more =>
      obtain ⟨call, later⟩ := List.cons.inj same
      obtain ⟨first, further⟩ := List.forall_mem_cons.mp came
      obtain ⟨second, furthermore⟩ := List.forall_mem_cons.mp also
      have result : outcome.2 = other.2 := Except.ok.inj (first.symm.trans (call ▸ second))
      rw [Prod.ext call result, inductionHypothesis further furthermore later]

/-- Processing a text with replacements enters what comes out for its calls. -/
theorem addFile_eq_ok
    (calls : StorageCall.allIn scope.storage content.toList source = .ok (outcomes.map Prod.fst))
    (came : ∀ outcome ∈ outcomes, outcomeOf scope binding outcome.1 = .ok outcome.2)
    (some : replacements outcomes ≠ [])
    (imported : interfaceImport scope.storage content.toList file.imports = .ok added) :
    addFile scope binding before file source content = .ok {
      edits := before.edits.put source (Edit.ordered (replacements outcomes ++ added.toList))
      substituted := before.substituted ++ bindings outcomes
      flagged := before.flagged ++ spared outcomes
      errors := before.errors ++ outcomes.filterMap (·.2.error) } := by
  have each : (outcomes.map Prod.fst).mapM (fun call =>
      (outcomeOf scope binding call).map fun outcome => (call, outcome)) = .ok outcomes := by
    refine mapM_eq_ok.mpr (List.forall₂_map_left_iff.mpr (List.forall₂_same.mpr ?_))
    exact fun outcome listed => map_eq_ok.mpr ⟨outcome.2, came outcome listed, rfl⟩
  have filled : (outcomes.filterMap (·.2.edit)).isEmpty = false := by
    rw [← Bool.not_eq_true, List.isEmpty_iff]
    exact some
  refine bind_eq_ok.mpr ⟨_, by rw [calls]; rfl, bind_eq_ok.mpr ⟨_, each, ?_⟩⟩
  simp only [filled, imported]
  rfl

/-- Processing a text without calls enters nothing. -/
theorem addFile_eq_self (none : StorageCall.allIn scope.storage content.toList source = .ok []) :
    addFile scope binding before file source content = .ok before := by
  rw [addFile, none]
  simp [Except.mapError, bind, Except.bind, pure, Except.pure]

/-- A text with replacements is processed when its outcomes are entered. -/
theorem Entered.processed (indexed : index.file? source = some file)
    (read : file.content = some content)
    (entered : Entered scope binding before file source content outcomes added after)
    (some : replacements outcomes ≠ []) :
    Processed scope index binding after source file content outcomes added := by
  obtain ⟨imported, edits⟩ := entered.something some
  refine ⟨indexed, read, entered.calls, entered.came, imported, ?_⟩
  rw [editsFor, edits, Ledger.find?_put, if_pos rfl, Option.getD_some]

/-- A processed text stays so when outcomes are entered for any text.

When they are entered for the same text once more, they are the same. -/
theorem Processed.entered {other : SourceFile} {place whole : String}
    {others : List (StorageCall × Outcome)} {more : Option Edit}
    (processed : Processed scope index binding before source file content outcomes added)
    (indexed : index.file? place = some other) (read : other.content = some whole)
    (entered : Entered scope binding before other place whole others more after) :
    Processed scope index binding after source file content outcomes added := by
  refine ⟨processed.indexed, processed.read, processed.calls, processed.came, processed.imported,
    ?_⟩
  by_cases none : replacements others = []
  · rw [editsFor, (entered.nothing none).2]
    exact processed.edits
  · obtain ⟨imported, edits⟩ := entered.something none
    by_cases again : place = source
    · subst again
      obtain rfl := Option.some.inj (processed.indexed.symm.trans indexed)
      obtain rfl := Option.some.inj (processed.read.symm.trans read)
      have calls := Except.ok.inj (processed.calls.symm.trans entered.calls)
      obtain rfl := outcomes_unique processed.came entered.came calls
      obtain rfl := Except.ok.inj (processed.imported.symm.trans imported)
      rw [editsFor, edits, Ledger.find?_put, if_pos rfl, Option.getD_some]
    · rw [editsFor, edits, Ledger.find?_put, if_neg again]
      exact processed.edits

/-- Processing a move keeps what is recorded of processed texts. -/
theorem Covered.addMove {move : Move} (covered : Covered scope index binding before)
    (processed : addMove scope index binding before move = .ok after) :
    Covered scope index binding after := by
  rcases addMove_cases processed with rfl | ⟨file, content, outcomes, added, indexed, read, entered⟩
  · exact covered
  · intro pair listed
    rw [entered.substituted] at listed
    rcases List.mem_append.mp listed with old | new
    · obtain ⟨other, whole, others, more, recorded, among⟩ := covered pair old
      exact ⟨other, whole, others, more, recorded.entered indexed read entered, among⟩
    · have own := entered.file_of_mem_bindings new
      rw [own]
      exact ⟨file, content, outcomes, added,
        entered.processed indexed read (replacements_ne_nil entered.came new), new⟩

/-- What a plan records as replaced belongs to processed texts. -/
theorem exists_covered (made : ofLayout scope index layout = .ok substitution) :
    ∃ binding, Covered scope index binding substitution := by
  obtain ⟨binding, -, run⟩ := bind_eq_ok.mp ((ofLayout_eq scope index layout).symm.trans made)
  have kept := related_of_foldlM
    (fun before after => Covered scope index binding before → Covered scope index binding after)
    (fun _ => id) (fun one two covered => two (one covered))
    (fun _ _ _ _ processed covered => covered.addMove processed) run
  exact ⟨binding, kept fun _ absent => absurd absent List.not_mem_nil⟩

/-- The line that is added to a text stands between two of its characters. -/
theorem Processed.inserts
    (processed : Processed scope index binding substitution source file content outcomes added)
    {edit : Edit} (given : edit ∈ added.toList) :
    Inserts scope.storage.importLine.content content.toList edit := by
  have imported := processed.imported
  rw [Option.mem_toList.mp given] at imported
  exact inserts_of_interfaceImport imported

/-- Each replacement of a text is that of one of its calls. -/
theorem Processed.exists_of_mem_replacements
    (processed : Processed scope index binding substitution source file content outcomes added)
    {edit : Edit} (listed : edit ∈ replacements outcomes) :
    ∃ call entry, call ∈ outcomes.map Prod.fst ∧ edit.span = call.span ∧
      call.bind scope binding = .ok (.bound entry) ∧
      StorageCall.render scope.storage entry call.arguments = .ok edit.replacement := by
  obtain ⟨⟨call, outcome⟩, there, edits⟩ := List.mem_filterMap.mp listed
  have came := processed.came _ there
  have handled := handled_of_outcomeOf came
  dsimp only at edits came handled
  obtain ⟨entry, given⟩ : ∃ entry, outcome.entry = some entry := by
    cases handled with
    | replaced owner entry => exact ⟨entry, rfl⟩
    | flagged unowned => cases edits
    | failed problem fatal => cases edits
    | contested first second others competing => cases edits
  obtain ⟨text, bound, rendered, rfl⟩ := exists_of_outcomeOf came given
  obtain rfl := Option.some.inj edits
  exact ⟨call, entry, List.mem_map_of_mem there, rfl, bound, rendered⟩

/-- A replaced call has an edit at its place, and all edits there write what its entry renders. -/
theorem Processed.rendered
    (processed : Processed scope index binding substitution source file content outcomes added)
    (listed : pair ∈ bindings outcomes) :
    pair.1.bind scope binding = .ok (.bound pair.2) ∧
    (∃ edit ∈ substitution.editsFor source, edit.span = pair.1.span) ∧
    ∀ edit ∈ substitution.editsFor source, edit.span = pair.1.span →
      StorageCall.render scope.storage pair.2 pair.1.arguments = .ok edit.replacement := by
  obtain ⟨⟨call, outcome⟩, there, bound⟩ := List.mem_filterMap.mp listed
  obtain ⟨entry, given, rfl⟩ := Option.map_eq_some_iff.mp bound
  obtain ⟨text, binds, renders, same⟩ := exists_of_outcomeOf (processed.came _ there) given
  have written (edit : Edit) : edit ∈ substitution.editsFor source ↔
      edit ∈ replacements outcomes ∨ edit ∈ added.toList := by
    rw [processed.edits, (Edit.ordered_perm _).mem_iff, List.mem_append]
  refine ⟨binds, ⟨⟨call.span, text⟩, (written _).mpr (Or.inl ?_), rfl⟩, fun edit among place => ?_⟩
  · exact List.mem_filterMap.mpr ⟨_, there, by rw [same]⟩
  · rcases (written edit).mp among with own | line
    · obtain ⟨other, found, also, span, alike, result⟩ := processed.exists_of_mem_replacements own
      have one : other = call :=
        List.inj_on_of_nodup_map (spans_nodup processed.calls) also (List.mem_map_of_mem there)
          (span.symm.trans place)
      subst one
      rw [binds] at alike
      cases alike
      exact result
    · have stands := StorageCall.standsIn_of_mem processed.calls (List.mem_map_of_mem there)
      have empty := (processed.inserts line).empty
      have forward := stands.forward
      dsimp only at place forward
      rw [place] at empty
      omega

end Substitution

end FeatureLayout
