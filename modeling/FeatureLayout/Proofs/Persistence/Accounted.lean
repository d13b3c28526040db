import FeatureLayout.Proofs.Code.Edited
import FeatureLayout.Proofs.Edit
import FeatureLayout.Proofs.Index.Consistent
import FeatureLayout.Proofs.Persistence.Substitution
import FeatureLayout.Proofs.Rewrite.Imports
import FeatureLayout.Proofs.Rewrite.Staged
import Mathlib

/-!
# Every storage call is accounted for

When nothing fatal is found, each call of a planned text is recorded once: it is flagged, and then
no feature owns its resource, or it is replaced by what the only contract entry for it renders. The
staged text is the text of the file with the edits of its imports, of its replaced calls and with at
most one line inserted, each in its own place.
-/

namespace FeatureLayout

open Text Code

namespace Substitution

section Import

variable {storage : StorageInterface} {text : List Char}

/-- An edit that adds a line to a text, with a line break at one end. -/
structure Inserts (line : String) (text : List Char) (edit : Edit) : Prop where
  empty : edit.span.start = edit.span.stop
  ends : edit.span.stop ≤ text.length
  adds : ∃ newline, (newline = "\n" ∨ newline = "\r\n") ∧
    (edit.replacement = line ++ newline ∨ edit.replacement = newline ++ line)

/-- A line that is inserted behind an offset is inserted into the text. -/
theorem inserts_insertAfter (text : List Char) (offset : Nat) (line : String) {newline : String}
    (breaks : newline = "\n" ∨ newline = "\r\n") :
    Inserts line text (insertAfter text offset line newline) := by
  unfold insertAfter nextLine?
  cases afterLine (text.drop offset) with
  | none => exact ⟨rfl, Nat.le_refl _, newline, breaks, Or.inr rfl⟩
  | some rest => exact ⟨rfl, Nat.sub_le _ _, newline, breaks, Or.inl rfl⟩

/-- The import of a storage interface is inserted into the text. -/
theorem inserts_of_interfaceImport {imports : List ImportRef} {added : Edit}
    (imported : interfaceImport storage text imports = .ok (some added)) :
    Inserts storage.importLine.content text added := by
  unfold interfaceImport at imported
  split at imported
  · cases imported
  · have found := eq_ok_of_mapError imported
    unfold importEdit at found
    split at found
    · cases Except.ok.inj found
    · have breaks : (if occursIn "\r\n".toList text then "\r\n" else "\n") = "\n" ∨
          (if occursIn "\r\n".toList text then "\r\n" else "\n") = "\r\n" := by
        split
        · exact Or.inr rfl
        · exact Or.inl rfl
      dsimp only at found
      split at found
      · obtain rfl := Option.some.inj (Except.ok.inj found)
        exact inserts_insertAfter text _ _ breaks
      · obtain ⟨masked, -, found⟩ := map_eq_ok.mp found
        split at found
        · obtain rfl := Option.some.inj found
          exact ⟨rfl, Nat.zero_le _, _, breaks, Or.inl rfl⟩
        · obtain rfl := Option.some.inj found
          exact inserts_insertAfter text _ _ breaks

end Import

section Accounted

/-- What is recorded of the calls at the place of a call: the replaced ones. -/
def replacedAt (substitution : Substitution) (call : StorageCall) :
    List (StorageCall × ContractEntry) :=
  (substitution.replacedIn call.file).filter (·.1.span = call.span)

/-- What is recorded of the calls at the place of a call: the flagged ones. -/
def flaggedAt (substitution : Substitution) (call : StorageCall) : List StorageCall :=
  (substitution.flaggedIn call.file).filter (·.span = call.span)

/-- A call that is left as it is: no feature owns its resource. -/
structure LeftAlone (scope : Scope) (substitution : Substitution) (call : StorageCall) :
    Prop where
  unowned : scope.resourceOwner call.resource = .ok none
  flagged : substitution.flaggedAt call = [call]
  kept : substitution.replacedAt call = []

/-- A call that is replaced: a single contract entry serves it and takes its arguments. -/
structure BoundTo (scope : Scope) (substitution : Substitution) (call : StorageCall)
    (entry : ContractEntry) : Prop where
  owned : ∃ owner, scope.resourceOwner call.resource = .ok (some owner)
  only : Binding.servers scope.contract call.asked = [entry]
  arguments : call.arguments.length = entry.params.length
  replaced : substitution.replacedAt call = [(call, entry)]
  unflagged : substitution.flaggedAt call = []

/-- A text that is made of another one by edits: those of its imports, one for each replaced call,
and at most one that inserts a line. When the edits of imports lie in the text, all of them stand in
a row and each replacement takes the place of its own stretch. -/
structure Composed (storage : StorageInterface) (imports : List Edit)
    (calls : List (StorageCall × ContractEntry)) (content : List Char) (replaced : List Edit)
    (added : Option Edit) (text : List Char) : Prop where
  rendered : List.Forall₂ (fun pair edit => edit.span = pair.1.span ∧
    StorageCall.render storage pair.2 pair.1.arguments = .ok edit.replacement) calls replaced
  inserted : ∀ edit, added = some edit → calls ≠ [] ∧ Inserts storage.importLine.content content edit
  applied : Edit.applyAll (imports ++ replaced ++ added.toList) content = .ok text
  spliced : (∀ edit ∈ imports, edit.Within content) →
    ∃ edits, edits.Perm (imports ++ replaced ++ added.toList) ∧ Edit.InRow edits ∧
      text = Edit.spliced content 0 edits

/-- Every call of a file is left alone or bound, and its staged text is composed accordingly. -/
structure Accounted (scope : Scope) (rewrite : ImportRewrite) (substitution : Substitution)
    (staged : Staged) (source content : String) (calls : List StorageCall) : Prop where
  found : StorageCall.allIn scope.storage content.toList source = .ok calls
  settled : ∀ call ∈ calls, LeftAlone scope substitution call ∨
    ∃ entry, BoundTo scope substitution call entry
  composed : ∃ replaced added text,
    Composed scope.storage (rewrite.editsFor source) (substitution.replacedIn source)
      content.toList replaced added text ∧
    staged.texts.find? source = some (String.ofList text)

variable {scope : Scope} {index : SourceIndex} {layout : Layout} {substitution : Substitution}

/-- What is recorded of a planned text is what comes out for its calls. -/
theorem exists_recordedAt (keyed : layout.Keyed)
    (made : ofLayout scope index layout = .ok substitution) {source : String} {move : Move}
    (planned : layout.move? source = some move) {file : SourceFile}
    (indexed : index.file? source = some file) {content : String}
    (read : file.content = some content) :
    ∃ before after outcomes added,
      Entered scope (.grouped scope.contract) before file source content outcomes added after ∧
      RecordedAt source outcomes added substitution ∧ after.errors ⊆ substitution.errors ∧
      (Binding.grouped scope.contract).conflicts ⊆ substitution.errors := by
  obtain ⟨binding, grouped, run⟩ := bind_eq_ok.mp ((ofLayout_eq scope index layout).symm.trans made)
  obtain rfl := Binding.eq_grouped_of_ofContract (eq_ok_of_mapError grouped)
  obtain rfl := keyed source move planned
  obtain ⟨front, back, split⟩ := List.append_of_mem ((keyed.mem_values_iff move).mpr planned)
  have distinct := keyed.sources_nodup
  rw [split, List.map_append, List.map_cons] at distinct
  obtain ⟨-, later, apart⟩ := List.nodup_append.mp distinct
  have others : ∀ other ∈ front, other.source ≠ move.source := fun other listed =>
    apart _ (List.mem_map_of_mem listed) _ List.mem_cons_self
  have further : ∀ other ∈ back, other.source ≠ move.source := fun other listed same =>
    (List.nodup_cons.mp later).1 (same ▸ List.mem_map_of_mem listed)
  have all : Grows (.grouped scope.contract) _ substitution :=
    related_of_foldlM (Grows (.grouped scope.contract)) (Grows.refl _) Grows.trans
      (fun _ _ _ _ => grows_of_addMove) run
  rw [split, List.foldlM_append] at run
  obtain ⟨before, early, run⟩ := bind_eq_ok.mp run
  rw [List.foldlM_cons] at run
  obtain ⟨after, here, late⟩ := bind_eq_ok.mp run
  have first := related_of_foldlM (SameAt move.source) (SameAt.refl _) SameAt.trans
    (fun _ other listed _ processed => sameAt_of_addMove processed (others other listed)) early
  have last := related_of_foldlM (SameAt move.source) (SameAt.refl _) SameAt.trans
    (fun _ other listed _ processed => sameAt_of_addMove processed (further other listed)) late
  have grows := related_of_foldlM (Grows (.grouped scope.contract)) (Grows.refl _) Grows.trans
    (fun _ _ _ _ => grows_of_addMove) late
  unfold addMove at here
  rw [indexed, Option.bind_some, read, Option.map_some] at here
  obtain ⟨outcomes, added, entered⟩ := exists_entered_of_addFile here
  exact ⟨before, after, outcomes, added, entered,
    (entered.recordedAt first.edits first.replaced first.flagged).sameAt last, grows.errors,
    all.errors⟩

/-- What comes out for a call when nothing is fatal: it is flagged or replaced. -/
theorem handled_cases (clear : ∀ problem ∈ (Binding.grouped scope.contract).conflicts,
      problem.isFatal = false) {call : StorageCall} {outcome : Outcome}
    (came : outcomeOf scope (.grouped scope.contract) call = .ok outcome)
    (fine : ∀ problem, outcome.error = some problem → problem.isFatal = false) :
    (scope.resourceOwner call.resource = .ok none ∧
      outcome = ⟨none, none, true, some (.outOfScope call)⟩) ∨
    ∃ owner entry text, scope.resourceOwner call.resource = .ok (some owner) ∧
      Binding.servers scope.contract call.asked = [entry] ∧
      call.arguments.length = entry.params.length ∧
      StorageCall.render scope.storage entry call.arguments = .ok text ∧
      outcome = ⟨some ⟨call.span, text⟩, some entry, false, none⟩ := by
  have handled := handled_of_outcomeOf came
  cases handled with
  | flagged unowned => exact Or.inl ⟨unowned, rfl⟩
  | failed problem fatal => exact absurd (fine problem rfl) (by simp [fatal])
  | contested first second others competing =>
    obtain ⟨problem, reported, fatal⟩ := Binding.exists_conflict competing
    exact absurd (clear problem reported) (by simp [fatal])
  | replaced owner entry text owned alone arguments rendered =>
    have only := Binding.getD_find?_grouped scope.contract call.asked
    rw [alone] at only
    exact Or.inr ⟨owner, entry, text, owned, only.symm, arguments, rendered, rfl⟩

/-- The bound calls at a place come from the outcomes there. -/
theorem filter_bindings (outcomes : List (StorageCall × Outcome)) (span : Span) :
    (bindings outcomes).filter (·.1.span = span) =
      bindings (outcomes.filter (·.1.span = span)) := by
  induction outcomes with
  | nil => rfl
  | cons outcome rest inductionHypothesis =>
    obtain ⟨call, edit, entry, flagged, error⟩ := outcome
    by_cases here : call.span = span
    · cases entry with
      | none => simpa [bindings, here] using inductionHypothesis
      | some entry => simpa [bindings, here] using inductionHypothesis
    · cases entry with
      | none => simpa [bindings, here] using inductionHypothesis
      | some entry => simpa [bindings, here] using inductionHypothesis

/-- The flagged calls at a place come from the outcomes there. -/
theorem filter_spared (outcomes : List (StorageCall × Outcome)) (span : Span) :
    (spared outcomes).filter (·.span = span) = spared (outcomes.filter (·.1.span = span)) := by
  rw [spared, spared, List.filter_map, List.filter_filter, List.filter_filter]
  simp only [Function.comp_def, Bool.and_comm]

/-- The calls of a text stand at different places. -/
theorem spans_nodup {interface : StorageInterface} {text : List Char} {file : String}
    {calls : List StorageCall} (found : StorageCall.allIn interface text file = .ok calls) :
    (calls.map (·.span)).Nodup := by
  refine List.Nodup.of_map (·.start) ?_
  rw [List.map_map]
  exact (StorageCall.starts_increasing found).imp Nat.ne_of_lt

section Settled

variable {source content : String} {file : SourceFile} {before after : Substitution}
  {outcomes : List (StorageCall × Outcome)} {added : Option Edit}

/-- Every recorded call is left alone or bound, when nothing is fatal. -/
theorem RecordedAt.settled (recorded : RecordedAt source outcomes added substitution)
    (entered : Entered scope (.grouped scope.contract) before file source content outcomes added
      after)
    (clear : ∀ problem ∈ (Binding.grouped scope.contract).conflicts, problem.isFatal = false)
    (fine : ∀ problem ∈ after.errors, problem.isFatal = false)
    {call : StorageCall} (listed : call ∈ outcomes.map Prod.fst) :
    LeftAlone scope substitution call ∨ ∃ entry, BoundTo scope substitution call entry := by
  obtain ⟨⟨call, outcome⟩, there, rfl⟩ := List.mem_map.mp listed
  have distinct : (outcomes.map (·.1.span)).Nodup := by
    simpa [Function.comp_def] using spans_nodup entered.calls
  have single : outcomes.filter (·.1.span = call.span) = [(call, outcome)] :=
    filter_key_eq_singleton (·.1.span) distinct there
  have own : call.file = source := entered.file_eq there
  have replaced : substitution.replacedAt call = bindings [(call, outcome)] := by
    rw [replacedAt, own, recorded.replaced, filter_bindings, single]
  have flagged : substitution.flaggedAt call = spared [(call, outcome)] := by
    rw [flaggedAt, own, recorded.flagged, filter_spared, single]
  have harmless : ∀ problem, outcome.error = some problem → problem.isFatal = false := by
    intro problem reported
    apply fine
    rw [entered.errors]
    exact List.mem_append_right _ (List.mem_filterMap.mpr ⟨_, there, reported⟩)
  rcases handled_cases clear (entered.came _ there) harmless with
    ⟨unowned, same⟩ | ⟨owner, entry, text, owned, only, arguments, -, same⟩
  · dsimp only at same
    subst same
    exact Or.inl ⟨unowned, flagged, replaced⟩
  · dsimp only at same
    subst same
    exact Or.inr ⟨entry, ⟨owner, owned⟩, only, arguments, replaced, flagged⟩

/-- The replacements of bound calls are what their entries render. -/
theorem rendered_of_came (clear : ∀ problem ∈ (Binding.grouped scope.contract).conflicts,
      problem.isFatal = false)
    (came : ∀ outcome ∈ outcomes, outcomeOf scope (.grouped scope.contract) outcome.1 =
      .ok outcome.2)
    (fine : ∀ outcome ∈ outcomes, ∀ problem, outcome.2.error = some problem →
      problem.isFatal = false) :
    List.Forall₂ (fun pair edit => edit.span = pair.1.span ∧
      StorageCall.render scope.storage pair.2 pair.1.arguments = .ok edit.replacement)
      (bindings outcomes) (replacements outcomes) := by
  induction outcomes with
  | nil => exact .nil
  | cons outcome rest inductionHypothesis =>
    obtain ⟨call, outcome⟩ := outcome
    have later := inductionHypothesis
      (fun other listed => came other (List.mem_cons_of_mem _ listed))
      (fun other listed => fine other (List.mem_cons_of_mem _ listed))
    rcases handled_cases clear (came _ List.mem_cons_self) (fine _ List.mem_cons_self) with
      ⟨unowned, same⟩ | ⟨owner, entry, text, owned, only, arguments, renders, same⟩
    · dsimp only at same
      subst same
      exact later
    · dsimp only at same
      subst same
      exact .cons ⟨rfl, renders⟩ later

/-- The replacements of a file lie in its text. -/
theorem within_of_rendered {calls : List StorageCall}
    (found : StorageCall.allIn scope.storage content.toList source = .ok calls)
    {pairs : List (StorageCall × ContractEntry)} {replaced : List Edit}
    (rendered : List.Forall₂ (fun pair edit => edit.span = pair.1.span ∧
      StorageCall.render scope.storage pair.2 pair.1.arguments = .ok edit.replacement)
      pairs replaced)
    (listed : ∀ pair ∈ pairs, pair.1 ∈ calls) {edit : Edit} (among : edit ∈ replaced) :
    edit.Within content.toList := by
  obtain ⟨pair, there, span, -⟩ := exists_of_rel_mem rendered.flip among
  have stands := StorageCall.standsIn_of_mem found (listed pair there)
  constructor
  case forward =>
    rw [span]
    exact Nat.le_of_lt stands.forward
  case ends =>
    rw [span]
    exact stands.ends

/-- The edits of a file are its replacements and the inserted line, in some order. -/
theorem RecordedAt.edits_perm (recorded : RecordedAt source outcomes added substitution)
    (entered : Entered scope (.grouped scope.contract) before file source content outcomes added
      after) : (substitution.editsFor source).Perm (replacements outcomes ++ added.toList) := by
  rw [recorded.edits]
  split_ifs with none
  · rw [none, (entered.nothing none).1]
    exact .refl _
  · exact Edit.ordered_perm _

/-- When its edits are applied, the text of a file is composed of its own text and of them. -/
theorem RecordedAt.composed (recorded : RecordedAt source outcomes added substitution)
    (entered : Entered scope (.grouped scope.contract) before file source content outcomes added
      after)
    (rendered : List.Forall₂ (fun pair edit => edit.span = pair.1.span ∧
      StorageCall.render scope.storage pair.2 pair.1.arguments = .ok edit.replacement)
      (bindings outcomes) (replacements outcomes))
    {imports : List Edit} {text : List Char}
    (applied : Edit.applyAll (imports ++ substitution.editsFor source) content.toList = .ok text) :
    Composed scope.storage imports (substitution.replacedIn source) content.toList
      (replacements outcomes) added text := by
  have same : (imports ++ substitution.editsFor source).Perm
      (imports ++ replacements outcomes ++ added.toList) := by
    rw [List.append_assoc]
    exact (recorded.edits_perm entered).append_left imports
  have inserted : ∀ edit, added = some edit → substitution.replacedIn source ≠ [] ∧
      Inserts scope.storage.importLine.content content.toList edit := by
    intro edit given
    have some : replacements outcomes ≠ [] := by
      intro none
      rw [(entered.nothing none).1] at given
      cases given
    constructor
    · intro none
      rw [← recorded.replaced, none] at rendered
      exact some (List.forall₂_nil_left_iff.mp rendered)
    · have imported := (entered.something some).1
      rw [given] at imported
      exact inserts_of_interfaceImport imported
  have reordered := (Edit.applyAll_congr same content.toList).symm.trans applied
  constructor
  case rendered => rwa [recorded.replaced]
  case inserted => exact inserted
  case applied => exact reordered
  case spliced =>
    intro within
    have all : ∀ edit ∈ imports ++ replacements outcomes ++ added.toList,
        edit.Within content.toList := by
      intro edit listed
      simp only [List.mem_append, Option.mem_toList] at listed
      rcases listed with (own | call) | given
      · exact within edit own
      · apply within_of_rendered entered.calls rendered _ call
        intro pair there
        obtain ⟨outcome, came, bound⟩ := List.mem_filterMap.mp there
        obtain ⟨entry, -, rfl⟩ := Option.map_eq_some_iff.mp bound
        exact List.mem_map_of_mem came
      · obtain ⟨-, empty, ends, -⟩ := inserted edit given
        exact ⟨Nat.le_of_eq empty, ends⟩
    obtain ⟨row, placed⟩ := Edit.spliced_of_applyAll all reordered
    exact ⟨_, Edit.ordered_perm _, row, placed⟩

end Settled

/-- Calls that ask the same of the contract are bound to the same entry. -/
theorem entry_eq_of_asked (made : ofLayout scope index layout = .ok substitution)
    {one other : StorageCall × ContractEntry} (first : one ∈ substitution.substituted)
    (second : other ∈ substitution.substituted) (same : one.1.asked = other.1.asked) :
    one.2 = other.2 := by
  obtain ⟨binding, -, run⟩ := bind_eq_ok.mp ((ofLayout_eq scope index layout).symm.trans made)
  have grows := related_of_foldlM (Grows binding) (Grows.refl _) Grows.trans
    (fun _ _ _ _ => grows_of_addMove) run
  have bound (pair : StorageCall × ContractEntry) (listed : pair ∈ substitution.substituted) :
      binding.entries.find? pair.1.asked = some [pair.2] :=
    (grows.substituted pair listed).resolve_left List.not_mem_nil
  have entries := (bound one first).symm.trans (same ▸ bound other second)
  exact (List.cons.inj (Option.some.inj entries)).1

section Planned

variable {rewrite : ImportRewrite}

/-- When nothing fatal is found, the calls of a planned text are accounted for. -/
theorem exists_accounted (keyed : layout.Keyed)
    (made : ofLayout scope index layout = .ok substitution)
    (fine : ∀ problem ∈ substitution.errors ++
      (Staged.ofEdits index layout rewrite substitution).errors, problem.isFatal = false)
    {source : String} {move : Move} (planned : layout.move? source = some move)
    {file : SourceFile} (indexed : index.file? source = some file) {content : String}
    (read : file.content = some content) :
    ∃ calls, Accounted scope rewrite substitution
      (Staged.ofEdits index layout rewrite substitution) source content calls := by
  obtain ⟨before, after, outcomes, added, entered, recorded, errors, conflicts⟩ :=
    exists_recordedAt keyed made planned indexed read
  have own : ∀ problem ∈ substitution.errors, problem.isFatal = false := fun problem reported =>
    fine problem (List.mem_append_left _ reported)
  have clear : ∀ problem ∈ (Binding.grouped scope.contract).conflicts, problem.isFatal = false :=
    fun problem reported => own problem (conflicts reported)
  have harmless : ∀ problem ∈ after.errors, problem.isFatal = false := fun problem reported =>
    own problem (errors reported)
  have each : ∀ outcome ∈ outcomes, ∀ problem, outcome.2.error = some problem →
      problem.isFatal = false := by
    intro outcome listed problem reported
    apply harmless
    rw [entered.errors]
    exact List.mem_append_right _ (List.mem_filterMap.mpr ⟨outcome, listed, reported⟩)
  have rendered := rendered_of_came clear entered.came each
  obtain rfl := keyed source move planned
  have listed := (keyed.mem_values_iff move).mpr planned
  have text : (index.file? move.source).bind (·.content) = some content := by
    rw [indexed]
    exact read
  obtain ⟨result, applied⟩ := Staged.exists_applied_of_errors
    (fun problem reported => fine problem (List.mem_append_right _ reported)) listed text
  have staged : (Staged.ofEdits index layout rewrite substitution).texts.find? move.source =
      some (String.ofList result) := by
    rw [Staged.find?_ofEdits, if_pos (List.mem_map_of_mem listed), text, Option.map_some,
      Staged.textOf, applied]
  refine ⟨outcomes.map Prod.fst, entered.calls, ?settled, ?composed⟩
  case settled => exact fun call among => recorded.settled entered clear harmless among
  case composed =>
    exact ⟨replacements outcomes, added, result, recorded.composed entered rendered applied, staged⟩

/-- The edits of imports lie in the texts of a tree. -/
theorem within_of_mem_editsFor {paths : List String}
    {disk : String → Except ReadProblem String}
    (built : SourceIndex.ofTree scope paths disk = .ok index) (classification : Classification)
    (keyed : layout.Keyed) {source : String} {move : Move}
    (planned : layout.move? source = some move) {file : SourceFile}
    (indexed : index.file? source = some file) {content : String}
    (read : file.content = some content) {edit : Edit}
    (listed : edit ∈ (ImportRewrite.ofLayout scope index classification layout).editsFor source) :
    edit.Within content.toList := by
  have consistent := SourceIndex.consistent_ofTree built
  rw [ImportRewrite.editsFor_ofLayout scope index classification layout keyed planned indexed
    (consistent.silent source file indexed), (Edit.ordered_perm _).mem_iff,
    ImportRewrite.mem_editsOf scope layout (consistent.coherent source file indexed)] at listed
  obtain ⟨ref, among, target, goal, -, -, rfl⟩ := listed
  obtain ⟨masked, blanked, mirrors⟩ := SourceIndex.exists_mirrors built indexed read
  obtain ⟨found, there, span, -⟩ := mirrors.forth ref among
  exact Code.Import.within_of_quoted blanked (span ▸ Code.Import.quoted_of_mem_ofText there)

/-- When substituting calls and staging texts find nothing fatal, the calls of every planned text
are accounted for, and calls that ask the same of the contract are bound to the same entry. The
edits of imports lie in their texts when these are read off a tree. -/
theorem ofLayout_accounted (keyed : layout.Keyed)
    (made : ofLayout scope index layout = .ok substitution)
    (fine : ∀ problem ∈ substitution.errors ++
      (Staged.ofEdits index layout rewrite substitution).errors, problem.isFatal = false) :
    (∀ source move file content, layout.move? source = some move →
      index.file? source = some file → file.content = some content →
        ∃ calls, Accounted scope rewrite substitution
          (Staged.ofEdits index layout rewrite substitution) source content calls) ∧
    (∀ one ∈ substitution.substituted, ∀ other ∈ substitution.substituted,
      one.1.asked = other.1.asked → one.2 = other.2) ∧
    ∀ paths disk classification, SourceIndex.ofTree scope paths disk = .ok index →
      rewrite = ImportRewrite.ofLayout scope index classification layout →
        ∀ source move file content, layout.move? source = some move →
          index.file? source = some file → file.content = some content →
            ∀ edit ∈ rewrite.editsFor source, edit.Within content.toList := by
  refine ⟨?accounted, ?alike, ?within⟩
  case accounted =>
    intro source move file content planned indexed read
    exact exists_accounted keyed made fine planned indexed read
  case alike =>
    intro one first other second same
    exact entry_eq_of_asked made first second same
  case within =>
    rintro paths disk classification built rfl source move file content planned indexed read edit
      listed
    exact within_of_mem_editsFor built classification keyed planned indexed read listed

end Planned

section Storing

/-- A text with an import, a call that is replaced and a call that is left alone. -/
def storingText : String :=
  "import './b';\nlocalStorage.getItem('user');\nlocalStorage.getItem('theme');\n"

/-- The contract entry for the first call. -/
def loadUser : ContractEntry :=
  ⟨.text "loadUser", .read, .text "user", "GET", .text "/user", [], .text "string | null", .null⟩

/-- A scope whose only feature owns one of the two resources. -/
def storingScope : Scope where
  root := []
  features := [⟨"one", ["a.ts"], [.text "user"]⟩]
  excluded := []
  retain := []
  sourceAlias := .text "@/"
  targetAlias := .text "@/"
  bucket kind := .text kind.usualBucket
  storage :=
    { StorageInterface.usual with calls := Ledger.ofList [("localStorage.getItem", .read)] }
  contract := [loadUser]
  jobs := 1
  configFile := none

/-- The file with the calls. -/
def storingFile : SourceFile where
  path := "a.ts"
  kind := .util
  exports := []
  imports := [⟨"a.ts", "*", "./b", 1, ⟨8, 11⟩, some "b.ts", false⟩]
  content := some storingText

/-- The index of the file and the one that it imports. -/
def storingIndex : SourceIndex where
  files := Ledger.ofList [("a.ts", storingFile), ("b.ts", ⟨"b.ts", .util, [], [], some ""⟩)]
  excluded := []
  errors := []

/-- Both files belong to the feature. -/
def storingLayout : Layout :=
  .ofOwners storingScope storingIndex
    (Ledger.ofList [("a.ts", .feature "one"), ("b.ts", .feature "one")])

/-- The edit of the import. -/
def storingRewrite : ImportRewrite :=
  ⟨Ledger.ofList [("a.ts", [⟨⟨8, 11⟩, "@/features/one/utils/b"⟩])], 1, []⟩

/-- The call for the resource that the feature owns. -/
def userCall : StorageCall :=
  ⟨.read, .text "user", "a.ts", 2, ⟨14, 42⟩, [], "localStorage.getItem"⟩

/-- The call for a resource that no feature owns. -/
def themeCall : StorageCall :=
  ⟨.read, .text "theme", "a.ts", 3, ⟨44, 73⟩, [], "localStorage.getItem"⟩

/-- The edit that replaces the first call. -/
def userEdit : Edit := ⟨⟨14, 42⟩, "api.loadUser()"⟩

/-- The edit that inserts the import of the client. -/
def clientEdit : Edit := ⟨⟨14, 14⟩, "import \x7b api \x7d from '@/api/client';\n"⟩

/-- What becomes of the two calls. -/
def storingSubstitution : Substitution where
  edits := Ledger.ofList [("a.ts", [clientEdit, userEdit])]
  substituted := [(userCall, loadUser)]
  flagged := [themeCall]
  errors := [.outOfScope themeCall]

theorem allIn_storing : StorageCall.allIn storingScope.storage storingText.toList "a.ts" =
    .ok [userCall, themeCall] := by
  cbv

theorem outcomeOf_userCall : outcomeOf storingScope (.grouped storingScope.contract) userCall =
    .ok ⟨some userEdit, some loadUser, false, none⟩ := by
  cbv

theorem outcomeOf_themeCall : outcomeOf storingScope (.grouped storingScope.contract) themeCall =
    .ok ⟨none, none, true, some (.outOfScope themeCall)⟩ := by
  cbv

theorem addFile_storing :
    addFile storingScope (.grouped storingScope.contract) ⟨.empty, [], [], []⟩ storingFile "a.ts"
      storingText = .ok storingSubstitution := by
  have imported : interfaceImport storingScope.storage storingText.toList storingFile.imports =
      .ok (some clientEdit) := rfl
  have order : Edit.ordered [userEdit, clientEdit] = [clientEdit, userEdit] := by cbv
  rw [addFile, allIn_storing]
  simp only [Except.mapError, bind, Except.bind, List.mapM_cons, List.mapM_nil, outcomeOf_userCall,
    outcomeOf_themeCall, Except.map, pure, Except.pure, List.filterMap_cons, List.filterMap_nil,
    List.isEmpty_cons, imported, Option.toList_some, List.cons_append, List.nil_append, order]
  rfl

theorem moves_storing : storingLayout.moves.values =
    [⟨"a.ts", "features/one/utils/a.ts", "features/one/utils/a", .feature "one", .util⟩,
      ⟨"b.ts", "features/one/utils/b.ts", "features/one/utils/b", .feature "one", .util⟩] := by
  decide

theorem ofLayout_storing :
    ofLayout storingScope storingIndex storingLayout = .ok storingSubstitution := by
  have other : addFile storingScope (.grouped storingScope.contract) storingSubstitution
      ⟨"b.ts", .util, [], [], some ""⟩ "b.ts" "" = .ok storingSubstitution := by
    have none : StorageCall.allIn storingScope.storage "".toList "b.ts" = .ok [] := by cbv
    rw [addFile, none]
    rfl
  rw [ofLayout_eq, moves_storing]
  exact bind_eq_ok.mpr ⟨_, rfl, bind_eq_ok.mpr ⟨_, addFile_storing, bind_eq_ok.mpr ⟨_, other, rfl⟩⟩⟩

theorem ofLayout_accounted_storing :
    ofLayout storingScope storingIndex storingLayout = .ok storingSubstitution ∧
      ∃ calls, Accounted storingScope storingRewrite storingSubstitution
        (Staged.ofEdits storingIndex storingLayout storingRewrite storingSubstitution) "a.ts"
        storingText calls := by
  have staged : (Staged.ofEdits storingIndex storingLayout storingRewrite
      storingSubstitution).errors = [] := by
    rw [Staged.ofEdits, moves_storing]
    cbv
  have fine : ∀ problem ∈ storingSubstitution.errors ++ (Staged.ofEdits storingIndex storingLayout
      storingRewrite storingSubstitution).errors, problem.isFatal = false := by
    rw [staged]
    intro problem reported
    obtain rfl := List.mem_singleton.mp reported
    rfl
  have keyed := Layout.ofOwners_keyed storingScope storingIndex
    (Ledger.ofList [("a.ts", .feature "one"), ("b.ts", .feature "one")])
  refine ⟨ofLayout_storing, ?_⟩
  exact (ofLayout_accounted keyed ofLayout_storing fine).1 "a.ts" _ storingFile storingText
    (by decide : storingLayout.move? "a.ts" = some
      ⟨"a.ts", "features/one/utils/a.ts", "features/one/utils/a", .feature "one", .util⟩) rfl rfl

end Storing

end Accounted

end Substitution

end FeatureLayout
