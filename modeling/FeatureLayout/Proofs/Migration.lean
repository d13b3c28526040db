import FeatureLayout.Proofs.Analysis
import FeatureLayout.Proofs.Destinations
import FeatureLayout.Proofs.Disk.Commit
import FeatureLayout.Proofs.Rewrite.Staged

/-!
# What a migration does to a disk

A run reads, and nothing changes while it does. When it is refused, fails or is a dry run, the disk
is left as it was. When it succeeds, the destination holds one file for every planned move and the
marker, and every file outside the destination is as it was.

The destinations of different moves are different, because a conflict of module paths ends a run
without writing.
-/

namespace FeatureLayout

open Text DiskM

namespace Migration

section Reading

variable (scope : Scope) (start : Disk)

/-- An analysis is one of an index of the files below the root. -/
theorem reads_analyze : Reads start (analyze scope) fun analysis =>
    ∃ read index, SourceIndex.ofTree scope (start.filesBelow scope.root) read = .ok index ∧
      Analysis.ofIndex scope index = .ok analysis := by
  refine (answers_analyze scope start).reads.weaken fun analysis same => ?_
  obtain ⟨index, built, analysed⟩ := bind_eq_ok.mp (eq_ok_of_mapError same)
  exact ⟨_, index, built, analysed⟩

/-- A destination that is not refused can be replaced. -/
theorem reads_checkDestination (destination : Location) :
    Reads start (checkDestination scope destination) fun _ =>
      placeProblem? scope destination = none := by
  unfold checkDestination
  cases place : placeProblem? scope destination with
  | some problem => exact reads_throw _
  | none =>
    refine (reads_look _).bind fun found _ => ?_
    match found with
    | none => exact reads_pure rfl
    | some .file => exact reads_throw _
    | some .folder =>
      refine (reads_look _).bind fun names _ => ?_
      split
      · refine (reads_look _).bind fun found _ => ?_
        split
        · exact reads_throw _
        · exact reads_pure rfl
      · exact reads_pure rfl

end Reading

/-- A destination that can be replaced has nothing in common with the source tree. -/
theorem not_prefix_root {scope : Scope} {destination : Location}
    (free : placeProblem? scope destination = none) (rest : Location) :
    ¬ destination <+: scope.root ++ rest := by
  intro begins
  unfold placeProblem? at free
  split at free
  · cases free
  · next outside =>
    split at free
    · cases free
    · next apart =>
      have apartFrom : ¬ scope.root <+: destination := fun inside =>
        outside (List.isPrefixOf_iff_prefix.mpr inside)
      have above := (List.prefix_or_prefix_of_prefix begins
        (List.prefix_append scope.root rest)).resolve_right apartFrom
      have longer : destination.length < scope.root.length := by
        refine lt_of_le_of_ne above.length_le fun same => apartFrom ?_
        rw [above.eq_of_length same]
      exact apart (Bool.and_eq_true_iff.mpr
        ⟨List.isPrefixOf_iff_prefix.mpr above, decide_eq_true longer⟩)

/-- A destination that can be replaced lies in a folder. -/
theorem exists_concat_of_placeProblem? {scope : Scope} {destination : Location}
    (free : placeProblem? scope destination = none) :
    ∃ parent name, destination = parent ++ [name] := by
  rcases List.eq_nil_or_concat destination with rfl | ⟨parent, name, same⟩
  · exact absurd List.nil_prefix (not_prefix_root free [])
  · exact ⟨parent, name, by simpa using same⟩

section Writing

variable (scope : Scope) (layout : Layout) (staged : Staged) (start : Disk)

/-- The bytes that a planned file gets: its staged text, or those of its source. -/
def plannedBytes (move : Move) : Option ByteArray :=
  match staged.texts.find? move.source with
  | some text => some text.toUTF8
  | none => start.file? (scope.root.follow move.source)

/-- What is written when some moves have been made. -/
structure Filled (moves : List Move) (written : Location → Option ByteArray) : Prop where
  moved : ∀ move ∈ moves, ∃ content, plannedBytes scope staged start move = some content ∧
    written (fieldsOf '/' move.destination) = some content
  only : ∀ rest, (written rest).isSome → ∃ move ∈ moves, rest = fieldsOf '/' move.destination

/-- What is written when all moves have been made and the marker is there. -/
structure Complete (written : Location → Option ByteArray) : Prop where
  moved : ∀ move ∈ layout.moves.values, ∃ content,
    plannedBytes scope staged start move = some content ∧
      written (fieldsOf '/' move.destination) = some content
  marked : written [marker] = some markerText.toUTF8
  only : ∀ rest, (written rest).isSome →
    rest = [marker] ∨ ∃ move ∈ layout.moves.values, rest = fieldsOf '/' move.destination

variable {scope layout staged start} {scratch : Location}

/-- One more move is made without touching those that have been made. -/
theorem Filled.add {moves : List Move} {written : Location → Option ByteArray}
    (filled : Filled scope staged start moves written) {move : Move} {content : ByteArray}
    (planned : plannedBytes scope staged start move = some content)
    (fresh : move.destination ∉ moves.map (·.destination)) :
    Filled scope staged start (moves ++ [move]) fun rest =>
      if rest = fieldsOf '/' move.destination then some content else written rest where
  moved other listed := by
    rcases List.mem_append.mp listed with earlier | new
    · obtain ⟨bytes, same, there⟩ := filled.moved other earlier
      have apart : fieldsOf '/' other.destination ≠ fieldsOf '/' move.destination := fun equal =>
        fresh (List.mem_map.mpr ⟨other, earlier, Path.eq_of_fieldsOf equal⟩)
      exact ⟨bytes, same, by rw [if_neg apart, there]⟩
    · obtain rfl := List.mem_singleton.mp new
      exact ⟨content, planned, if_pos rfl⟩
  only rest present := by
    split at present
    · next same => exact ⟨move, by simp, same⟩
    · obtain ⟨other, earlier, same⟩ := filled.only rest present
      exact ⟨other, List.mem_append_left _ earlier, same⟩

/-- The marker is written beside all planned files. -/
theorem Filled.complete {written : Location → Option ByteArray}
    (filled : Filled scope staged start layout.moves.values written)
    (nested : ∀ move ∈ layout.moves.values, fieldsOf '/' move.destination ≠ [marker]) :
    Complete scope layout staged start fun rest =>
      if rest = [marker] then some markerText.toUTF8 else written rest where
  moved move listed := by
    obtain ⟨content, planned, there⟩ := filled.moved move listed
    exact ⟨content, planned, by rw [if_neg (nested move listed), there]⟩
  marked := if_pos rfl
  only rest present := by
    split at present
    · next same => exact Or.inl same
    · exact Or.inr (filled.only rest present)

/-- The bytes of a planned file are read as they were at the start. -/
theorem meets_contentOf (vacant : ∀ rest, start.file? (scratch ++ rest) = none) {move : Move}
    (present : staged.texts.find? move.source = none →
      (start.file? (scope.root.follow move.source)).isSome)
    (written : Location → Option ByteArray) :
    Meets (StagingArea.Holding scratch start written)
      (contentOf scope staged move : DiskM ByteArray)
      (fun content disk => StagingArea.Holding scratch start written disk ∧
        plannedBytes scope staged start move = some content)
      (fun problem _ => ¬ problem.IsRefusal) := by
  unfold contentOf plannedBytes
  cases text : staged.texts.find? move.source with
  | some text => exact meets_answer fun _ holding => ⟨holding, rfl⟩
  | none =>
    refine (meets_look _).regardless.answered ?_
    rintro content disk ⟨holding, found⟩
    have outside : ¬ scratch <+: scope.root.follow move.source := by
      rintro ⟨rest, same⟩
      have there := present text
      rw [← same, vacant rest] at there
      exact absurd there (by simp)
    refine ⟨holding, ?_⟩
    dsimp only
    rw [← holding.others _ outside]
    exact (disk.read_eq_ok_iff _ _).mp found

/-- Writing all planned files and the marker leaves exactly these. -/
theorem meets_writeAll (area : StagingArea)
    (vacant : ∀ rest, start.file? (area.scratch ++ rest) = none)
    (plain : ∀ move ∈ layout.moves.values, Path.IsPlain move.destination)
    (nested : ∀ move ∈ layout.moves.values, fieldsOf '/' move.destination ≠ [marker])
    (distinct : (layout.moves.values.map (·.destination)).Nodup)
    (present : ∀ move ∈ layout.moves.values, staged.texts.find? move.source = none →
      (start.file? (scope.root.follow move.source)).isSome) :
    Meets (StagingArea.Holding area.scratch start fun _ => none)
      (writeAll scope layout staged area : DiskM Unit)
      (fun _ disk => ∃ written, Complete scope layout staged start written ∧
        StagingArea.Holding area.scratch start written disk)
      (fun problem _ => ¬ problem.IsRefusal) := by
  let holds (moves : List Move) (disk : Disk) : Prop :=
    ∃ written, Filled scope staged start moves written ∧
      StagingArea.Holding area.scratch start written disk
  have step : ∀ earlier move later, [] ++ layout.moves.values = earlier ++ move :: later →
      Meets (holds earlier)
        (contentOf scope staged move >>= fun content => area.writeFile move.destination content)
        (fun _ => holds (earlier ++ [move])) (fun problem _ => ¬ problem.IsRefusal) := by
    rintro earlier move later split disk ⟨written, filled, holding⟩
    have listed : move ∈ layout.moves.values := by
      rw [show layout.moves.values = _ from split]
      simp
    have fresh : move.destination ∉ earlier.map (·.destination) := by
      have apart := distinct
      rw [show layout.moves.values = _ from split, List.map_append, List.map_cons,
        List.nodup_append] at apart
      exact fun again => apart.2.2 _ again _ List.mem_cons_self rfl
    refine ((meets_contentOf vacant (present move listed) written).bind fun content => ?_) disk
      holding
    rintro disk ⟨holding, planned⟩
    refine ((StagingArea.meets_writeAt (plain move listed) content).answered ?_) disk holding
    exact fun _ _ holding => ⟨_, filled.add planned fresh, holding⟩
  have moves : Meets (StagingArea.Holding area.scratch start fun _ => none) _
      (fun _ => holds layout.moves.values) (fun problem _ => ¬ problem.IsRefusal) :=
    (meets_forM _ layout.moves.values [] step).mono
      (fun _ holding => ⟨_, ⟨fun _ absent => absurd absent List.not_mem_nil, by simp⟩, holding⟩)
      (fun _ _ holds => holds) (fun _ _ other => other)
  refine moves.bind fun _ => ?_
  rintro disk ⟨written, filled, holding⟩
  have alone : fieldsOf '/' marker = [marker] := by decide
  have proper : Path.IsPlain marker := by
    intro segment listed
    rw [alone, List.mem_singleton] at listed
    subst listed
    decide
  refine ((StagingArea.meets_writeAt proper markerText.toUTF8).answered ?_) disk holding
  rw [alone]
  exact fun _ _ holding => ⟨_, filled.complete nested, holding⟩

end Writing

/-- What a run leaves that delivers a tree. -/
structure Delivered (scope : Scope) (analysis : Analysis) (staged : Staged)
    (destination : Location) (before after : Disk) : Prop where
  /-- Every move has a file with the bytes of the asset, or with the staged text. -/
  moved : ∀ move ∈ analysis.layout.moves.values, ∃ file content,
    analysis.index.file? move.source = some file ∧
      after.file? (destination.follow move.destination) = some content ∧
      (file.isAsset = true →
        before.file? (scope.root.follow move.source) = some content) ∧
      (file.isAsset = false →
        ∃ text, staged.texts.find? move.source = some text ∧ content = text.toUTF8)
  marked : after.file? (destination ++ [marker]) = some markerText.toUTF8
  /-- There is nothing else in the destination. -/
  only : ∀ place, destination <+: place → (after.file? place).isSome →
    place = destination ++ [marker] ∨
      ∃ move ∈ analysis.layout.moves.values, place = destination.follow move.destination
  /-- Different moves have different destinations. -/
  distinct : (analysis.layout.moves.values.map (·.destination)).Nodup
  apart : (analysis.layout.moves.values.map fun move => destination.follow move.destination).Nodup
  /-- Outside the destination nothing has changed. -/
  outside : ∀ place, ¬ destination <+: place → after.file? place = before.file? place

/-- What is planned for an index of the files of a disk. -/
structure Sound (scope : Scope) (start : Disk) (analysis : Analysis) (staged : Staged) : Prop where
  plain : ∀ move ∈ analysis.layout.moves.values, Path.IsPlain move.destination
  nested : ∀ move ∈ analysis.layout.moves.values, fieldsOf '/' move.destination ≠ [marker]
  distinct : (analysis.layout.moves.values.map (·.destination)).Nodup
  indexed : ∀ move ∈ analysis.layout.moves.values, ∃ file,
    analysis.index.file? move.source = some file ∧
      (start.file? (scope.root.follow move.source)).isSome ∧
      (staged.texts.find? move.source = none ↔ file.isAsset = true)

/-- What is reported is failed exactly when something fatal is reported. -/
theorem failed_iff_of_prepare {scope : Scope} {analysis : Analysis} {dryRun : Bool}
    {report : Report} {staged : Staged}
    (prepared : prepare scope analysis dryRun = .ok (report, staged)) :
    report.status = .failed ↔ ∃ violation ∈ report.violations, violation.isFatal = true := by
  obtain ⟨rewritten, -, rest⟩ := bind_eq_ok.mp prepared
  obtain ⟨validation, -, same⟩ := bind_eq_ok.mp rest
  obtain ⟨rfl, -⟩ := Prod.mk.inj (Except.ok.inj same)
  dsimp only
  rw [← List.any_eq_true, List.any_map]
  change _ ↔ List.any _ Diagnostic.isFatal = true
  split
  · next fatal => exact iff_of_true rfl fatal
  · next none => exact iff_of_false (by simp) none

/-- A report without fatal findings comes from a sound plan. -/
theorem sound_of_prepare {base : Location} {config : Value} {scope : Scope}
    (accepted : Scope.ofValue base config = .ok scope)
    (buckets : ∀ kind, Path.IsPlain (scope.bucket kind).display) {start : Disk}
    (proper : start.Proper) {read : String → Except ReadProblem String} {index : SourceIndex}
    (built : SourceIndex.ofTree scope (start.filesBelow scope.root) read = .ok index)
    {analysis : Analysis} (analysed : Analysis.ofIndex scope index = .ok analysis) {dryRun : Bool}
    {report : Report} {staged : Staged}
    (prepared : prepare scope analysis dryRun = .ok (report, staged))
    (success : report.status = .success) : Sound scope start analysis staged := by
  obtain ⟨classification, decided, same⟩ := bind_eq_ok.mp analysed
  obtain rfl := Except.ok.inj same
  obtain ⟨rewritten, rewrote, rest⟩ := bind_eq_ok.mp prepared
  obtain ⟨validation, -, same⟩ := bind_eq_ok.mp rest
  obtain ⟨rfl, rfl⟩ := Prod.mk.inj (Except.ok.inj same)
  obtain ⟨substitution, -, same⟩ := bind_eq_ok.mp rewrote
  obtain rfl := Except.ok.inj same
  let layout := Layout.ofOwners scope index classification.owners
  have clear : Layout.conflicts layout.moves.values = [] := by
    refine List.eq_nil_iff_forall_not_mem.mpr fun conflict listed => ?_
    have fatal : conflict.isFatal = true := by
      obtain ⟨claim, -, rfl⟩ := List.mem_map.mp listed
      rfl
    dsimp only at success
    split at success
    · cases success
    · next none =>
      refine none (List.any_eq_true.mpr ⟨conflict, ?_, fatal⟩)
      simp only [Analysis.errors, List.mem_append]
      exact Or.inl (Or.inl (Or.inr listed))
  have plainPaths : ∀ path ∈ start.filesBelow scope.root, Path.IsPlain path :=
    fun path listed => (proper.mem_filesBelow listed).1
  constructor
  case plain =>
    intro move listed
    exact Layout.isPlain_of_mem built plainPaths buckets
      (fun path name owned => Scope.CanOwn.isName accepted
        ⟨_, classification, path, UsageGraph.ofIndex_built index, decided, owned⟩) listed
  case nested =>
    intro move listed
    obtain ⟨owner, file, -, -, same⟩ := Layout.exists_file_of_mem listed
    rw [same]
    exact Layout.fieldsOf_destinationOf_ne move.source owner file.kind marker
  case distinct =>
    exact Layout.destinations_nodup built plainPaths ((Layout.conflicts_eq_nil_iff _).mp clear)
  case indexed =>
    intro move listed
    obtain ⟨owner, file, -, found, -⟩ := Layout.exists_file_of_mem listed
    refine ⟨file, found, ?_, ?_⟩
    · exact (exists_of_indexed proper built found).2
    · rw [Staged.find?_ofEdits, if_pos (List.mem_map_of_mem listed), found,
        ← SourceIndex.content_eq_none_iff built found]
      simp

/-- A tree that has been written completely and published is delivered. -/
theorem delivered_of_published {scope : Scope} {analysis : Analysis} {staged : Staged}
    {before after : Disk} (sound : Sound scope before analysis staged)
    {destination : Location} {written : Location → Option ByteArray}
    (complete : Complete scope analysis.layout staged before written)
    (published : StagingArea.Published destination before written after) :
    Delivered scope analysis staged destination before after := by
  have leads (move : Move) (listed : move ∈ analysis.layout.moves.values) :
      destination.follow move.destination = destination ++ fieldsOf '/' move.destination :=
    (sound.plain move listed).follow destination
  constructor
  case moved =>
    intro move listed
    obtain ⟨file, found, -, text⟩ := sound.indexed move listed
    obtain ⟨content, planned, there⟩ := complete.moved move listed
    refine ⟨file, content, found, ?_, fun asset => ?_, fun source => ?_⟩
    · rw [leads move listed, published.arrived, there]
    · rwa [plannedBytes, text.mpr asset] at planned
    · cases entry : staged.texts.find? move.source with
      | none =>
        rw [text.mp entry] at source
        cases source
      | some text =>
        rw [plannedBytes, entry] at planned
        exact ⟨text, rfl, (Option.some.inj planned).symm⟩
  case marked => rw [published.arrived, complete.marked]
  case only =>
    rintro _ ⟨rest, rfl⟩ present
    rw [published.arrived] at present
    rcases complete.only rest present with rfl | ⟨move, listed, rfl⟩
    · exact Or.inl rfl
    · exact Or.inr ⟨move, listed, (leads move listed).symm⟩
  case distinct => exact sound.distinct
  case apart =>
    refine List.Nodup.map_on ?_ (List.Nodup.of_map _ sound.distinct)
    intro first listed second also same
    rw [leads first listed, leads second also] at same
    exact List.inj_on_of_nodup_map sound.distinct listed also
      (Path.eq_of_fieldsOf (List.append_cancel_left same))
  case outside => exact published.others

/-- What the end of a run promises. -/
structure Concluded (scope : Scope) (destination : Location) (dryRun : Bool) (before : Disk)
    (outcome : Run) (after : Disk) : Prop where
  /-- A run fails exactly when it has found something fatal. -/
  judged : outcome.report.status = .failed ↔
    ∃ violation ∈ outcome.report.violations, violation.isFatal = true
  /-- A run that fails or is dry changes nothing. -/
  untouched : outcome.report.status = .failed ∨ dryRun = true → after = before
  /-- A run reports what it prepares for the tree that it has analysed, and delivers it if it neither
  fails nor is dry. -/
  delivered : ∃ analysis staged, runOn (analyze scope) before = (.ok analysis, before) ∧
    prepare scope analysis dryRun = .ok (outcome.report, staged) ∧
    (outcome.report.status = .success → dryRun = false →
      Delivered scope analysis staged destination before after)

theorem meets_run {base : Location} {config : Value} {scope : Scope}
    (accepted : Scope.ofValue base config = .ok scope)
    (buckets : ∀ kind, Path.IsPlain (scope.bucket kind).display) {disk : Disk}
    (rooted : disk.Rooted) (proper : disk.Proper) (destination : Location) (dryRun : Bool) :
    Meets (· = disk) (run scope destination dryRun) (Concluded scope destination dryRun disk)
      fun problem after => problem.IsRefusal ∨ dryRun = true → after = disk := by
  have unharmed (problem : Fault) : problem.IsRefusal ∨ dryRun = true → disk = disk := fun _ => rfl
  unfold run
  split
  · have refused : Reads disk (throw (.setting .brokenPath) : DiskM PUnit) fun _ => False :=
      reads_throw _
    exact refused.followed unharmed fun _ impossible => impossible.elim
  refine (reads_checkDestination scope disk destination).followed unharmed fun _ free => ?_
  refine (reads_analyze scope disk).ran.followed unharmed fun analysis found => ?_
  obtain ⟨⟨read, index, built, analysed⟩, ran⟩ := found
  refine (answers_orThrow disk _).reads.followed unharmed fun answer prepared => ?_
  obtain ⟨report, staged⟩ := answer
  have judged := failed_iff_of_prepare prepared
  dsimp only
  split
  · next idle =>
    refine meets_answer fun _ same =>
      ⟨judged, fun _ => same, analysis, staged, ran, prepared, fun success wet => ?_⟩
    rcases idle with failed | dry
    · exact absurd (failed.symm.trans success) (by simp)
    · exact absurd (dry.symm.trans wet) (by simp)
  · next busy =>
    obtain ⟨succeeds, wet⟩ := not_or.mp busy
    have success : report.status = .success := by
      cases status : report.status with
      | success => rfl
      | failed => exact absurd status succeeds
    obtain ⟨parent, name, rfl⟩ := exists_concat_of_placeProblem? free
    have dry : dryRun = false := by simpa using wet
    rw [dry] at prepared ⊢
    have sound := sound_of_prepare accepted buckets proper built analysed prepared success
    have filled := StagingArea.meets_fill disk rooted parent name
      (writeAll scope analysis.layout staged) (Complete scope analysis.layout staged disk)
      fun area area_disk ⟨vacant, holding⟩ =>
        meets_writeAll area vacant sound.plain sound.nested sound.distinct
          (fun move listed _ => (sound.indexed move listed).elim fun _ facts => facts.2.1) area_disk
          holding
    have ended (problem : Fault) (other : ¬ problem.IsRefusal)
        (either : problem.IsRefusal ∨ false = true) : False :=
      either.elim other (by simp)
    refine (filled.ended fun problem _ other either => (ended problem other either).elim).bind
      fun _ => meets_answer fun after published => ?_
    obtain ⟨written, complete, published⟩ := published
    refine ⟨judged, fun idle => ?_, analysis, staged, ran, prepared, fun _ _ => ?_⟩
    · exact absurd (idle.resolve_right (by simp)) succeeds
    · exact delivered_of_published sound complete published

/-- A run that is refused, that fails or that is dry leaves the disk as it was, a dry one also when
it ends in any other fault. A run fails exactly when it has found something fatal, and one that
succeeds and is not dry delivers the planned tree. -/
theorem run_delivers {base : Location} {config : Value} {scope : Scope}
    (accepted : Scope.ofValue base config = .ok scope)
    (buckets : ∀ kind, Path.IsPlain (scope.bucket kind).display) {disk : Disk}
    (rooted : disk.Rooted) (proper : disk.Proper) (destination : Location) (dryRun : Bool) :
    (∀ problem after, runOn (run scope destination dryRun) disk = (.error problem, after) →
      problem.IsRefusal ∨ dryRun = true → after = disk) ∧
    (∀ outcome after, runOn (run scope destination dryRun) disk = (.ok outcome, after) →
      Concluded scope destination dryRun disk outcome after) := by
  rcases meets_run accepted buckets rooted proper destination dryRun disk rfl with
    ⟨outcome, after, ran, concluded⟩ | ⟨problem, after, ran, refused⟩
  · have answer : runOn (run scope destination dryRun) disk = (.ok outcome, after) := by
      rw [runOn, ran]
    constructor
    · intro problem other same
      rw [answer] at same
      cases same
    · intro other later same
      rw [answer] at same
      obtain ⟨rfl, rfl⟩ := Prod.mk.inj same |>.imp_left Except.ok.inj
      exact concluded
  · have answer : runOn (run scope destination dryRun) disk = (.error problem, after) := by
      rw [runOn, ran]
    constructor
    · intro other later same
      rw [answer] at same
      obtain ⟨rfl, rfl⟩ := Prod.mk.inj same |>.imp_left Except.error.inj
      exact refused
    · intro outcome later same
      rw [answer] at same
      cases same

/-- The status that an answering run reports is read off its outcome. -/
theorem exists_of_status {scope : Scope} {destination : Location} {dryRun : Bool} {disk : Disk}
    {status : RunStatus}
    (reports : (runOn (run scope destination dryRun) disk).1.toOption.map (·.report.status) =
      some status) :
    ∃ outcome after, runOn (run scope destination dryRun) disk = (.ok outcome, after) ∧
      outcome.report.status = status := by
  rcases ran : runOn (run scope destination dryRun) disk with ⟨problem | outcome, after⟩
  · rw [ran] at reports
    cases reports
  · rw [ran] at reports
    exact ⟨outcome, after, rfl, Option.some.inj reports⟩

/-- A page that imports itself, and the output of an earlier run with a file that is planned no
more. -/
def selfPage : Disk :=
  ⟨.ofList [(["app"], .folder), (["app", "src"], .folder), (["app", "src", "pages"], .folder),
    (["app", "src", "pages", "Home.tsx"], .file "import './Home';\n".toUTF8),
    (["app", "out"], .folder), (["app", "out", marker], .file markerText.toUTF8),
    (["app", "out", "old.ts"], .file ByteArray.empty)]⟩

/-- The configuration of one feature with one entry point, in which no function is a storage
call. -/
def pageConfig (entry : String) : Value :=
  .table [("features", .table [("home", .table [("entry_points", .list [.text entry])])]),
    ("persistence", .table [("calls", .table [])])]

/-- The scope of this configuration for a plain entry point. -/
def pageScope (entry : String) : Scope where
  root := ["app", "src"]
  features := [⟨"home", [entry], []⟩]
  excluded := []
  retain := []
  sourceAlias := .text "@/"
  targetAlias := .text "@/"
  bucket kind := .text kind.usualBucket
  storage := { StorageInterface.usual with calls := .empty }
  contract := []
  jobs := 4
  configFile := none

/-- A run on one page that delivers it, one that is refused, a dry one, and one that fails for an
entry point that is not there. -/
theorem run_delivers_selfPage :
    (∀ entry ∈ ["pages/Home.tsx", "pages/Shop.tsx"],
      Scope.ofValue ["app", "src"] (pageConfig entry) = .ok (pageScope entry) ∧
        ∀ kind, Path.IsPlain ((pageScope entry).bucket kind).display) ∧
      selfPage.Rooted ∧ selfPage.Proper ∧
      (∃ outcome after, runOn (run (pageScope "pages/Home.tsx") ["app", "out"] false) selfPage =
          (.ok outcome, after) ∧ outcome.report.status = .success ∧
        Concluded (pageScope "pages/Home.tsx") ["app", "out"] false selfPage outcome after ∧
        after.file? ["app", "out", "features", "home", "pages", "Home.tsx"] =
          some "import '@/features/home/pages/Home';\n".toUTF8 ∧
        after.file? ["app", "out", "old.ts"] = none ∧
        after.file? ["app", "src", "pages", "Home.tsx"] = some "import './Home';\n".toUTF8) ∧
      (∃ problem, runOn (run (pageScope "pages/Home.tsx") ["app", "src", "out"] false) selfPage =
        (.error (.config problem), selfPage)) ∧
      (∃ outcome, runOn (run (pageScope "pages/Home.tsx") ["app", "out"] true) selfPage =
        (.ok outcome, selfPage) ∧ outcome.report.status = .success) ∧
      ∃ outcome, runOn (run (pageScope "pages/Shop.tsx") ["app", "out"] false) selfPage =
        (.ok outcome, selfPage) ∧ outcome.report.status = .failed := by
  have accepted : ∀ entry ∈ ["pages/Home.tsx", "pages/Shop.tsx"],
      Scope.ofValue ["app", "src"] (pageConfig entry) = .ok (pageScope entry) ∧
        ∀ kind, Path.IsPlain ((pageScope entry).bucket kind).display := by
    intro entry listed
    have usual (kind : SymbolKind) : Path.IsPlain kind.usualBucket := by
      cases kind <;> decide
    refine ⟨?_, usual⟩
    rcases List.mem_pair.mp listed with rfl | rfl <;> rfl
  have rooted : selfPage.Rooted := Disk.rooted_of_keys (by decide)
  have proper : selfPage.Proper := Disk.proper_of_keys (by decide)
  obtain ⟨home, buckets⟩ := accepted "pages/Home.tsx" (by simp)
  obtain ⟨shop, shopBuckets⟩ := accepted "pages/Shop.tsx" (by simp)
  refine ⟨accepted, rooted, proper, ?delivered, ?refused, ?dry, ?failed⟩
  case delivered =>
    have reports : (runOn (run (pageScope "pages/Home.tsx") ["app", "out"] false)
        selfPage).1.toOption.map (·.report.status) = some .success := by
      decide +kernel
    obtain ⟨outcome, after, ran, success⟩ := exists_of_status reports
    have concluded := (run_delivers home buckets rooted proper ["app", "out"] false).2 _ _ ran
    obtain ⟨_, _, -, -, delivers⟩ := concluded.delivered
    have arrived : (runOn (run (pageScope "pages/Home.tsx") ["app", "out"] false) selfPage).2.file?
        ["app", "out", "features", "home", "pages", "Home.tsx"] =
          some "import '@/features/home/pages/Home';\n".toUTF8 := by
      decide +kernel
    have old : (runOn (run (pageScope "pages/Home.tsx") ["app", "out"] false) selfPage).2.file?
        ["app", "out", "old.ts"] = none := by
      decide +kernel
    rw [ran] at arrived old
    refine ⟨outcome, after, ran, success, concluded, arrived, old, ?_⟩
    rw [(delivers success rfl).outside _ (by decide)]
    rfl
  case refused =>
    obtain ⟨problem, after, ran⟩ : ∃ problem after,
        runOn (run (pageScope "pages/Home.tsx") ["app", "src", "out"] false) selfPage =
          (.error (.config problem), after) :=
      ⟨_, _, rfl⟩
    obtain rfl := (run_delivers home buckets rooted proper ["app", "src", "out"] false).1 _ _ ran
      (Or.inl ⟨problem, rfl⟩)
    exact ⟨problem, ran⟩
  case dry =>
    have reports : (runOn (run (pageScope "pages/Home.tsx") ["app", "out"] true)
        selfPage).1.toOption.map (·.report.status) = some .success := by
      decide +kernel
    obtain ⟨outcome, after, ran, success⟩ := exists_of_status reports
    have concluded := (run_delivers home buckets rooted proper ["app", "out"] true).2 _ _ ran
    obtain rfl := concluded.untouched (Or.inr rfl)
    exact ⟨outcome, ran, success⟩
  case failed =>
    have reports : (runOn (run (pageScope "pages/Shop.tsx") ["app", "out"] false)
        selfPage).1.toOption.map (·.report.status) = some .failed := by
      decide +kernel
    obtain ⟨outcome, after, ran, failed⟩ := exists_of_status reports
    have concluded :=
      (run_delivers shop shopBuckets rooted proper ["app", "out"] false).2 _ _ ran
    obtain rfl := concluded.untouched (Or.inl failed)
    exact ⟨outcome, ran, failed⟩

end Migration

end FeatureLayout
