import FeatureLayout.Proofs.Disk.Refill
import FeatureLayout.Proofs.Migration

/-!
# Running a migration again

A migration that succeeded leaves its sources as they were and a marked tree in the place of its
destination. Run again, it analyses the same files, since an analysis depends on nothing but the
files below the root and not on their order on the disk; it is not refused, since the marker shows
where the tree comes from; and it writes the same tree once more, into a scratch folder that is free.
-/

namespace FeatureLayout

open Text DiskM

namespace Migration

variable {scope : Scope} {destination : Location} {disk left : Disk} {after : Device}
  {outcome : Run} {analysis : Analysis} {staged : Staged}

/-- A marked folder is not refused as a destination. -/
theorem runsTo_checkDestination (free : placeProblem? scope destination = none)
    (folder : disk.entry? destination = some .folder)
    (marked : (disk.file? (destination ++ [marker])).isSome) :
    RunsTo ⟨disk, none⟩ (checkDestination scope destination) () ⟨disk, none⟩ := by
  have kind := (Disk.kind?_eq_folder_iff disk destination).mpr folder
  have file := (Disk.kind?_eq_file_iff disk (destination ++ [marker])).mpr
    (Option.isSome_iff_exists.mp marked)
  have looked := runsTo_kind? disk destination
  rw [kind] at looked
  have named : RunsTo ⟨disk, none⟩ (FileSystem.names destination) _ ⟨disk, none⟩ :=
    runsTo_look_iff.mpr ⟨by rw [Disk.names, kind], rfl⟩
  have found := runsTo_kind? disk (destination ++ [marker])
  rw [file] at found
  unfold checkDestination
  rw [free]
  refine looked.bind (named.bind ?_)
  split
  · exact found.bind (runsTo_pure_iff.mpr ⟨rfl, rfl⟩)
  · exact runsTo_pure_iff.mpr ⟨rfl, rfl⟩

/-- A run succeeds and writes exactly when its destination is accepted, what is planned is without
fatal findings, and the destination is filled with it. -/
theorem runsTo_run_iff :
    RunsTo ⟨disk, none⟩ (run scope destination false) outcome after ∧
        outcome.report.status = .success ↔
      destination.any Path.isBroken = false ∧
        RunsTo ⟨disk, none⟩ (checkDestination scope destination) () ⟨disk, none⟩ ∧
        ∃ analysis staged, analysisOf scope disk = .ok analysis ∧
          prepare scope analysis false = .ok (outcome.report, staged) ∧
          outcome.report.status = .success ∧
          outcome.stages = [.index, .rewrite, .validate, .commit] ∧
          RunsTo ⟨disk, none⟩
            (StagingArea.fill destination (writeAll scope analysis.layout staged)) () after := by
  have analysing {answer : Analysis} {middle : Device} :
      RunsTo ⟨disk, none⟩ (analyze scope) answer middle ↔
        analysisOf scope disk = .ok answer ∧ middle = ⟨disk, none⟩ := by
    refine (answers_analyze scope disk).runsTo_iff.trans (and_congr_left' ?_)
    exact ⟨eq_ok_of_mapError, fun same => by rw [same]; rfl⟩
  unfold run
  cases destination.any Path.isBroken with
  | true =>
    refine ⟨fun ⟨ran, _⟩ => ?_, fun ⟨broken, _⟩ => nomatch broken⟩
    obtain ⟨_, _, stopped, -⟩ := runsTo_bind_iff.mp ran
    exact absurd stopped not_runsTo_throw
  | false =>
    simp only [Bool.false_eq_true, if_false, true_and]
    constructor
    · rintro ⟨ran, success⟩
      obtain ⟨_, _, checked, rest⟩ := runsTo_bind_iff.mp ran
      obtain ⟨_, ⟨rfl⟩, rfl, -⟩ :=
        (reads_checkDestination scope disk destination).of_runsTo rfl checked
      obtain ⟨analysis, _, analysed, rest⟩ := runsTo_bind_iff.mp rest
      obtain ⟨found, rfl⟩ := analysing.mp analysed
      obtain ⟨⟨report, staged⟩, _, prepared, rest⟩ := runsTo_bind_iff.mp rest
      obtain ⟨planned, rfl⟩ := (answers_orThrow _ _).runsTo_iff.mp prepared
      dsimp only at rest
      split at rest
      · next idle =>
        obtain ⟨rfl, -⟩ := runsTo_pure_iff.mp rest
        rcases idle with failed | dry
        · exact absurd (failed.symm.trans success) (by simp)
        · cases dry
      · obtain ⟨_, _, filled, same⟩ := runsTo_bind_iff.mp rest
        obtain ⟨rfl, rfl⟩ := runsTo_pure_iff.mp same
        exact ⟨checked, analysis, staged, found, planned, success, rfl, filled⟩
    · rintro ⟨checked, analysis, staged, analysed, prepared, success, stages, filled⟩
      refine ⟨checked.bind ((analysing.mpr ⟨analysed, rfl⟩).bind
        (((answers_orThrow _ _).runsTo_iff.mpr ⟨prepared, rfl⟩).bind ?_)), success⟩
      have busy : ¬ (outcome.report.status = .failed ∨ False) := by simp [success]
      dsimp only
      rw [if_neg busy]
      refine filled.bind (runsTo_pure_iff.mpr ⟨?_, rfl⟩)
      rw [← stages]

/-- Writing what is planned does the same in every scratch folder. -/
theorem repeatable_writeAll (free : placeProblem? scope destination = none)
    (sound : Sound scope disk analysis staged)
    (sources : ∀ move ∈ analysis.layout.moves.values, Path.IsPlain move.source) :
    StagingArea.Repeatable destination disk (writeAll scope analysis.layout staged) := by
  intro base left first second extended whole alsoWhole outside vacant alsoVacant upright also
  have copied (move : Move) (listed : move ∈ analysis.layout.moves.values) :
      Follows (StagingArea.Paired first second base left)
        (contentOf scope staged move : DiskM ByteArray) (contentOf scope staged move) := by
    unfold contentOf
    cases staged.texts.find? move.source with
    | some text => exact follows_pure _
    | none =>
      refine follows_look fun one two paired content read => ?_
      have leads := (sources move listed).follow scope.root
      obtain ⟨_, -, present, -⟩ := sound.indexed move listed
      rw [← extended.files] at present
      have there : base.entry? (scope.root.follow move.source) ≠ none := by
        intro nothing
        simp [Disk.file?, nothing] at present
      have elsewhere : left.entry? (scope.root.follow move.source) =
          base.entry? (scope.root.follow move.source) :=
        outside _ (leads ▸ not_prefix_root free _)
      have apart : ¬ first <+: scope.root.follow move.source := by
        rintro ⟨rest, same⟩
        exact there (same ▸ whole.entry?_below vacant rest)
      have away : ¬ second <+: scope.root.follow move.source := by
        rintro ⟨rest, same⟩
        exact there (elsewhere.symm.trans (same ▸ alsoWhole.entry?_below alsoVacant rest))
      rw [Disk.read_eq_ok_iff] at read ⊢
      rw [← read]
      refine Disk.file?_congr ?_
      rw [paired.there.others _ away, elsewhere, paired.here.others _ apart]
  unfold writeAll
  refine (follows_forM _ fun move listed => ?_).bind fun _ => ?_
  · exact (copied move listed).bind fun content =>
      StagingArea.follows_writeAt (sound.plain move listed) upright also content
  · exact StagingArea.follows_writeAt (by decide) upright also _

/-- A run that succeeded can be repeated: it is not refused, reports the same, and leaves every file
and every folder as it is. -/
theorem run_repeats {base : Location} {config : Value} {scope : Scope}
    (accepted : Scope.ofValue base config = .ok scope)
    (buckets : ∀ kind, Path.IsPlain (scope.bucket kind).display) {disk : Disk}
    (rooted : disk.Rooted) (proper : disk.Proper) {destination : Location} {outcome : Run}
    {after : Disk} (ran : runOn (run scope destination false) disk = (.ok outcome, after))
    (success : outcome.report.status = .success) :
    runOn (checkDestination scope destination) after = (.ok (), after) ∧
      ∃ again, runOn (run scope destination false) after = (.ok outcome, again) ∧
        ∀ place, again.entry? place = after.entry? place := by
  obtain ⟨device, runs, rfl⟩ := runOn_eq_ok_iff.mp ran
  obtain ⟨whole, checked, analysis, staged, analysed, prepared, -, stages, filled⟩ :=
    runsTo_run_iff.mp ⟨runs, success⟩
  obtain ⟨_, ⟨rfl⟩, -, free⟩ :=
    (reads_checkDestination scope disk destination).of_runsTo rfl checked
  obtain ⟨index, built, indexed⟩ := bind_eq_ok.mp analysed
  have sound := sound_of_prepare accepted buckets proper built indexed prepared success
  have sources (move : Move) (listed : move ∈ analysis.layout.moves.values) :
      Path.IsPlain move.source := by
    obtain ⟨file, found, -⟩ := sound.indexed move listed
    obtain ⟨classification, -, same⟩ := bind_eq_ok.mp indexed
    obtain rfl := Except.ok.inj same
    exact (exists_of_indexed proper built found).1
  have repeats := repeatable_writeAll free sound sources
  obtain ⟨parent, name, rfl⟩ := exists_concat_of_placeProblem? free
  obtain ⟨_, _, _, _, left, rfl, extended, filling⟩ :=
    StagingArea.filling_of_runsTo rooted proper.upright repeats filled
  obtain ⟨_, ⟨rfl⟩, concluded⟩ :=
    (meets_run accepted buckets rooted proper (parent ++ [name]) false).of_runsTo rfl runs
  obtain ⟨_, _, -, -, delivers⟩ := concluded.delivered
  have delivered := delivers success rfl
  have same : analysisOf scope left = .ok analysis :=
    (analysisOf_congr proper fun rest => delivered.outside _ (not_prefix_root free rest)).trans
      analysed
  have accepts := runsTo_checkDestination free filling.folder (by rw [delivered.marked]; rfl)
  obtain ⟨again, refilled, unchanged⟩ := StagingArea.exists_refilled filling extended repeats
  have runsAgain := (runsTo_run_iff.mpr
    ⟨whole, accepts, analysis, staged, same, prepared, success, stages, refilled⟩).1
  exact ⟨runOn_eq_ok_iff.mpr ⟨_, accepts, rfl⟩, again, runOn_eq_ok_iff.mpr ⟨_, runsAgain, rfl⟩,
    unchanged⟩

/-- A page without text, and the output of an earlier run with a file that is planned no more. -/
def emptyPage : Disk :=
  ⟨.ofList [(["app"], .folder), (["app", "src"], .folder), (["app", "src", "pages"], .folder),
    (["app", "src", "pages", "Home.tsx"], .file ByteArray.empty), (["app", "out"], .folder),
    (["app", "out", marker], .file markerText.toUTF8),
    (["app", "out", "old.ts"], .file ByteArray.empty)]⟩

/-- A scope of one feature with this page, in which no function is a storage call. -/
def emptyPageScope : Scope := pageScope "pages/Home.tsx"

theorem run_repeats_emptyPage :
    Scope.ofValue ["app", "src"] (.table [
        ("features", .table [
          ("home", .table [("entry_points", .list [.text "pages/Home.tsx"])])]),
        ("persistence", .table [("calls", .table [])])]) = .ok emptyPageScope ∧
      (∀ kind, Path.IsPlain (emptyPageScope.bucket kind).display) ∧
      emptyPage.Rooted ∧ emptyPage.Proper ∧
      ∃ outcome after, runOn (run emptyPageScope ["app", "out"] false) emptyPage =
          (.ok outcome, after) ∧ outcome.report.status = .success ∧
        runOn (checkDestination emptyPageScope ["app", "out"]) after = (.ok (), after) ∧
        ∃ again, runOn (run emptyPageScope ["app", "out"] false) after = (.ok outcome, again) ∧
          ∀ place, again.entry? place = after.entry? place := by
  have accepted : Scope.ofValue ["app", "src"] (.table [
      ("features", .table [
        ("home", .table [("entry_points", .list [.text "pages/Home.tsx"])])]),
      ("persistence", .table [("calls", .table [])])]) = .ok emptyPageScope := rfl
  have buckets (kind : SymbolKind) : Path.IsPlain (emptyPageScope.bucket kind).display := by
    cases kind <;> decide
  have rooted : emptyPage.Rooted := Disk.rooted_of_keys (by decide)
  have proper : emptyPage.Proper := Disk.proper_of_keys (by decide)
  have reports : (runOn (run emptyPageScope ["app", "out"] false)
      emptyPage).1.toOption.map (·.report.status) = some .success := by
    decide +kernel
  obtain ⟨outcome, after, ran, success⟩ := exists_of_status reports
  exact ⟨accepted, buckets, rooted, proper, outcome, after, ran, success,
    run_repeats accepted buckets rooted proper ran success⟩

end Migration

end FeatureLayout
