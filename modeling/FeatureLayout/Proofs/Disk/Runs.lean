import FeatureLayout.Proofs.Disk.Outcome

/-!
# Actions that answer

`DiskM.RunsTo` relates the device that an action starts on to the answer and to the device that it
leaves. It holds of a sequence of actions exactly when it holds of its parts, so a run that answered
can be taken apart, and a run that is to answer can be put together.
-/

namespace FeatureLayout

namespace DiskM

variable {α β : Type} {action : DiskM α} {answer value : α} {start after left : Device}
  {disk : Disk} {problem : Fault}

/-- An action answers and leaves a device. -/
def RunsTo (start : Device) (action : DiskM α) (answer : α) (after : Device) : Prop :=
  action.run.run start = (.ok answer, after)

/-- An action has one outcome. -/
theorem runsTo_iff_of_ok (ran : action.run.run start = (.ok value, left)) :
    RunsTo start action answer after ↔ answer = value ∧ after = left := by
  rw [RunsTo, ran]
  constructor
  · intro same
    obtain ⟨answers, leaves⟩ := Prod.mk.inj same
    exact ⟨(Except.ok.inj answers).symm, leaves.symm⟩
  · rintro ⟨rfl, rfl⟩
    rfl

/-- An action that ends with a fault does not answer. -/
theorem not_runsTo_of_error (ran : action.run.run start = (.error problem, left)) :
    ¬ RunsTo start action answer after := by
  rw [RunsTo, ran]
  intro same
  cases (Prod.mk.inj same).1

section Rules

@[simp] theorem runsTo_pure_iff :
    RunsTo start (pure value) answer after ↔ answer = value ∧ after = start :=
  runsTo_iff_of_ok rfl

@[simp] theorem not_runsTo_throw : ¬ RunsTo start (throw problem : DiskM α) answer after :=
  not_runsTo_of_error rfl

/-- Two actions answer exactly when the first does and the second does after it. -/
theorem runsTo_bind_iff {next : α → DiskM β} {last : β} :
    RunsTo start (action >>= next) last after ↔
      ∃ answer middle, RunsTo start action answer middle ∧
        RunsTo middle (next answer) last after := by
  rcases outcome : action.run.run start with ⟨problem | value, middle⟩
  · have stopped : (action >>= next).run.run start = (.error problem, middle) := by
      rw [Fault.run_bind, outcome]
    refine ⟨fun ran => absurd ran (not_runsTo_of_error stopped), ?_⟩
    rintro ⟨answer, other, first, -⟩
    exact absurd first (not_runsTo_of_error outcome)
  · have went : (action >>= next).run.run start = (next value).run.run middle := by
      rw [Fault.run_bind, outcome]
    constructor
    · intro ran
      exact ⟨value, middle, outcome, went.symm.trans ran⟩
    · rintro ⟨answer, other, first, second⟩
      obtain ⟨rfl, rfl⟩ := (runsTo_iff_of_ok outcome).mp first
      exact went.trans second

/-- An action that answers is followed by what comes after it. -/
theorem RunsTo.bind {next : α → DiskM β} {middle : Device} {last : β}
    (first : RunsTo start action answer middle) (second : RunsTo middle (next answer) last after) :
    RunsTo start (action >>= next) last after :=
  runsTo_bind_iff.mpr ⟨answer, middle, first, second⟩

/-- What answers is not caught. -/
theorem RunsTo.catching (ran : RunsTo start action answer after) (handler : Fault → DiskM α) :
    RunsTo start (tryCatch action handler) answer after := by
  rw [RunsTo, Fault.run_tryCatch, ran]

/-- An action answers if it answers when faults are caught only to end in faults again. -/
theorem RunsTo.of_catching {handler : Fault → DiskM α}
    (ran : RunsTo start (tryCatch action handler) answer after)
    (never : ∀ problem middle, ¬ RunsTo middle (handler problem) answer after) :
    RunsTo start action answer after := by
  rcases outcome : action.run.run start with ⟨problem | value, middle⟩
  · have caught : (tryCatch action handler).run.run start = (handler problem).run.run middle := by
      rw [Fault.run_tryCatch, outcome]
    exact absurd (caught.symm.trans ran) (never problem middle)
  · have same := (runsTo_iff_of_ok (outcome ▸ Fault.run_tryCatch action handler start)).mp ran
    exact (runsTo_iff_of_ok outcome).mpr same

end Rules

section Contracts

/-- An action that answers does so as its contract says. -/
theorem Meets.of_runsTo {before : Disk → Prop} {done : α → Disk → Prop}
    {failed : Fault → Disk → Prop} (meets : Meets before action done failed) (holds : before disk)
    (ran : RunsTo ⟨disk, none⟩ action answer after) :
    ∃ left, after = ⟨left, none⟩ ∧ done answer left := by
  rcases meets disk holds with ⟨value, left, same, reached⟩ | ⟨problem, left, same, -⟩
  · obtain ⟨rfl, rfl⟩ := (runsTo_iff_of_ok same).mp ran
    exact ⟨left, rfl, reached⟩
  · exact absurd ran (not_runsTo_of_error same)

/-- What is run on a disk answers as it does on a device that refuses nothing. -/
theorem runOn_eq_ok_iff {left : Disk} :
    runOn action disk = (.ok answer, left) ↔
      ∃ device, RunsTo ⟨disk, none⟩ action answer device ∧ device.disk = left := by
  constructor
  · intro ran
    obtain ⟨answers, rfl⟩ := Prod.mk.inj ran
    exact ⟨_, Prod.ext answers rfl, rfl⟩
  · rintro ⟨device, ran, rfl⟩
    rw [runOn, ran]

end Contracts

section Operations

/-- An action that only reads answers exactly when it has an answer for its outcome. -/
theorem Answers.runsTo_iff {outcome : Except Fault α} (answers : Answers disk action outcome) :
    RunsTo ⟨disk, none⟩ action answer after ↔ outcome = .ok answer ∧ after = ⟨disk, none⟩ := by
  cases outcome with
  | error problem => exact ⟨fun ran => absurd ran (not_runsTo_of_error answers), by simp⟩
  | ok value =>
    refine (runsTo_iff_of_ok answers).trans (and_congr_left' ?_)
    exact ⟨fun same => same ▸ rfl, fun same => (Except.ok.inj same).symm⟩

/-- Looking something up answers exactly when it is found. -/
theorem runsTo_look_iff {find : Disk → Except DiskProblem α} :
    RunsTo ⟨disk, none⟩ (look find) answer after ↔
      find disk = .ok answer ∧ after = ⟨disk, none⟩ := by
  refine (answers_look find).runsTo_iff.trans (and_congr_left' ?_)
  cases find disk with
  | error problem => simp [Except.mapError]
  | ok found => simp [Except.mapError]

theorem runsTo_kind?_iff {place : Location} {found : Option EntryKind} :
    RunsTo ⟨disk, none⟩ (FileSystem.kind? place) found after ↔
      disk.kind? place = found ∧ after = ⟨disk, none⟩ :=
  runsTo_look_iff.trans (and_congr_left' ⟨Except.ok.inj, congrArg Except.ok⟩)

theorem runsTo_kind? (disk : Disk) (place : Location) :
    RunsTo ⟨disk, none⟩ (FileSystem.kind? place) (disk.kind? place) ⟨disk, none⟩ :=
  runsTo_kind?_iff.mpr ⟨rfl, rfl⟩

theorem runsTo_exists?_iff {place : Location} {found : Bool} :
    RunsTo ⟨disk, none⟩ (FileSystem.exists? place) found after ↔
      (disk.entry? place).isSome = found ∧ after = ⟨disk, none⟩ := by
  unfold FileSystem.exists?
  rw [runsTo_bind_iff]
  constructor
  · rintro ⟨kind, middle, looked, same⟩
    obtain ⟨rfl, rfl⟩ := runsTo_kind?_iff.mp looked
    obtain ⟨rfl, rfl⟩ := runsTo_pure_iff.mp same
    exact ⟨by simp [Disk.kind?], rfl⟩
  · rintro ⟨rfl, rfl⟩
    exact ⟨_, _, runsTo_kind?_iff.mpr ⟨rfl, rfl⟩, runsTo_pure_iff.mpr ⟨by simp [Disk.kind?], rfl⟩⟩

/-- A change answers exactly when it succeeds. -/
theorem runsTo_change_iff {act : Disk → Except DiskProblem Disk} :
    RunsTo ⟨disk, none⟩ (change act) () after ↔
      ∃ changed, act disk = .ok changed ∧ after = ⟨changed, none⟩ := by
  have ran := run_change act disk
  cases outcome : act disk with
  | ok changed =>
    rw [outcome] at ran
    refine (runsTo_iff_of_ok ran).trans ?_
    simp
  | error problem =>
    rw [outcome] at ran
    exact ⟨fun answers => absurd answers (not_runsTo_of_error ran), by simp⟩

/-- A change that succeeds answers. -/
theorem runsTo_change {act : Disk → Except DiskProblem Disk} {changed : Disk}
    (succeeds : act disk = .ok changed) :
    RunsTo ⟨disk, none⟩ (change act) () ⟨changed, none⟩ :=
  runsTo_change_iff.mpr ⟨changed, succeeds, rfl⟩

/-- A scratch folder that is made is a new folder, and its name begins as it is asked to. -/
theorem scratch_of_runsTo {folder place : Location} {name : String}
    (ran : RunsTo ⟨disk, none⟩ (FileSystem.makeScratch folder name) place after) :
    ∃ number : Nat, place = folder ++ [name ++ toString number] ∧
      ∃ made, disk.makeFolder place = .ok made ∧ after = ⟨made, none⟩ := by
  obtain ⟨made, rfl, ⟨number, named⟩, _, rfl, makes⟩ :=
    (meets_makeScratch folder name).of_runsTo rfl ran
  exact ⟨number, named, made, makes, rfl⟩

/-- In a folder, a scratch folder can be made. -/
theorem exists_scratch {folder : Location} (inside : disk.entry? folder = some .folder)
    (name : String) :
    ∃ place made, RunsTo ⟨disk, none⟩ (FileSystem.makeScratch folder name) place ⟨made, none⟩ := by
  let place := disk.freePlace folder name (disk.entries.size + 1) 0
  have free : disk.entry? place = none := disk.entry?_freePlace folder name
  have house : disk.entry? place.dropLast = some .folder := by
    obtain ⟨number, named⟩ := disk.exists_freePlace_eq folder name (disk.entries.size + 1) 0
    rw [show place = _ from named, List.dropLast_concat, inside]
  obtain ⟨made, makes⟩ := Disk.exists_makeFolder free house
  have ran : RunsTo ⟨disk, none⟩ (change (·.makeFolder place) >>= fun _ => pure place) place
      ⟨made, none⟩ := (runsTo_change makes).bind (runsTo_pure_iff.mpr ⟨rfl, rfl⟩)
  exact ⟨place, made, ran⟩

end Operations

end DiskM

end FeatureLayout
