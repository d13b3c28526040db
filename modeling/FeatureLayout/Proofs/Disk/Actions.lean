import FeatureLayout.Proofs.Disk.Memory

/-!
# Actions on a disk

`DiskM.Meets` is the contract of an action on a disk that refuses nothing: from a disk with some
property the action either answers, and then answer and disk are related in one way, or it ends with
a fault, and then fault and disk are related in another. Contracts are composed along the steps of
an action, and each operation of a disk has one.
-/

namespace FeatureLayout

/-- A fault that refuses a configuration. -/
def Fault.IsRefusal (fault : Fault) : Prop := ∃ problem, fault = .config problem

theorem Fault.not_isRefusal_disk (problem : DiskProblem) : ¬ (Fault.disk problem).IsRefusal := by
  rintro ⟨_, same⟩
  cases same

theorem Fault.not_isRefusal_setting (problem : SettingProblem) :
    ¬ (Fault.setting problem).IsRefusal := by
  rintro ⟨_, same⟩
  cases same

section Run

variable {σ α β : Type}

/-- An action on some state is run, and if it answers, what comes after it is run on the state that
it leaves. -/
theorem Fault.run_bind (action : ExceptT Fault (StateM σ) α)
    (next : α → ExceptT Fault (StateM σ) β) (state : σ) :
    (action >>= next).run.run state =
      match action.run.run state with
      | (.ok answer, state) => (next answer).run.run state
      | (.error problem, state) => (.error problem, state) := by
  simp only [ExceptT.run_bind, StateT.run_bind]
  rcases action.run.run state with ⟨_ | _, _⟩ <;> rfl

/-- An action on some state is run, and if it ends with a fault, what catches it is run on the state
that it leaves. -/
theorem Fault.run_tryCatch (action : ExceptT Fault (StateM σ) α)
    (handler : Fault → ExceptT Fault (StateM σ) α) (state : σ) :
    (tryCatch action handler : ExceptT Fault (StateM σ) α).run.run state =
      match action.run.run state with
      | (.ok answer, state) => (.ok answer, state)
      | (.error problem, state) => (handler problem).run.run state := by
  change (ExceptT.tryCatch action handler).run.run state = _
  simp only [ExceptT.tryCatch, ExceptT.run_mk, StateT.run_bind]
  rcases outcome : action.run.run state with ⟨_ | _, _⟩ <;>
  · change StateT.run action state = _ at outcome
    rw [outcome]
    rfl

end Run

namespace DiskM

variable {α β : Type}

/-- From a disk with a property, an action answers or ends with a fault, as described. -/
def Meets (before : Disk → Prop) (action : DiskM α) (done : α → Disk → Prop)
    (failed : Fault → Disk → Prop) : Prop :=
  ∀ disk, before disk →
    (∃ answer after, action.run.run ⟨disk, none⟩ = (.ok answer, ⟨after, none⟩) ∧
      done answer after) ∨
    (∃ problem after, action.run.run ⟨disk, none⟩ = (.error problem, ⟨after, none⟩) ∧
      failed problem after)

section Run

/-- Looking something up gives what is found, and changes nothing. -/
theorem run_look (find : Disk → Except DiskProblem α) (device : Device) :
    (look find).run.run device = ((find device.disk).mapError Fault.disk, device) := by
  rw [look, Fault.run_bind]
  change StateT.run (ExceptT.run _) _ = _
  cases find device.disk <;> rfl

/-- A change leaves what it gives, or everything as it was when it fails. -/
theorem run_change (act : Disk → Except DiskProblem Disk) (disk : Disk) :
    (change act).run.run ⟨disk, none⟩ =
      match act disk with
      | .ok after => (.ok (), ⟨after, none⟩)
      | .error problem => (.error (.disk problem), ⟨disk, none⟩) := by
  have permitted : permit.run.run ⟨disk, none⟩ = (.ok (), ⟨disk, none⟩) := rfl
  rw [change, Fault.run_bind, permitted]
  dsimp only
  rw [Fault.run_bind]
  change StateT.run (ExceptT.run _) _ = _
  dsimp only
  cases act disk <;> rfl

end Run

section Rules

variable {before : Disk → Prop} {action : DiskM α} {done : α → Disk → Prop}
  {failed : Fault → Disk → Prop}

theorem meets_pure (answer : α) :
    Meets (done answer) (pure answer) done failed := by
  intro disk holds
  exact Or.inl ⟨answer, disk, rfl, holds⟩

theorem meets_throw (problem : Fault) :
    Meets (failed problem) (throw problem : DiskM α) done failed := by
  intro disk holds
  exact Or.inr ⟨problem, disk, rfl, holds⟩

/-- A contract can be asked of fewer disks and promise less. -/
theorem Meets.mono (meets : Meets before action done failed) {before' : Disk → Prop}
    {done' : α → Disk → Prop} {failed' : Fault → Disk → Prop}
    (asked : ∀ disk, before' disk → before disk)
    (answered : ∀ answer disk, done answer disk → done' answer disk)
    (refused : ∀ problem disk, failed problem disk → failed' problem disk) :
    Meets before' action done' failed' := by
  intro disk holds
  rcases meets disk (asked disk holds) with
    ⟨answer, after, ran, reached⟩ | ⟨problem, after, ran, ended⟩
  · exact Or.inl ⟨answer, after, ran, answered answer after reached⟩
  · exact Or.inr ⟨problem, after, ran, refused problem after ended⟩

theorem Meets.asked (meets : Meets before action done failed) {before' : Disk → Prop}
    (stronger : ∀ disk, before' disk → before disk) : Meets before' action done failed :=
  meets.mono stronger (fun _ _ reached => reached) (fun _ _ ended => ended)

theorem Meets.answered (meets : Meets before action done failed) {done' : α → Disk → Prop}
    (weaker : ∀ answer disk, done answer disk → done' answer disk) :
    Meets before action done' failed :=
  meets.mono (fun _ holds => holds) weaker (fun _ _ ended => ended)

theorem Meets.ended (meets : Meets before action done failed) {failed' : Fault → Disk → Prop}
    (weaker : ∀ problem disk, failed problem disk → failed' problem disk) :
    Meets before action done failed' :=
  meets.mono (fun _ holds => holds) (fun _ _ reached => reached) weaker

/-- A fault that does not refuse the configuration can leave any disk. -/
theorem Meets.regardless
    (meets : Meets before action done fun problem disk => before disk ∧ ¬ problem.IsRefusal) :
    Meets before action done fun problem _ => ¬ problem.IsRefusal :=
  meets.ended fun _ _ both => both.2

/-- An answer that is related to every disk the action can start from. -/
theorem meets_answer {answer : α} (holds : ∀ disk, before disk → done answer disk) :
    Meets before (pure answer) done failed :=
  (meets_pure answer).mono holds (fun _ _ reached => reached) (fun _ _ ended => ended)

/-- A fault that is related to every disk the action can start from. -/
theorem meets_fault {problem : Fault} (holds : ∀ disk, before disk → failed problem disk) :
    Meets before (throw problem : DiskM α) done failed :=
  (meets_throw problem).mono holds (fun _ _ reached => reached) (fun _ _ ended => ended)

/-- An action is followed by what comes after it. -/
theorem Meets.bind {next : α → DiskM β} {finished : β → Disk → Prop}
    (first : Meets before action done failed)
    (second : ∀ answer, Meets (done answer) (next answer) finished failed) :
    Meets before (action >>= next) finished failed := by
  intro disk holds
  rw [Fault.run_bind]
  rcases first disk holds with ⟨answer, middle, ran, reached⟩ | ⟨problem, after, ran, ended⟩
  · rw [ran]
    exact second answer middle reached
  · rw [ran]
    exact Or.inr ⟨problem, after, rfl, ended⟩

/-- A fault is handed to what catches it. -/
theorem Meets.catching {handler : Fault → DiskM α} {ended : Fault → Disk → Prop}
    (first : Meets before action done ended)
    (second : ∀ problem, Meets (ended problem) (handler problem) done failed) :
    Meets before (tryCatch action handler) done failed := by
  intro disk holds
  rw [Fault.run_tryCatch]
  rcases first disk holds with ⟨answer, after, ran, reached⟩ | ⟨problem, middle, ran, stopped⟩
  · rw [ran]
    exact Or.inl ⟨answer, after, rfl, reached⟩
  · rw [ran]
    exact second problem middle stopped

end Rules

section Operations

variable {before : Disk → Prop}

/-- Looking something up changes nothing. -/
theorem meets_look (find : Disk → Except DiskProblem α) :
    Meets before (look find) (fun found disk => before disk ∧ find disk = .ok found)
      (fun problem disk => before disk ∧ ¬ problem.IsRefusal) := by
  intro disk holds
  have ran := run_look find ⟨disk, none⟩
  cases outcome : find disk with
  | ok found =>
    rw [outcome] at ran
    exact Or.inl ⟨found, disk, ran, holds, outcome⟩
  | error reason =>
    rw [outcome] at ran
    exact Or.inr ⟨.disk reason, disk, ran, holds, Fault.not_isRefusal_disk reason⟩

/-- A change that fails leaves the disk as it was. -/
theorem meets_change (act : Disk → Except DiskProblem Disk) :
    Meets before (change act) (fun _ after => ∃ disk, before disk ∧ act disk = .ok after)
      (fun problem disk => before disk ∧ ¬ problem.IsRefusal) := by
  intro disk holds
  have ran := run_change act disk
  cases outcome : act disk with
  | ok after =>
    rw [outcome] at ran
    exact Or.inl ⟨(), after, ran, disk, holds, outcome⟩
  | error reason =>
    rw [outcome] at ran
    exact Or.inr ⟨.disk reason, disk, ran, holds, Fault.not_isRefusal_disk reason⟩

theorem meets_kind? (place : Location) :
    Meets before (FileSystem.kind? place)
      (fun found disk => before disk ∧ found = disk.kind? place)
      (fun problem disk => before disk ∧ ¬ problem.IsRefusal) :=
  (meets_look fun disk => .ok (disk.kind? place)).mono (fun _ holds => holds)
    (fun _ _ both => ⟨both.1, (Except.ok.inj both.2).symm⟩) (fun _ _ both => both)

theorem meets_exists? (place : Location) :
    Meets before (FileSystem.exists? place)
      (fun found disk => before disk ∧ found = (disk.entry? place).isSome)
      (fun problem disk => before disk ∧ ¬ problem.IsRefusal) := by
  refine (meets_kind? place).bind fun found => ?_
  refine (meets_pure found.isSome).mono (fun disk both => ?_) (fun _ _ holds => holds)
    (fun _ _ holds => holds)
  exact ⟨both.1, by simp [both.2, Disk.kind?]⟩

/-- A scratch folder is new, and its name begins as it is asked to. -/
theorem meets_makeScratch (folder : Location) (start : String) :
    Meets before (FileSystem.makeScratch folder start)
      (fun place after => (∃ number : Nat, place = folder ++ [start ++ toString number]) ∧
        ∃ disk, before disk ∧ disk.makeFolder place = .ok after)
      (fun problem disk => before disk ∧ ¬ problem.IsRefusal) := by
  intro disk holds
  let place := disk.freePlace folder start (disk.entries.size + 1) 0
  have made : Meets (· = disk) (change (·.makeFolder place) >>= fun _ => pure place)
      (fun found after => found = place ∧ disk.makeFolder place = .ok after)
      (fun problem left => left = disk ∧ ¬ problem.IsRefusal) := by
    refine (meets_change _).bind fun _ => (meets_pure place).mono ?_ (fun _ _ holds => holds)
      (fun _ _ holds => holds)
    rintro after ⟨_, rfl, outcome⟩
    exact ⟨rfl, outcome⟩
  rcases made disk rfl with ⟨found, after, ran, rfl, outcome⟩ | ⟨problem, after, ran, rfl, other⟩
  · exact Or.inl ⟨_, after, ran, disk.exists_freePlace_eq folder start _ 0, disk, holds, outcome⟩
  · exact Or.inr ⟨problem, _, ran, holds, other⟩

end Operations

section Loops

variable {failed : Fault → Disk → Prop}

/-- A loop keeps an invariant that each of its steps keeps. -/
theorem meets_forM {holds : List α → Disk → Prop} (action : α → DiskM PUnit) (items done : List α)
    (step : ∀ earlier item later, done ++ items = earlier ++ item :: later →
      Meets (holds earlier) (action item) (fun _ => holds (earlier ++ [item])) failed) :
    Meets (holds done) (items.forM action) (fun _ => holds (done ++ items)) failed := by
  induction items generalizing done with
  | nil => exact meets_answer fun _ kept => by simpa using kept
  | cons item rest inductionHypothesis =>
    have first := step done item rest rfl
    have remaining := inductionHypothesis (done ++ [item]) fun earlier next later same =>
      step earlier next later (by rw [← same, List.append_assoc]; rfl)
    rw [List.append_assoc] at remaining
    exact first.bind fun _ => remaining

end Loops

section Reading

variable {start : Disk} {action : DiskM α} {done : α → Prop}

/-- From a disk, an action answers or ends with a fault, and leaves the disk as it is. -/
def Reads (start : Disk) (action : DiskM α) (done : α → Prop) : Prop :=
  Meets (· = start) action (fun answer after => after = start ∧ done answer)
    (fun _ after => after = start)

theorem reads_pure {answer : α} (holds : done answer) : Reads start (pure answer) done :=
  meets_answer fun _ same => ⟨same, holds⟩

theorem reads_throw (problem : Fault) : Reads start (throw problem : DiskM α) done :=
  meets_fault fun _ same => same

theorem Reads.bind {next : α → DiskM β} {finished : β → Prop} (first : Reads start action done)
    (second : ∀ answer, done answer → Reads start (next answer) finished) :
    Reads start (action >>= next) finished := by
  refine Meets.bind first fun answer => ?_
  rintro _ ⟨rfl, holds⟩
  exact second answer holds _ rfl

theorem Reads.weaken (reads : Reads start action done) {weaker : α → Prop}
    (holds : ∀ answer, done answer → weaker answer) : Reads start action weaker :=
  reads.answered fun answer _ both => ⟨both.1, holds answer both.2⟩

theorem reads_look (find : Disk → Except DiskProblem α) :
    Reads start (look find) (fun found => find start = .ok found) := by
  refine ((meets_look find).answered ?_).ended fun _ _ both => both.1
  rintro found _ ⟨rfl, outcome⟩
  exact ⟨rfl, outcome⟩

/-- What an action that only reads answers is what it answers when it is run. -/
theorem Reads.ran (reads : Reads start action done) :
    Reads start action (fun answer => done answer ∧ runOn action start = (.ok answer, start)) := by
  rintro _ rfl
  rcases reads _ rfl with ⟨answer, _, ran, rfl, holds⟩ | ⟨problem, _, ran, rfl⟩
  · refine Or.inl ⟨answer, _, ran, rfl, holds, ?_⟩
    rw [runOn, ran]
  · exact Or.inr ⟨problem, _, ran, rfl⟩

/-- What comes after an action that only reads starts from the same disk. -/
theorem Reads.followed {next : α → DiskM β} {finished : β → Disk → Prop}
    {failed : Fault → Disk → Prop} (first : Reads start action done)
    (unharmed : ∀ problem, failed problem start)
    (second : ∀ answer, done answer → Meets (· = start) (next answer) finished failed) :
    Meets (· = start) (action >>= next) finished failed := by
  have reads : Meets (· = start) action (fun answer after => after = start ∧ done answer) failed :=
    first.ended fun problem _ same => same ▸ unharmed problem
  refine reads.bind fun answer => ?_
  rintro _ ⟨rfl, holds⟩
  exact second answer holds _ rfl

end Reading

end DiskM

end FeatureLayout
