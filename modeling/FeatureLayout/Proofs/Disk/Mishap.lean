import FeatureLayout.Proofs.Disk.Actions

/-!
# A disk on which an operation fails

`FrailM` carries out the operations of a disk as `DiskM` does, and lets one of them fail: any one,
at a moment that is chosen beforehand. Most operations that fail have done nothing. Writing a file
and removing a tree take more than one step, so they can break off in the middle, and anything may
then lie in the place where they were at work.

`FrailM.Meets` is the contract of an action on such a disk. It speaks about the disk and about the
operation that has failed, and never about the moment: whenever an operation is carried out before
anything failed, it may be the one that fails.
-/

namespace FeatureLayout

/-- The operations on a disk, by the places that they are about. -/
inductive DiskOperation where
  | look (place : Location)
  | write (place : Location)
  | makeFolder (place : Location)
  | makeScratch (folder : Location)
  | rename (source target : Location)
  | removeFolder (place : Location)
  | removeTree (place : Location)
  deriving DecidableEq, Repr

/-- An operation that is going to fail. -/
structure Mishap where
  /-- How many operations are carried out before it. -/
  delay : Nat
  problem : DiskProblem
  /-- What lies in the place where the operation breaks off. -/
  debris : Disk

/-- Whether an operation is going to fail, or which one has failed. -/
inductive Fate where
  | ahead (mishap : Option Mishap)
  | behind (operation : DiskOperation)

namespace Fate

/-- The operation that has failed. -/
def struck? : Fate → Option DiskOperation
  | .ahead _ => none
  | .behind operation => some operation

/-- The mishap that is due now. -/
def due? : Fate → Option Mishap
  | .ahead (some mishap) => if mishap.delay = 0 then some mishap else none
  | _ => none

/-- What is left when an operation has been carried out. -/
def next : Fate → Fate
  | .ahead mishap? => .ahead (mishap?.map fun mishap => { mishap with delay := mishap.delay - 1 })
  | .behind operation => .behind operation

@[simp] theorem struck?_next (fate : Fate) : fate.next.struck? = fate.struck? := by
  cases fate <;> rfl

/-- What is due has not happened yet. -/
theorem struck?_of_due {fate : Fate} {mishap : Mishap} (due : fate.due? = some mishap) :
    fate.struck? = none := by
  cases fate with
  | ahead _ => rfl
  | behind operation => cases due

end Fate

/-- A disk in use, on which one operation can fail. -/
structure Frail where
  disk : Disk
  fate : Fate

/-- A disk on which anything may lie in a place. -/
def Disk.brokenOff (disk debris : Disk) (place : Location) : Disk :=
  ⟨.ofList ((disk.without place).entries.entries ++
    debris.entries.entries.filter (·.1.isWithin place))⟩

/-- The place in which an operation takes more than one step. -/
def DiskOperation.workplace? : DiskOperation → Option Location
  | .write place => some place
  | .removeTree place => some place
  | _ => none

/-- What an operation that fails leaves of a disk. -/
def DiskOperation.leaves (operation : DiskOperation) (disk debris : Disk) : Disk :=
  match operation.workplace? with
  | none => disk
  | some place => disk.brokenOff debris place

/-- Actions on a disk on which one operation can fail. -/
abbrev FrailM := ExceptT Fault (StateM Frail)

namespace FrailM

variable {α β : Type}

/-- Carries out an operation, unless it is the one that fails. -/
def perform (operation : DiskOperation) (action : DiskM α) : FrailM α := do
  let frail ← get
  match frail.fate.due? with
  | some mishap =>
    set (Frail.mk (operation.leaves frail.disk mishap.debris) (.behind operation))
    throw (.disk mishap.problem)
  | none =>
    let (answer, disk) := DiskM.runOn action frail.disk
    set (Frail.mk disk frail.fate.next)
    MonadExcept.ofExcept answer

instance : FileSystem FrailM where
  kind? place := perform (.look place) (FileSystem.kind? place)
  names folder := perform (.look folder) (FileSystem.names folder)
  filesBelow folder := perform (.look folder) (FileSystem.filesBelow folder)
  read place := perform (.look place) (FileSystem.read place)
  write place content := perform (.write place) (FileSystem.write place content)
  makeFolder place := perform (.makeFolder place) (FileSystem.makeFolder place)
  makeScratch folder start := perform (.makeScratch folder) (FileSystem.makeScratch folder start)
  rename source target := perform (.rename source target) (FileSystem.rename source target)
  removeFolder place := perform (.removeFolder place) (FileSystem.removeFolder place)
  removeTree place := perform (.removeTree place) (FileSystem.removeTree place)

end FrailM

/-- Outside the place where an operation breaks off, everything is as it was. -/
theorem Disk.entry?_brokenOff (disk debris : Disk) {place tested : Location}
    (outside : ¬ place <+: tested) :
    Disk.entry? (disk.brokenOff debris place) tested = disk.entry? tested := by
  by_cases root : tested = []
  · rw [root]
    rfl
  have below : place ≠ [] := by
    rintro rfl
    exact outside List.nil_prefix
  have within (entry : Location × DiskEntry)
      (listed : entry ∈ debris.entries.entries.filter (·.1.isWithin place)) : place <+: entry.1 :=
    List.isPrefixOf_iff_prefix.mp (List.mem_filter.mp listed).2
  have distinct : (((disk.without place).entries.entries ++
      debris.entries.entries.filter (·.1.isWithin place)).map Prod.fst).Nodup := by
    rw [List.map_append, List.nodup_append]
    refine ⟨(disk.without place).entries.distinct,
      debris.entries.distinct.sublist (List.filter_sublist.map _), ?_⟩
    rintro key kept _ broken rfl
    obtain ⟨entry, listed, rfl⟩ := List.mem_map.mp broken
    obtain ⟨other, stays, same⟩ := List.mem_map.mp kept
    have away : ¬ place <+: other.1 := by
      have tested := (List.mem_filter.mp stays).2
      simpa [Location.isWithin, ← List.isPrefixOf_iff_prefix] using tested
    exact away (same ▸ within entry listed)
  ext entry
  rw [← mem_entries_iff _ root, brokenOff, Ledger.entries_ofList _ distinct, List.mem_append,
    mem_entries_iff _ root, entry?_without disk below, if_neg outside]
  exact or_iff_left fun listed => outside (within (tested, entry) listed)

/-- An operation that fails changes nothing outside the place where it is at work. -/
theorem DiskOperation.entry?_leaves (operation : DiskOperation) (disk debris : Disk)
    {tested : Location} (outside : ∀ place ∈ operation.workplace?, ¬ place <+: tested) :
    Disk.entry? (operation.leaves disk debris) tested = disk.entry? tested := by
  unfold leaves
  cases place? : operation.workplace? with
  | none => rfl
  | some place => exact Disk.entry?_brokenOff disk debris (outside place place?)

namespace FrailM

variable {α β : Type}

/-- What holds of the operation that has failed, if any, and of the disk. -/
abbrev Condition := Option DiskOperation → Disk → Prop

/-- From a disk of some condition, an action answers or ends with a fault, as described. -/
def Meets (before : Condition) (action : FrailM α) (done : α → Condition) (failed : Condition) :
    Prop :=
  ∀ frail : Frail, before frail.fate.struck? frail.disk →
    (∃ answer after, action.run.run frail = (.ok answer, after) ∧
      done answer after.fate.struck? after.disk) ∨
    (∃ problem after, action.run.run frail = (.error problem, after) ∧
      failed after.fate.struck? after.disk)

/-- Nothing has failed so far, and the disk has a property. -/
def Calm (holds : Disk → Prop) (struck? : Option DiskOperation) (disk : Disk) : Prop :=
  struck? = none ∧ holds disk

section Run

/-- An operation is the one that fails, or it does what it does on a disk. -/
theorem run_perform (operation : DiskOperation) (action : DiskM α) (frail : Frail) :
    (perform operation action).run.run frail =
      match frail.fate.due? with
      | some mishap => (.error (.disk mishap.problem),
          ⟨operation.leaves frail.disk mishap.debris, .behind operation⟩)
      | none => ((DiskM.runOn action frail.disk).1,
          ⟨(DiskM.runOn action frail.disk).2, frail.fate.next⟩) := by
  rw [perform, Fault.run_bind]
  change StateT.run (ExceptT.run _) _ = _
  dsimp only
  cases frail.fate.due? with
  | some mishap => rfl
  | none =>
    dsimp only
    rcases DiskM.runOn action frail.disk with ⟨_ | _, _⟩ <;> rfl

end Run

section Rules

variable {before : Condition} {action : FrailM α} {done : α → Condition} {failed : Condition}

/-- A contract can be asked of fewer disks and promise less. -/
theorem Meets.mono (meets : Meets before action done failed) {before' : Condition}
    {done' : α → Condition} {failed' : Condition}
    (asked : ∀ struck disk, before' struck disk → before struck disk)
    (answered : ∀ answer struck disk, done answer struck disk → done' answer struck disk)
    (refused : ∀ struck disk, failed struck disk → failed' struck disk) :
    Meets before' action done' failed' := by
  intro frail holds
  rcases meets frail (asked _ _ holds) with
    ⟨answer, after, ran, reached⟩ | ⟨problem, after, ran, ended⟩
  · exact Or.inl ⟨answer, after, ran, answered _ _ _ reached⟩
  · exact Or.inr ⟨problem, after, ran, refused _ _ ended⟩

theorem Meets.answered (meets : Meets before action done failed) {done' : α → Condition}
    (weaker : ∀ answer struck disk, done answer struck disk → done' answer struck disk) :
    Meets before action done' failed :=
  meets.mono (fun _ _ holds => holds) weaker (fun _ _ ended => ended)

theorem Meets.asked (meets : Meets before action done failed) {before' : Condition}
    (stronger : ∀ struck disk, before' struck disk → before struck disk) :
    Meets before' action done failed :=
  meets.mono stronger (fun _ _ _ reached => reached) (fun _ _ ended => ended)

theorem Meets.ended (meets : Meets before action done failed) {failed' : Condition}
    (weaker : ∀ struck disk, failed struck disk → failed' struck disk) :
    Meets before action done failed' :=
  meets.mono (fun _ _ holds => holds) (fun _ _ _ reached => reached) weaker

/-- An answer that is related to every disk the action can start from. -/
theorem meets_answer {answer : α} (holds : ∀ struck disk, before struck disk →
    done answer struck disk) : Meets before (pure answer) done failed :=
  fun frail start => Or.inl ⟨answer, frail, rfl, holds _ _ start⟩

/-- A fault that is related to every disk the action can start from. -/
theorem meets_fault {problem : Fault} (holds : ∀ struck disk, before struck disk →
    failed struck disk) : Meets before (throw problem : FrailM α) done failed :=
  fun frail start => Or.inr ⟨problem, frail, rfl, holds _ _ start⟩

/-- An action is followed by what comes after it. -/
theorem Meets.bind {next : α → FrailM β} {finished : β → Condition}
    (first : Meets before action done failed)
    (second : ∀ answer, Meets (done answer) (next answer) finished failed) :
    Meets before (action >>= next) finished failed := by
  intro frail holds
  rw [Fault.run_bind]
  rcases first frail holds with ⟨answer, middle, ran, reached⟩ | ⟨problem, after, ran, ended⟩
  · rw [ran]
    exact second answer middle reached
  · rw [ran]
    exact Or.inr ⟨problem, after, rfl, ended⟩

/-- A fault is handed to what catches it. -/
theorem Meets.catching {handler : Fault → FrailM α} {ended : Condition}
    (first : Meets before action done ended)
    (second : ∀ problem, Meets ended (handler problem) done failed) :
    Meets before (tryCatch action handler) done failed := by
  intro frail holds
  rw [Fault.run_tryCatch]
  rcases first frail holds with ⟨answer, after, ran, reached⟩ | ⟨problem, middle, ran, stopped⟩
  · rw [ran]
    exact Or.inl ⟨answer, after, rfl, reached⟩
  · rw [ran]
    exact second problem middle stopped

/-- A loop keeps an invariant that each of its steps keeps. -/
theorem meets_forM {holds : List α → Condition} (action : α → FrailM PUnit)
    (items done : List α)
    (step : ∀ earlier, ∀ item ∈ items,
      Meets (holds earlier) (action item) (fun _ => holds (earlier ++ [item])) failed) :
    Meets (holds done) (items.forM action) (fun _ => holds (done ++ items)) failed := by
  induction items generalizing done with
  | nil => exact meets_answer fun _ _ kept => by simpa using kept
  | cons item rest inductionHypothesis =>
    have first := step done item List.mem_cons_self
    have remaining := inductionHypothesis (done ++ [item]) fun earlier other listed =>
      step earlier other (List.mem_cons_of_mem item listed)
    rw [List.append_assoc] at remaining
    exact first.bind fun _ => remaining

end Rules

section Operations

variable {before : Condition} {done : α → Condition} {failed : Condition}
  {operation : DiskOperation}

/-- An operation does what it does on a disk; as long as nothing has failed, it can fail instead. -/
theorem meets_perform {action : DiskM α}
    (goes : ∀ struck, DiskM.Meets (before struck) action (fun answer => done answer struck)
      fun _ => failed struck)
    (strikes : ∀ disk debris, before none disk →
      failed (some operation) (operation.leaves disk debris)) :
    Meets before (perform operation action) done failed := by
  intro frail start
  rw [run_perform]
  cases due : frail.fate.due? with
  | some mishap =>
    rw [Fate.struck?_of_due due] at start
    exact Or.inr ⟨_, _, rfl, strikes frail.disk mishap.debris start⟩
  | none =>
    dsimp only
    rcases goes _ frail.disk start with ⟨answer, after, ran, ends⟩ | ⟨problem, after, ran, ends⟩
    · rw [DiskM.runOn, ran]
      exact Or.inl ⟨answer, _, rfl, by simpa using ends⟩
    · rw [DiskM.runOn, ran]
      exact Or.inr ⟨problem, _, rfl, by simpa using ends⟩

/-- Looking what exists at a place changes nothing. -/
theorem meets_kind? (place : Location)
    (strikes : ∀ disk, before none disk → failed (some (.look place)) disk) :
    Meets before (FileSystem.kind? place : FrailM (Option EntryKind))
      (fun found struck disk => before struck disk ∧ found = disk.kind? place) failed := by
  refine meets_perform (fun struck disk start => ?_) fun disk _ start => strikes disk start
  exact Or.inl ⟨disk.kind? place, disk, DiskM.run_look _ ⟨disk, none⟩, start, rfl⟩

theorem meets_exists? (place : Location)
    (strikes : ∀ disk, before none disk → failed (some (.look place)) disk) :
    Meets before (FileSystem.exists? place : FrailM Bool)
      (fun found struck disk => before struck disk ∧ found = (disk.entry? place).isSome)
      failed := by
  refine (meets_kind? place strikes).bind fun found => meets_answer ?_
  rintro struck disk ⟨start, same⟩
  exact ⟨start, by simp [same, Disk.kind?]⟩

/-- A change that fails by itself leaves the disk as it was. -/
theorem meets_change {act : Disk → Except DiskProblem Disk}
    (refused : ∀ struck disk problem, before struck disk → act disk = .error problem →
      failed struck disk)
    (strikes : ∀ disk debris, before none disk →
      failed (some operation) (operation.leaves disk debris)) :
    Meets before (perform operation (DiskM.change act))
      (fun _ struck after => ∃ disk, before struck disk ∧ act disk = .ok after) failed := by
  refine meets_perform (fun struck disk start => ?_) strikes
  have ran := DiskM.run_change act disk
  cases outcome : act disk with
  | ok after =>
    rw [outcome] at ran
    exact Or.inl ⟨(), after, ran, disk, start, outcome⟩
  | error problem =>
    rw [outcome] at ran
    exact Or.inr ⟨_, disk, ran, refused struck disk problem start outcome⟩

/-- A scratch folder is new, and its name begins as it is asked to. -/
theorem meets_makeScratch (folder : Location) (start : String)
    (refused : ∀ struck disk, before struck disk → failed struck disk)
    (strikes : ∀ disk, before none disk → failed (some (.makeScratch folder)) disk) :
    Meets before (FileSystem.makeScratch folder start : FrailM Location)
      (fun place struck after => (∃ number : Nat, place = folder ++ [start ++ toString number]) ∧
        ∃ disk, before struck disk ∧ disk.makeFolder place = .ok after) failed :=
  meets_perform (fun struck => (DiskM.meets_makeScratch folder start).ended
    fun _ disk both => refused struck disk both.1) fun disk _ begins => strikes disk begins

end Operations

end FrailM

end FeatureLayout
