import FeatureLayout.Proofs.Disk.Commit
import FeatureLayout.Proofs.Disk.Follow

/-!
# Filling a destination again

A destination that has been filled by some work can be filled by the same work again: its scratch
folder finds a free place, the commit has a folder to move aside and a free place for it, and when
the work does the same in both scratch folders, the disk is left as it is.
-/

namespace FeatureLayout

open Text DiskM

/-- No entry is reached through a name that leads upwards. -/
def Disk.Upright (disk : Disk) : Prop := ∀ place, (disk.entry? place).isSome → ".." ∉ place

/-- Proper names lead nowhere else. -/
theorem Disk.Proper.upright {disk : Disk} (proper : disk.Proper) : disk.Upright :=
  fun place present climbs => (proper place present ".." climbs).2.2.1 rfl

namespace FileSystem

/-- Providing folders never uses a name that leads upwards. -/
theorem upright_of_provideFolders {disk : Disk} (upright : disk.Upright) {place : Location}
    (start : ".." ∉ place) {segments : List String} {after : Device}
    (ran : RunsTo ⟨disk, none⟩ (provideFolders place segments) () after) :
    after.disk.Upright := by
  induction segments generalizing disk place with
  | nil =>
    obtain ⟨-, rfl⟩ := runsTo_pure_iff.mp ran
    exact upright
  | cons segment rest inductionHypothesis =>
    obtain ⟨_, middle, first, later⟩ := runsTo_bind_iff.mp ran
    obtain ⟨provided, rfl, -, changed⟩ := provided_of_runsTo first
    have down : ".." ∉ place.step segment := by
      unfold Location.step
      split
      · exact fun climbs => start (List.dropLast_subset _ climbs)
      · next other =>
        intro climbs
        rcases List.mem_append.mp climbs with above | last
        · exact start above
        · exact other (beq_iff_eq.mpr (List.mem_singleton.mp last).symm)
    refine inductionHypothesis (fun tested present => ?_) down later
    rw [changed] at present
    split at present
    · next same => exact same ▸ down
    · exact upright tested present

end FileSystem

namespace StagingArea

variable {parent : Location} {name other : String} {start disk : Disk} {after : Device}

/-- The tree of a new folder. -/
def bareTree (rest : Location) : Option DiskEntry := if rest = [] then some .folder else none

/-- A scratch folder that is entered is a new folder beside the destination, in a folder that has
been provided. -/
theorem entered_of_runsTo {area : StagingArea}
    (ran : RunsTo ⟨disk, none⟩ (enter (parent ++ [name])) area after) :
    ∃ other base entered, after = ⟨entered, none⟩ ∧
      area = ⟨parent ++ [name], parent ++ [other], false⟩ ∧ name ≠ other ∧ ".." ≠ other ∧
      RunsTo ⟨disk, none⟩ (FileSystem.provideFolders [] parent) () ⟨base, none⟩ ∧
      disk.Extended base ∧ base.makeFolder (parent ++ [other]) = .ok entered := by
  unfold enter at ran
  rw [List.dropLast_concat] at ran
  obtain ⟨_, _, provided, rest⟩ := runsTo_bind_iff.mp ran
  obtain ⟨base, rfl, extended⟩ :=
    (FileSystem.meets_provideFolders disk _ []).of_runsTo (Disk.Extended.refl disk) provided
  obtain ⟨place, _, makes, same⟩ := runsTo_bind_iff.mp rest
  obtain ⟨rfl, rfl⟩ := runsTo_pure_iff.mp same
  obtain ⟨number, rfl, entered, made, rfl⟩ := scratch_of_runsTo makes
  obtain ⟨differ, apart⟩ := scratchName_ne parent name "staging" number
  exact ⟨_, base, entered, rfl, rfl, differ, apart, provided, extended, made⟩

/-- In a folder, a scratch folder can be entered. -/
theorem exists_entered (upright : ".." ∉ parent)
    (folders : ∀ front, front <+: parent → disk.entry? front = some .folder) (name : String) :
    ∃ area entered, RunsTo ⟨disk, none⟩ (enter (parent ++ [name])) area ⟨entered, none⟩ := by
  have clear (front : Location) (begins : front <+: parent) : disk.file? ([] ++ front) = none := by
    simp [Disk.file?, folders front begins]
  obtain ⟨base, provided⟩ := FileSystem.exists_paved upright disk.entry?_root clear
  obtain ⟨_, ⟨rfl⟩, paved⟩ := FileSystem.paved_of_runsTo upright disk.entry?_root provided
  have inside : base.entry? parent = some .folder := by
    rw [paved.ofRoot, if_pos (List.prefix_refl _)]
  obtain ⟨scratch, entered, made⟩ :=
    exists_scratch inside (scratchName (parent ++ [name]) "staging")
  refine ⟨⟨parent ++ [name], scratch, false⟩, entered, ?_⟩
  unfold enter
  rw [List.dropLast_concat]
  exact provided.bind (made.bind (runsTo_pure_iff.mpr ⟨rfl, rfl⟩))

/-- A new folder encloses all changes, and its tree is bare. -/
theorem enclosed_of_makeFolder {base entered : Disk} {scratch : Location} (rooted : base.Rooted)
    (made : base.makeFolder scratch = .ok entered) :
    base.entry? scratch = none ∧ Enclosed scratch base entered ∧
      entered.tree scratch = bareTree := by
  obtain ⟨free, inside, changed⟩ := Disk.makeFolder_ok made
  refine ⟨free, ⟨rooted.put inside (by simp [free]) changed, ?_, ?_⟩, ?_⟩
  · rw [changed, if_pos rfl]
  · intro place outside
    refine (changed place).trans (if_neg ?_)
    rintro rfl
    exact outside (List.prefix_refl _)
  · funext rest
    simp [Disk.tree, bareTree, changed, rooted.entry?_below free]

/-- A destination that exists can be moved aside. -/
theorem exists_moveAside (rooted : start.Rooted)
    (present : (start.entry? (parent ++ [name])).isSome) (committed : Bool) :
    ∃ backup left, RunsTo ⟨start, none⟩
      (moveAside ⟨parent ++ [name], parent ++ [other], committed⟩) (some backup) ⟨left, none⟩ := by
  have inside := rooted parent name present
  obtain ⟨backup, made, scratched⟩ :=
    exists_scratch inside (scratchName (parent ++ [name]) "backup")
  obtain ⟨number, rfl, _, makes, ⟨rfl⟩⟩ := scratch_of_runsTo scratched
  set third := scratchName (parent ++ [name]) "backup" ++ toString number
  obtain ⟨free, -, changed⟩ := Disk.makeFolder_ok makes
  have empty (rest : Location) (more : rest ≠ []) :
      made.entry? (parent ++ [third] ++ rest) = none := by
    rw [changed, if_neg (by simpa using more), rooted.entry?_below free]
  obtain ⟨removed, removes⟩ := Disk.exists_removeFolder ((changed _).trans (if_pos rfl)) empty
  obtain rfl := Disk.removeFolder_ok removes
  have unchanged := entry?_scratched rooted makes
  obtain ⟨left, renames⟩ : ∃ left, (made.without (parent ++ [third])).rename (parent ++ [name])
      (parent ++ [third]) = .ok left :=
    Disk.exists_rename (by rwa [unchanged]) (by rw [unchanged, free])
      (by rw [List.dropLast_concat, unchanged, inside])
  refine ⟨parent ++ [third], left, ?_⟩
  unfold moveAside
  dsimp only
  rw [List.dropLast_concat]
  refine (runsTo_exists?_iff.mpr ⟨rfl, rfl⟩).bind ?_
  rw [if_pos present]
  exact scratched.bind ((runsTo_change removes).bind ((runsTo_change renames).bind
    (runsTo_pure_iff.mpr ⟨rfl, rfl⟩)))

/-- A folder that exists can be replaced by a scratch folder beside it. -/
theorem exists_commit (rooted : start.Rooted) (differ : name ≠ other)
    (folder : start.entry? (parent ++ [other]) = some .folder)
    (present : start.entry? (parent ++ [name]) = some .folder) :
    ∃ left, RunsTo ⟨start, none⟩ (commit ⟨parent ++ [name], parent ++ [other], false⟩)
      ⟨⟨parent ++ [name], parent ++ [other], true⟩, none⟩ ⟨left, none⟩ := by
  have there : (start.entry? (parent ++ [name])).isSome := by rw [present]; rfl
  obtain ⟨backup, aside, moved⟩ : ∃ backup aside, RunsTo ⟨start, none⟩
      (moveAside ⟨parent ++ [name], parent ++ [other], false⟩) (some backup) ⟨aside, none⟩ :=
    exists_moveAside rooted there false
  obtain ⟨_, ⟨rfl⟩, cleared⟩ := (meets_moveAside rooted folder false).of_runsTo rfl moved
  obtain ⟨third, rfl, apart, away⟩ := (cleared.beside _ rfl).named
  have spared (place : Location) (outside : ¬ parent ++ [third] <+: place) :
      ∀ backup ∈ some (parent ++ [third]), ¬ backup <+: place := by
    rintro _ ⟨⟩
    exact outside
  have scratch : aside.entry? (parent ++ [other]) = some .folder := by
    rw [cleared.others _ (Location.siblings_apart (Ne.symm differ) (List.prefix_refl _))
      (spared _ (Location.siblings_apart (Ne.symm away) (List.prefix_refl _))), folder]
  have inside := cleared.rooted parent other (by simp [scratch])
  obtain ⟨swapped, renames⟩ : ∃ swapped,
      aside.rename (parent ++ [other]) (parent ++ [name]) = .ok swapped :=
    Disk.exists_rename (by simp [scratch]) cleared.vacated (by rw [List.dropLast_concat, inside])
  obtain ⟨_, ⟨rfl⟩, settled⟩ := (meets_replace differ (some (parent ++ [third]))).of_runsTo cleared
    (runsTo_change renames)
  obtain ⟨left, removes⟩ := Disk.exists_removeTree ((settled.kept _ rfl).trans present)
  have discards : RunsTo ⟨swapped, none⟩ (FileSystem.removeTree (parent ++ [third])) ()
      ⟨left, none⟩ := runsTo_change removes
  refine ⟨left, moved.bind (((runsTo_change renames).catching _).bind ?_)⟩
  unfold discard
  refine RunsTo.catching ?_ _
  exact discards.bind (runsTo_pure_iff.mpr ⟨rfl, rfl⟩)

/-- A destination is filled when a scratch folder is entered, the work is done there, and it is
committed with nothing left over. -/
theorem runsTo_fill_iff {destination : Location} {work : StagingArea → DiskM Unit}
    {start after : Device} :
    RunsTo start (fill destination work) () after ↔
      ∃ area entered worked done committed, RunsTo start (enter destination) area entered ∧
        RunsTo entered (work area) () worked ∧ RunsTo worked area.commit done committed ∧
        RunsTo committed done.area.leave () after ∧ done.leftover = none := by
  constructor
  · intro ran
    obtain ⟨area, entered, enters, rest⟩ := runsTo_bind_iff.mp ran
    obtain ⟨done, committed, tried, last⟩ := runsTo_bind_iff.mp rest
    obtain ⟨_, left, leaves, ends⟩ := runsTo_bind_iff.mp last
    have both := tried.of_catching fun problem middle stopped => by
      obtain ⟨_, _, -, never⟩ := runsTo_bind_iff.mp stopped
      exact not_runsTo_throw never
    obtain ⟨_, worked, works, commits⟩ := runsTo_bind_iff.mp both
    cases leftover : done.leftover with
    | some problem =>
      rw [leftover] at ends
      exact absurd ends not_runsTo_throw
    | none =>
      rw [leftover] at ends
      obtain ⟨-, rfl⟩ := runsTo_pure_iff.mp ends
      exact ⟨area, entered, worked, done, committed, enters, works, commits, leaves, leftover⟩
  · rintro ⟨area, entered, worked, done, committed, enters, works, commits, leaves, leftover⟩
    refine enters.bind (RunsTo.bind ((works.bind commits).catching _) (leaves.bind ?_))
    rw [leftover]
    exact runsTo_pure_iff.mpr ⟨rfl, rfl⟩

/-- What a commit puts in its place leaves everything elsewhere as it was before the staging. -/
theorem Swapped.outside {destination scratch : Location} {staged left : Disk}
    (swapped : Swapped destination scratch staged left) (rooted : start.Rooted)
    (vacant : start.entry? scratch = none) (enclosed : Enclosed scratch start staged)
    {place : Location} (outside : ¬ destination <+: place) :
    left.entry? place = start.entry? place := by
  rw [swapped.others place outside]
  split
  · next inside =>
    obtain ⟨rest, rfl⟩ := inside
    exact (rooted.entry?_below vacant rest).symm
  · next elsewhere => exact enclosed.others place elsewhere

/-- Work that does the same in all scratch folders that it can be given before and after a
destination is filled. -/
def Repeatable (destination : Location) (disk : Disk) (work : StagingArea → DiskM Unit) : Prop :=
  ∀ base left first second, disk.Extended base → base.Rooted → left.Rooted →
    (∀ place, ¬ destination <+: place → left.entry? place = base.entry? place) →
    base.entry? first = none → left.entry? second = none → ".." ∉ first → ".." ∉ second →
    Follows (Paired first second base left) (work ⟨destination, first, false⟩)
      (work ⟨destination, second, false⟩)

/-- How a destination is filled by work in a scratch folder: the folder is new on the disk that the
work starts from, the work stays in it, and its tree takes the place of the destination. -/
structure Filling (parent : Location) (name other : String) (work : StagingArea → DiskM Unit)
    (base entered staged left : Disk) : Prop where
  upright : ".." ∉ parent ++ [other]
  rooted : base.Rooted
  made : base.makeFolder (parent ++ [other]) = .ok entered
  works : RunsTo ⟨entered, none⟩ (work ⟨parent ++ [name], parent ++ [other], false⟩) () ⟨staged, none⟩
  enclosed : Enclosed (parent ++ [other]) base staged
  swapped : Swapped (parent ++ [name]) (parent ++ [other]) staged left

variable {work : StagingArea → DiskM Unit} {base entered staged left : Disk}

/-- Nothing is in the place of a scratch folder before. -/
theorem Filling.vacant (filling : Filling parent name other work base entered staged left) :
    base.entry? (parent ++ [other]) = none :=
  (Disk.makeFolder_ok filling.made).1

/-- Outside the destination, everything is left as it was. -/
theorem Filling.outside (filling : Filling parent name other work base entered staged left)
    {place : Location} (outside : ¬ parent ++ [name] <+: place) :
    left.entry? place = base.entry? place :=
  filling.swapped.outside filling.rooted filling.vacant filling.enclosed outside

/-- The destination is a folder. -/
theorem Filling.folder (filling : Filling parent name other work base entered staged left) :
    left.entry? (parent ++ [name]) = some .folder := by
  have arrived := filling.swapped.arrived []
  rwa [List.append_nil, List.append_nil, filling.enclosed.folder] at arrived

/-- A destination that has been filled was filled that way. -/
theorem filling_of_runsTo (rooted : disk.Rooted) (upright : disk.Upright)
    (repeats : Repeatable (parent ++ [name]) disk work)
    (filled : RunsTo ⟨disk, none⟩ (fill (parent ++ [name]) work) () after) :
    ∃ other base entered staged left, after = ⟨left, none⟩ ∧ disk.Extended base ∧
      Filling parent name other work base entered staged left := by
  obtain ⟨area, _, worked, done, _, enters, works, commits, leaves, leftover⟩ :=
    runsTo_fill_iff.mp filled
  obtain ⟨other, base, entered, rfl, rfl, differ, apart, provided, extended, made⟩ :=
    entered_of_runsTo enters
  have whole := extended.rooted rooted
  obtain ⟨vacant, enclosed, -⟩ := enclosed_of_makeFolder whole made
  have up : ".." ∉ parent ++ [other] := by
    have inside : base.entry? parent = some .folder := by
      simpa using (Disk.makeFolder_ok made).2.1
    have above := FileSystem.upright_of_provideFolders upright List.not_mem_nil provided
    simpa [apart] using above parent (by simp [inside])
  -- The work is followed by itself, which tells what it does on its own.
  obtain ⟨staged, _, rfl, -, paired⟩ := repeats base base _ _ extended whole whole (fun _ _ => rfl)
    vacant vacant up up entered entered ⟨enclosed, enclosed, rfl⟩ () _ works
  obtain ⟨left, rfl, sound⟩ := (meets_commit paired.here.rooted differ paired.here.folder).of_runsTo
    rfl commits
  have stays : done.area.leave = (pure () : DiskM Unit) := by simp [leave, sound.committed]
  rw [stays] at leaves
  obtain ⟨-, rfl⟩ := runsTo_pure_iff.mp leaves
  exact ⟨other, base, entered, staged, left, rfl, extended, up, whole, made, works, paired.here,
    sound.swapped leftover⟩

/-- A destination that has been filled by some work is filled by the same work again, and that
leaves every entry of the disk as it is. -/
theorem exists_refilled (filling : Filling parent name other work base entered staged left)
    (extended : disk.Extended base) (repeats : Repeatable (parent ++ [name]) disk work) :
    ∃ again, RunsTo ⟨left, none⟩ (fill (parent ++ [name]) work) () ⟨again, none⟩ ∧
      ∀ place, again.entry? place = left.entry? place := by
  have rooted := filling.swapped.rooted
  have up : ".." ∉ parent := fun climbs => filling.upright (List.mem_append_left _ climbs)
  have inside := rooted parent name (by rw [filling.folder]; rfl)
  obtain ⟨area, fresh, enters⟩ := exists_entered up (fun _ begins => rooted.above inside begins) name
  obtain ⟨third, ground, _, ⟨rfl⟩, rfl, differ, apart, provided, grows, made⟩ :=
    entered_of_runsTo enters
  obtain ⟨_, ⟨rfl⟩, paved⟩ := FileSystem.paved_of_runsTo up left.entry?_root provided
  have same (place : Location) : ground.entry? place = left.entry? place := by
    rw [paved.ofRoot]
    split
    · next begins => exact (rooted.above inside begins).symm
    · rfl
  obtain ⟨free, new, bare⟩ := enclosed_of_makeFolder (grows.rooted rooted) made
  obtain ⟨-, old, alsoBare⟩ := enclosed_of_makeFolder filling.rooted filling.made
  have enclosed : Enclosed (parent ++ [third]) left fresh :=
    ⟨new.rooted, new.folder, fun place outside => (new.others place outside).trans (same place)⟩
  have vacant : left.entry? (parent ++ [third]) = none := (same _).symm.trans free
  obtain ⟨_, renewed, ⟨rfl⟩, works, paired⟩ := repeats base left _ _ extended filling.rooted rooted
    (fun place outside => filling.outside outside) filling.vacant vacant filling.upright
    (by simpa [apart] using up) entered fresh ⟨old, enclosed, alsoBare.trans bare.symm⟩ () _
    filling.works
  have present : renewed.entry? (parent ++ [name]) = some .folder := by
    rw [paired.there.others _ (Location.siblings_apart differ (List.prefix_refl _)), filling.folder]
  obtain ⟨again, commits⟩ :=
    exists_commit paired.there.rooted differ paired.there.folder present
  obtain ⟨_, ⟨rfl⟩, sound⟩ :=
    (meets_commit paired.there.rooted differ paired.there.folder).of_runsTo rfl commits
  have swapped := sound.swapped rfl
  have leaves : RunsTo ⟨again, none⟩
      (leave ⟨parent ++ [name], parent ++ [third], true⟩ : DiskM Unit) () ⟨again, none⟩ :=
    runsTo_pure_iff.mpr ⟨rfl, rfl⟩
  refine ⟨again, runsTo_fill_iff.mpr ⟨_, _, _, _, _, enters, works, commits, leaves, rfl⟩, ?_⟩
  intro place
  by_cases inside : parent ++ [name] <+: place
  · obtain ⟨rest, rfl⟩ := inside
    rw [swapped.arrived, filling.swapped.arrived]
    exact (congrFun paired.alike rest).symm
  · exact swapped.outside rooted vacant paired.there inside

end StagingArea

end FeatureLayout
