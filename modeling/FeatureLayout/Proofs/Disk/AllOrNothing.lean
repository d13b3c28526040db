import FeatureLayout.Proofs.Disk.Confined

/-!
# All or nothing

Files are written into a staging area, which is then committed, left as it is, or left with a fault.
On a disk on which one operation can fail, the destination holds the staged tree afterwards or the
tree that was there before, and nothing else. When the area was left without a fault, a commit has
put the staged tree there; when it was left with one, the tree is the old one, but for a single
operation: what was moved aside is removed only after the swap, and when that fails, the staged tree
is in place and a fault is reported nevertheless.
-/

namespace FeatureLayout

open Text

namespace StagingArea

section Blocks

variable {m : Type → Type} [Monad m] [MonadExceptOf Fault m] [FileSystem m]

/-- Leaves the area of work that has ended without a fault, and reports what is left over. -/
def finish (done : Commit) : m Unit := do
  done.area.leave
  match done.leftover with
  | none => return ()
  | some problem => throw problem

/-- Enters a staging area for some work, and leaves it when the work has ended, with a fault or
without. -/
def within (destination : Location) (work : StagingArea → m Commit) : m Unit := do
  let area ← enter destination
  let done ←
    try
      work area
    catch problem =>
      area.leave
      throw problem
  finish done

/-- How work in a staging area ends. -/
inductive Ending where
  | commit
  | abandon
  | fault (problem : Fault)

/-- Whether work ends with a commit. -/
def Ending.commits : Ending → Bool
  | .commit => true
  | _ => false

/-- Ends work in a staging area. -/
def Ending.close (area : StagingArea) : Ending → m Commit
  | .commit => area.commit
  | .abandon => return ⟨area, none⟩
  | .fault problem => throw problem

/-- Writes files into a staging area. -/
def stage (destination : Location) (writes : List (String × ByteArray)) (ending : Ending) :
    m Unit :=
  within destination fun area => do
    writes.forM fun written => area.writeFile written.1 written.2
    ending.close area

/-- Files that are written and committed fill the destination. -/
theorem stage_commit (destination : Location) (writes : List (String × ByteArray)) :
    (stage destination writes .commit : m Unit) =
      fill destination fun area =>
        writes.forM fun written => area.writeFile written.1 written.2 := rfl

end Blocks

/-- The names of folders that hold staged trees are none of those that trees moved aside have. -/
theorem staging_ne_backup (destination : Location) (first second : Nat) :
    scratchName destination "staging" ++ toString first ≠
      scratchName destination "backup" ++ toString second := by
  intro same
  have letters := congrArg String.toList same
  simp [scratchName, String.toList_append] at letters

/-- A tree that had been moved aside was being removed when an operation failed. -/
def LeftOver (destination : Location) (struck? : Option DiskOperation) : Prop :=
  ∃ number : Nat, struck? = some (.removeTree
    (destination.dropLast ++ [scratchName destination "backup" ++ toString number]))

end StagingArea

namespace FrailM

open StagingArea

variable {parent : Location} {name other : String} {start disk : Disk}
  {tree : Location → Option DiskEntry} {struck? : Option DiskOperation}

theorem Spared.not_leftOver (spared : Spared struck?) (destination : Location) :
    ¬ LeftOver destination struck? :=
  fun ⟨_, same⟩ => spared _ same

/-- The tree below the destination is the one it was, and no tree was left over. -/
def Untouched (destination : Location) (tree : Location → Option DiskEntry) : Condition :=
  fun struck disk => ¬ LeftOver destination struck ∧ disk.tree destination = tree

section Entering

/-- Folders that are not below the destination do not change its tree. -/
theorem Provided.tree_eq {destination place : Location} {after : Disk}
    (provided : Provided disk place after) (shorter : place.length < destination.length) :
    after.tree destination = disk.tree destination := by
  funext rest
  refine (provided.changed _).trans (if_neg ?_)
  rintro rfl
  rw [List.length_append] at shorter
  omega

/-- One step leads one level down at most. -/
theorem length_step_le (place : Location) (segment : String) :
    (place.step segment).length ≤ place.length + 1 := by
  unfold Location.step
  split
  · rw [List.length_dropLast]
    omega
  · rw [List.length_append, List.length_singleton]

/-- A new scratch folder beside the destination encloses all that will change. -/
theorem meets_enter (rooted : start.Rooted) (parent : Location) (name : String) :
    Meets (Calm (· = start)) (enter (parent ++ [name]) : FrailM StagingArea)
      (fun area => Calm fun disk => ∃ (number : Nat) (base : Disk),
        area = ⟨parent ++ [name],
          parent ++ [scratchName (parent ++ [name]) "staging" ++ toString number], false⟩ ∧
        base.tree (parent ++ [name]) = start.tree (parent ++ [name]) ∧
        Enclosed area.scratch base disk ∧ disk.tree area.scratch = bareTree)
      (Untouched (parent ++ [name]) (start.tree (parent ++ [name]))) := by
  -- The folders on the way are above the destination.
  let onTheWay (place : Location) (segments : List String) (disk : Disk) : Prop :=
    place.length + segments.length ≤ parent.length ∧ disk.Rooted ∧
      disk.tree (parent ++ [name]) = start.tree (parent ++ [name])
  have folders : Meets (Calm (onTheWay [] parent))
      (FileSystem.provideFolders [] parent : FrailM Unit)
      (fun _ => Calm (onTheWay (parent.foldl Location.step []) []))
      (Untouched (parent ++ [name]) (start.tree (parent ++ [name]))) := by
    refine meets_provideFolders ?_ ?_ [] parent
    · rintro place segment rest disk after ⟨fits, rooted, same⟩ provided
      have longer := length_step_le place segment
      rw [List.length_cons] at fits
      refine ⟨by omega, provided.extended.rooted rooted, ?_⟩
      rw [provided.tree_eq (by rw [List.length_append, List.length_singleton]; omega), same]
    · rintro place segments struck disk spared ⟨-, -, same⟩
      exact ⟨spared.not_leftOver _, same⟩
  unfold enter
  rw [List.dropLast_concat]
  refine (folders.asked ?_).bind fun _ => (meets_makeScratch _ _ ?_ ?_).bind fun place =>
    meets_answer ?_
  · rintro struck _ ⟨calm, rfl⟩
    exact ⟨calm, by simp, rooted, rfl⟩
  · rintro struck disk ⟨rfl, -, -, same⟩
    exact ⟨spared_none.not_leftOver _, same⟩
  · rintro disk ⟨-, -, -, same⟩
    exact ⟨(spared_some rfl).not_leftOver _, same⟩
  · rintro struck disk ⟨⟨number, rfl⟩, base, ⟨calm, -, whole, same⟩, made⟩
    obtain ⟨-, enclosed, bare⟩ := enclosed_of_makeFolder whole made
    exact ⟨calm, number, base, rfl, same, enclosed, bare⟩

end Entering

section Committing

/-- A disk on which what was in the place of the destination is aside with all below it. -/
structure SetAside (parent : Location) (name other : String) (start : Disk)
    (aside : Option Location) (disk : Disk) : Prop where
  cleared : Cleared parent name other start aside disk
  unneeded : aside = none → disk = start
  folder : ∀ backup ∈ aside, start.entry? (parent ++ [name]) = some .folder
  whole : ∀ backup ∈ aside, ∀ rest,
    disk.entry? (backup ++ rest) = start.entry? (parent ++ [name] ++ rest)
  named : ∀ backup ∈ aside, ∃ number : Nat,
    backup = parent ++ [scratchName (parent ++ [name]) "backup" ++ toString number]

/-- The folder of the destination is there. -/
theorem SetAside.inside {aside : Option Location}
    (setAside : SetAside parent name other start aside disk) (rooted : start.Rooted)
    (folder : start.entry? (parent ++ [other]) = some .folder) :
    disk.entry? parent = some .folder := by
  have above (last : String) : ¬ parent ++ [last] <+: parent := by
    intro longer
    have lengths := longer.length_le
    rw [List.length_append, List.length_singleton] at lengths
    omega
  rw [setAside.cleared.others parent (above name), rooted parent other (by simp [folder])]
  intro backup moves
  obtain ⟨third, rfl, -, -⟩ := (setAside.cleared.beside backup moves).named
  exact above third

/-- What exists and is no file is a folder. -/
theorem folder_of_present {place : Location} (present : (start.entry? place).isSome)
    (noFile : start.file? place = none) : start.entry? place = some .folder := by
  obtain ⟨entry, found⟩ := Option.isSome_iff_exists.mp present
  cases entry with
  | folder => exact found
  | file content => exact absurd found ((Disk.file?_eq_none_iff start place).mp noFile content)

/-- The tree below the destination is what it was at the start, and no tree was being removed. -/
def Kept (parent : Location) (name : String) (start : Disk) : Condition := fun struck disk =>
  Spared struck ∧ disk.tree (parent ++ [name]) = start.tree (parent ++ [name])

/-- A new folder beside the destination is not below it. -/
theorem tree_of_makeFolder {third : String} {made : Disk}
    (present : (start.entry? (parent ++ [name])).isSome)
    (makes : start.makeFolder (parent ++ [third]) = .ok made) :
    made.tree (parent ++ [name]) = start.tree (parent ++ [name]) := by
  obtain ⟨free, -, changed⟩ := Disk.makeFolder_ok makes
  have apart : third ≠ name := by
    rintro rfl
    rw [free] at present
    cases present
  funext rest
  refine (changed _).trans (if_neg fun same => ?_)
  exact Location.siblings_apart apart (List.prefix_refl _) ⟨rest, same⟩

/-- A folder that has been made and removed again leaves every tree as it was. -/
theorem tree_of_scratched (rooted : start.Rooted) {place folder : Location} {made emptied : Disk}
    (makes : start.makeFolder place = .ok made)
    (removed : made.removeFolder place = .ok emptied) :
    emptied.tree folder = start.tree folder := by
  obtain rfl := Disk.removeFolder_ok removed
  funext rest
  exact entry?_scratched rooted makes _

/-- Moving the destination aside takes all below it along, or leaves it in its place. -/
theorem meets_moveAside (rooted : start.Rooted)
    (folder : start.entry? (parent ++ [other]) = some .folder)
    (noFile : start.file? (parent ++ [name]) = none) :
    Meets (Calm (· = start))
      (moveAside ⟨parent ++ [name], parent ++ [other], false⟩ : FrailM (Option Location))
      (fun aside => Calm (SetAside parent name other start aside)) (Kept parent name start) := by
  unfold moveAside
  refine (meets_exists? _ ?_).bind fun found => ?_
  · rintro _ ⟨-, rfl⟩
    exact ⟨spared_some rfl, rfl⟩
  cases found with
  | false =>
    refine meets_answer ?_
    rintro struck _ ⟨⟨calm, rfl⟩, absent⟩
    refine ⟨calm, cleared_of_absent rooted (by simpa using absent), fun _ => rfl, ?_, ?_, ?_⟩ <;>
    · rintro _ ⟨⟩
  | true =>
    -- Nothing below the destination is touched before it is moved.
    rw [List.dropLast_concat]
    refine (meets_makeScratch _ _ ?_ ?_).bind fun backup =>
      (meets_change ?_ ?_).bind fun _ => (meets_change ?_ ?_).bind fun _ => meets_answer ?_
    · rintro struck _ ⟨⟨rfl, rfl⟩, -⟩
      exact ⟨spared_none, rfl⟩
    · rintro _ ⟨⟨-, rfl⟩, -⟩
      exact ⟨spared_some rfl, rfl⟩
    · rintro struck made _ ⟨⟨number, rfl⟩, _, ⟨⟨rfl, rfl⟩, present⟩, makes⟩ -
      exact ⟨spared_none, tree_of_makeFolder present.symm makes⟩
    · rintro made debris ⟨⟨number, rfl⟩, _, ⟨⟨-, rfl⟩, present⟩, makes⟩
      exact ⟨spared_some rfl, tree_of_makeFolder present.symm makes⟩
    · rintro struck emptied _ ⟨made, ⟨-, _, ⟨⟨rfl, rfl⟩, -⟩, makes⟩, removed⟩ -
      exact ⟨spared_none, tree_of_scratched rooted makes removed⟩
    · rintro emptied debris ⟨made, ⟨-, _, ⟨⟨-, rfl⟩, -⟩, makes⟩, removed⟩
      exact ⟨spared_some rfl, tree_of_scratched rooted makes removed⟩
    · rintro struck after ⟨emptied, ⟨made, ⟨⟨number, rfl⟩, _, ⟨⟨calm, rfl⟩, present⟩, makes⟩,
        removed⟩, renamed⟩
      obtain ⟨cleared, whole⟩ :=
        cleared_of_rename rooted folder present.symm makes removed renamed
      refine ⟨calm, cleared, (fun nothing => nomatch nothing), ?_, ?_, ?_⟩
      · rintro _ ⟨⟩
        exact folder_of_present present.symm noFile
      · rintro _ ⟨⟩
        exact whole
      · rintro _ ⟨⟩
        exact ⟨number, rfl⟩

/-- What was moved aside can be brought back, and then it is as it was. -/
theorem SetAside.brought_back {backup : Location}
    (setAside : SetAside parent name other start (some backup) disk) (rooted : start.Rooted)
    (folder : start.entry? (parent ++ [other]) = some .folder) :
    ∃ after, disk.rename backup (parent ++ [name]) = .ok after ∧
      after.tree (parent ++ [name]) = start.tree (parent ++ [name]) := by
  have present : disk.entry? backup = some .folder := by
    rw [setAside.cleared.kept backup rfl, setAside.folder backup rfl]
  have inside : disk.entry? (parent ++ [name]).dropLast = some .folder := by
    rw [List.dropLast_concat]
    exact setAside.inside rooted folder
  obtain ⟨after, renamed⟩ :=
    Disk.exists_rename (by rw [present]; rfl) setAside.cleared.vacated inside
  obtain ⟨third, rfl, -, -⟩ := (setAside.cleared.beside backup rfl).named
  have moved := Disk.rename_ok setAside.cleared.rooted (by simp) renamed
  refine ⟨after, renamed, ?_⟩
  funext rest
  exact (moved.arrived rest).trans (setAside.whole _ rfl rest)

/-- When the staged tree could not be put in its place because an operation failed, what was there
before comes back. -/
theorem meets_restore (rooted : start.Rooted)
    (folder : start.entry? (parent ++ [other]) = some .folder) (aside : Option Location)
    (problem : Fault) {done : Unit → Condition} :
    Meets (fun struck disk => struck = some (.rename (parent ++ [other]) (parent ++ [name])) ∧
        SetAside parent name other start aside disk)
      (restore ⟨parent ++ [name], parent ++ [other], false⟩ aside problem : FrailM Unit) done
      (Kept parent name start) := by
  cases aside with
  | none =>
    refine meets_fault ?_
    rintro struck disk ⟨rfl, setAside⟩
    exact ⟨spared_some rfl, by rw [setAside.unneeded rfl]⟩
  | some backup =>
    refine (meets_change ?_ ?_).bind fun _ => meets_fault ?_
    · rintro struck disk reason ⟨-, setAside⟩ stuck
      obtain ⟨after, renamed, -⟩ := setAside.brought_back rooted folder
      rw [renamed] at stuck
      cases stuck
    · rintro disk debris ⟨impossible, -⟩
      cases impossible
    · rintro struck after ⟨disk, ⟨rfl, setAside⟩, renames⟩
      obtain ⟨_, renamed, same⟩ := setAside.brought_back rooted folder
      rw [renamed] at renames
      obtain rfl := Except.ok.inj renames
      exact ⟨spared_some rfl, same⟩

/-- The staged tree can be put in the place that has been cleared. -/
theorem SetAside.exists_settled {aside : Option Location}
    (setAside : SetAside parent name other start aside disk) (rooted : start.Rooted)
    (differ : name ≠ other) (folder : start.entry? (parent ++ [other]) = some .folder) :
    ∃ after, disk.rename (parent ++ [other]) (parent ++ [name]) = .ok after := by
  have present : disk.entry? (parent ++ [other]) = some .folder := by
    have staged := setAside.cleared.staged differ []
    rwa [List.append_nil, folder] at staged
  refine Disk.exists_rename (by rw [present]; rfl) setAside.cleared.vacated ?_
  rw [List.dropLast_concat]
  exact setAside.inside rooted folder

/-- A commit that took place: the staged tree is in the place of the destination, and whatever
failed, failed when what had been there was being removed. -/
structure Committed (destination : Location) (existed : Bool)
    (tree : Location → Option DiskEntry) (done : Commit) (struck? : Option DiskOperation)
    (disk : Disk) : Prop where
  committed : done.area.committed = true
  arrived : disk.tree destination = tree
  calm : done.leftover = none → struck? = none
  leftOver : ∀ problem ∈ done.leftover, LeftOver destination struck? ∧ existed = true

/-- Removing what was moved aside does not touch the staged tree, whether it succeeds or fails. -/
theorem meets_discard (rooted : start.Rooted) {aside : Option Location}
    (named : ∀ backup ∈ aside, ∃ number : Nat,
      backup = parent ++ [scratchName (parent ++ [name]) "backup" ++ toString number])
    (existed : ∀ backup ∈ aside, start.entry? (parent ++ [name]) = some .folder) :
    Meets (Calm (Settled parent name other start aside))
      (discard ⟨parent ++ [name], parent ++ [other], true⟩ aside : FrailM Commit)
      (Committed (parent ++ [name]) (start.entry? (parent ++ [name])).isSome
        (start.tree (parent ++ [other])))
      (Kept parent name start) := by
  cases aside with
  | none =>
    refine meets_answer ?_
    rintro struck disk ⟨calm, settled⟩
    exact ⟨rfl, funext settled.arrived, fun _ => calm, by simp⟩
  | some backup =>
    obtain ⟨number, rfl⟩ := named backup rfl
    set third := scratchName (parent ++ [name]) "backup" ++ toString number with backs
    have folder := existed _ rfl
    have removes : Meets (Calm (Settled parent name other start (some (parent ++ [third]))))
        (FileSystem.removeTree (parent ++ [third]) : FrailM Unit)
        (fun _ => Calm (Swapped (parent ++ [name]) (parent ++ [other]) start))
        (fun struck disk => LeftOver (parent ++ [name]) struck ∧
          disk.tree (parent ++ [name]) = start.tree (parent ++ [other])) := by
      refine (meets_change ?_ ?_).answered ?_
      · rintro struck disk reason ⟨-, settled⟩ stuck
        obtain ⟨after, removed⟩ :=
          Disk.exists_removeTree ((settled.kept _ rfl).trans folder)
        rw [removed] at stuck
        cases stuck
      · rintro disk debris ⟨-, settled⟩
        refine ⟨⟨number, by rw [List.dropLast_concat]⟩, funext fun rest => ?_⟩
        obtain ⟨⟨_, same, apart, -⟩, -⟩ := settled.beside _ rfl
        obtain rfl : third = _ := by simpa using same
        have outside : ¬ parent ++ [third] <+: parent ++ [name] ++ rest :=
          Location.siblings_apart (Ne.symm apart) (List.prefix_append _ rest)
        exact (Disk.entry?_brokenOff disk debris outside).trans (settled.arrived rest)
      · rintro _ struck after ⟨disk, ⟨calm, settled⟩, removed⟩
        exact ⟨calm, settled.swapped rooted removed⟩
    refine Meets.catching (removes.bind fun _ => meets_answer ?_) fun problem => meets_answer ?_
    · rintro struck disk ⟨calm, swapped⟩
      exact ⟨rfl, funext swapped.arrived, fun _ => calm, by simp⟩
    · rintro struck disk ⟨leftOver, arrived⟩
      refine ⟨rfl, arrived, (fun nothing => nomatch nothing), fun _ _ => ⟨leftOver, ?_⟩⟩
      rw [folder]
      rfl

/-- A commit puts the staged tree in the place of the destination, or it fails and leaves the
destination as it was. -/
theorem meets_commit (rooted : start.Rooted) (differ : name ≠ other)
    (folder : start.entry? (parent ++ [other]) = some .folder)
    (noFile : start.file? (parent ++ [name]) = none) :
    Meets (Calm (· = start)) (commit ⟨parent ++ [name], parent ++ [other], false⟩ : FrailM Commit)
      (Committed (parent ++ [name]) (start.entry? (parent ++ [name])).isSome
        (start.tree (parent ++ [other])))
      (Kept parent name start) := by
  refine (meets_moveAside rooted folder noFile).bind fun aside => ?_
  rintro frail ⟨calm, setAside⟩
  have replaces : Meets (Calm (SetAside parent name other start aside))
      (FileSystem.rename (parent ++ [other]) (parent ++ [name]) : FrailM Unit)
      (fun _ => Calm (Settled parent name other start aside))
      (fun struck disk => struck = some (.rename (parent ++ [other]) (parent ++ [name])) ∧
        SetAside parent name other start aside disk) := by
    refine (meets_change ?_ ?_).answered ?_
    · rintro struck disk reason ⟨-, setAside⟩ stuck
      obtain ⟨after, renamed⟩ := setAside.exists_settled rooted differ folder
      rw [renamed] at stuck
      cases stuck
    · rintro disk debris ⟨-, setAside⟩
      exact ⟨rfl, setAside⟩
    · rintro _ struck after ⟨disk, ⟨calm, setAside⟩, renamed⟩
      exact ⟨calm, setAside.cleared.settled differ renamed⟩
  exact ((replaces.catching fun problem => meets_restore rooted folder aside problem).bind
    fun _ => meets_discard rooted setAside.named setAside.folder) frail ⟨calm, setAside⟩

end Committing

section Leaving

/-- Leaving an area without a commit removes the scratch folder, and whatever fails there does not
touch the destination. -/
theorem meets_leave (differ : name ≠ other) {number : Nat}
    (named : other = scratchName (parent ++ [name]) "staging" ++ toString number)
    (struck? : Option DiskOperation) :
    Meets (fun struck disk => struck = struck? ∧
        Untouched (parent ++ [name]) tree struck disk)
      (leave ⟨parent ++ [name], parent ++ [other], false⟩ : FrailM Unit)
      (fun _ struck disk => struck = struck? ∧ Untouched (parent ++ [name]) tree struck disk)
      (Untouched (parent ++ [name]) tree) := by
  have mine : ¬ LeftOver (parent ++ [name]) (some (.removeTree (parent ++ [other]))) := by
    rintro ⟨backs, same⟩
    rw [List.dropLast_concat, named] at same
    simp only [Option.some.injEq, DiskOperation.removeTree.injEq, List.append_cancel_left_eq,
      List.cons.injEq, and_true] at same
    exact staging_ne_backup _ number backs same
  have outside (rest : Location) : ¬ parent ++ [other] <+: parent ++ [name] ++ rest :=
    Location.siblings_apart differ (List.prefix_append _ rest)
  unfold leave
  refine (meets_exists? _ ?_).bind fun found => ?_
  · rintro disk ⟨-, -, same⟩
    exact ⟨(spared_some rfl).not_leftOver _, same⟩
  cases found with
  | false =>
    refine meets_answer ?_
    rintro struck disk ⟨kept, -⟩
    exact kept
  | true =>
    rw [if_pos rfl]
    refine (meets_change ?_ ?_).answered ?_
    · rintro struck disk _ ⟨⟨-, untouched⟩, -⟩ -
      exact untouched
    · rintro disk debris ⟨⟨-, -, same⟩, -⟩
      refine ⟨mine, funext fun rest => ?_⟩
      exact (Disk.entry?_brokenOff disk debris (outside rest)).trans (congrFun same rest)
    · rintro _ struck after ⟨disk, ⟨⟨calm, spared, same⟩, -⟩, removed⟩
      obtain rfl := Disk.removeTree_ok removed
      refine ⟨calm, spared, funext fun rest => ?_⟩
      have left := Disk.entry?_without disk (show parent ++ [other] ≠ [] by simp)
        (parent ++ [name] ++ rest)
      rw [if_neg (outside rest)] at left
      exact left.trans (congrFun same rest)

end Leaving

section Staging

variable {writes : List (String × ByteArray)}

/-- Files written one after another are the staged tree. -/
theorem meets_writes {scratch : Location} {base : Disk} (upright : ".." ∉ scratch)
    (confined : ∀ written ∈ writes, Path.IsConfined written.1) {failed : Condition}
    (fails : ∀ struck disk, Spared struck → Outside scratch base disk → failed struck disk) :
    Meets (Calm fun disk => Enclosed scratch base disk ∧ disk.tree scratch = bareTree)
      (writes.forM fun written => FileSystem.writeAt scratch written.1 written.2 : FrailM PUnit)
      (fun _ => Calm fun disk => Enclosed scratch base disk ∧
        disk.tree scratch = stagedTree writes) failed := by
  let staged (done : List (String × ByteArray)) : Condition := Calm fun disk =>
    Enclosed scratch base disk ∧ disk.tree scratch = stagedTree done
  have step (earlier : List (String × ByteArray)) (written : String × ByteArray)
      (listed : written ∈ writes) : Meets (staged earlier)
        (FileSystem.writeAt scratch written.1 written.2 : FrailM Unit)
        (fun _ => staged (earlier ++ [written])) failed := by
    refine (meets_writeAt (confined written listed) upright written.2 fails).answered ?_
    rintro _ struck disk ⟨calm, enclosed, grows⟩
    exact ⟨calm, enclosed, by rw [grows, stagedTree, stagedTree, List.foldl_append]; rfl⟩
  have loop : Meets (staged []) _ (fun _ => staged writes) failed := meets_forM _ writes [] step
  exact loop

/-- What holds when work in a staging area has ended without a fault. -/
def Closed (parent : Location) (name other : String) (start : Disk)
    (writes : List (String × ByteArray)) : Ending → Commit → Condition
  | .commit => Committed (parent ++ [name]) (start.entry? (parent ++ [name])).isSome
      (stagedTree writes)
  | .abandon => fun done struck disk =>
      done = ⟨⟨parent ++ [name], parent ++ [other], false⟩, none⟩ ∧ struck = none ∧
        disk.tree (parent ++ [name]) = start.tree (parent ++ [name])
  | .fault _ => fun _ _ _ => False

/-- Ending work in a staging area. -/
theorem meets_close {base : Disk} (differ : name ≠ other)
    (same : base.tree (parent ++ [name]) = start.tree (parent ++ [name]))
    (noFile : start.file? (parent ++ [name]) = none) (ending : Ending) :
    Meets (Calm fun disk => Enclosed (parent ++ [other]) base disk ∧
        disk.tree (parent ++ [other]) = stagedTree writes)
      (ending.close ⟨parent ++ [name], parent ++ [other], false⟩ : FrailM Commit)
      (Closed parent name other start writes ending)
      (Untouched (parent ++ [name]) (start.tree (parent ++ [name]))) := by
  have kept {disk : Disk} (enclosed : Enclosed (parent ++ [other]) base disk) :
      disk.tree (parent ++ [name]) = start.tree (parent ++ [name]) := by
    rw [← same]
    funext rest
    exact enclosed.others _ (Location.siblings_apart differ (List.prefix_append _ rest))
  have root {disk : Disk} (alike : disk.tree (parent ++ [name]) = start.tree (parent ++ [name])) :
      disk.entry? (parent ++ [name]) = start.entry? (parent ++ [name]) := by
    simpa [Disk.tree] using congrFun alike []
  cases ending with
  | commit =>
    rintro frail ⟨calm, enclosed, grown⟩
    have alike := kept enclosed
    have noFile : frail.disk.file? (parent ++ [name]) = none := by
      rw [Disk.file?_congr (root alike), noFile]
    refine ((meets_commit enclosed.rooted differ enclosed.folder noFile).mono
      (fun _ _ both => both) ?_ ?_) frail ⟨calm, rfl⟩
    · intro done struck disk committed
      rw [root alike, grown] at committed
      exact committed
    · rintro struck disk ⟨spared, same⟩
      exact ⟨spared.not_leftOver _, same.trans alike⟩
  | abandon =>
    refine meets_answer ?_
    rintro struck disk ⟨calm, enclosed, -⟩
    exact ⟨rfl, calm, kept enclosed⟩
  | fault problem =>
    refine meets_fault ?_
    rintro struck disk ⟨rfl, enclosed, -⟩
    exact ⟨spared_none.not_leftOver _, kept enclosed⟩

/-- What holds when staging files has ended with a fault. -/
def Stopped (parent : Location) (name : String) (start : Disk)
    (writes : List (String × ByteArray)) (ending : Ending) : Condition := fun struck disk =>
  Untouched (parent ++ [name]) (start.tree (parent ++ [name])) struck disk ∨
    LeftOver (parent ++ [name]) struck ∧ ending.commits = true ∧
      (start.entry? (parent ++ [name])).isSome ∧ disk.tree (parent ++ [name]) = stagedTree writes

/-- Leaving the area after work that has ended without a fault. -/
theorem meets_finish (differ : name ≠ other) {number : Nat}
    (named : other = scratchName (parent ++ [name]) "staging" ++ toString number)
    (ending : Ending) (done : Commit) :
    Meets (Closed parent name other start writes ending done) (finish done : FrailM Unit)
      (fun _ => Calm fun disk => disk.tree (parent ++ [name]) =
        if ending.commits then stagedTree writes else start.tree (parent ++ [name]))
      (Stopped parent name start writes ending) := by
  cases ending with
  | commit =>
    intro frail committed
    have stays : (done.area.leave : FrailM Unit) = pure () := by
      simp [leave, committed.committed]
    rw [finish, stays, pure_bind]
    cases leftover : done.leftover with
    | none => exact Or.inl ⟨(), frail, rfl, committed.calm leftover, committed.arrived⟩
    | some problem =>
      obtain ⟨leftOver, existed⟩ := committed.leftOver problem leftover
      exact Or.inr ⟨problem, frail, rfl, Or.inr ⟨leftOver, rfl, existed, committed.arrived⟩⟩
  | abandon =>
    rintro frail ⟨rfl, calm, same⟩
    have nothing : Meets (fun struck disk => struck = none ∧
          Untouched (parent ++ [name]) (start.tree (parent ++ [name])) struck disk)
        (pure () : FrailM Unit)
        (fun _ => Calm fun disk => disk.tree (parent ++ [name]) = start.tree (parent ++ [name]))
        (Stopped parent name start writes .abandon) :=
      meets_answer fun _ _ kept => ⟨kept.1, kept.2.2⟩
    have leaves := ((meets_leave differ named none).ended fun _ _ => Or.inl).bind fun _ => nothing
    exact leaves frail ⟨calm, calm ▸ spared_none.not_leftOver _, same⟩
  | fault problem =>
    intro frail impossible
    exact impossible.elim

/-- Staging files leaves the staged tree or what was there before. -/
theorem meets_stage (rooted : start.Rooted) (upright : ".." ∉ parent)
    (noFile : start.file? (parent ++ [name]) = none)
    (confined : ∀ written ∈ writes, Path.IsConfined written.1) (ending : Ending) :
    Meets (Calm (· = start)) (stage (parent ++ [name]) writes ending : FrailM Unit)
      (fun _ => Calm fun disk => disk.tree (parent ++ [name]) =
        if ending.commits then stagedTree writes else start.tree (parent ++ [name]))
      (Stopped parent name start writes ending) := by
  refine ((meets_enter rooted parent name).ended fun _ _ => Or.inl).bind fun area => ?_
  rintro frail ⟨calm, number, base, rfl, same, enclosed, bare⟩
  obtain ⟨differ, apart⟩ := scratchName_ne parent name "staging" number
  set other := scratchName (parent ++ [name]) "staging" ++ toString number with named
  have up : ".." ∉ parent ++ [other] := by simpa [upright] using apart
  have works : Meets
      (Calm fun disk => Enclosed (parent ++ [other]) base disk ∧
        disk.tree (parent ++ [other]) = bareTree)
      (do
        writes.forM fun written => FileSystem.writeAt (parent ++ [other]) written.1 written.2
        ending.close ⟨parent ++ [name], parent ++ [other], false⟩ : FrailM Commit)
      (Closed parent name other start writes ending)
      (Untouched (parent ++ [name]) (start.tree (parent ++ [name]))) := by
    refine (meets_writes up confined ?_).bind fun _ => meets_close differ same noFile ending
    rintro struck disk spared outside
    refine ⟨spared.not_leftOver _, ?_⟩
    rw [← same]
    funext rest
    exact outside _ (Location.siblings_apart differ (List.prefix_append _ rest))
  have leaves (problem : Fault) : Meets
      (Untouched (parent ++ [name]) (start.tree (parent ++ [name])))
      (do
        leave ⟨parent ++ [name], parent ++ [other], false⟩
        throw problem : FrailM Commit)
      (Closed parent name other start writes ending)
      (Untouched (parent ++ [name]) (start.tree (parent ++ [name]))) := by
    intro frail untouched
    exact ((meets_leave differ named frail.fate.struck?).bind fun _ =>
      meets_fault fun _ _ kept => kept.2) frail ⟨rfl, untouched⟩
  have whole := ((works.catching leaves).ended fun _ _ => Or.inl).bind
    (meets_finish differ named ending)
  exact whole frail ⟨calm, enclosed, bare⟩

end Staging

end FrailM

namespace StagingArea

open FrailM

/-- Files are written into a staging area at paths that stay in it, and the area is committed, left
as it is, or left with a fault, while any one operation may fail. When no fault is reported, nothing
failed, and the destination holds the staged tree after a commit and what was there before
otherwise. When a fault is reported, the destination is what it was, unless the operation that
failed is the removal of what a commit had moved aside: then it holds the staged tree. -/
theorem stage_allOrNothing {start : Disk} (rooted : start.Rooted) {parent : Location}
    (upright : ".." ∉ parent) {name : String} (noFile : start.file? (parent ++ [name]) = none)
    {writes : List (String × ByteArray)} (confined : ∀ written ∈ writes, Path.IsConfined written.1)
    (ending : Ending) (mishap? : Option Mishap) :
    match (stage (parent ++ [name]) writes ending : FrailM Unit).run.run
        ⟨start, .ahead mishap?⟩ with
    | (.ok (), after) =>
      after.fate.struck? = none ∧
        after.disk.tree (parent ++ [name]) =
          if ending.commits then stagedTree writes else start.tree (parent ++ [name])
    | (.error _, after) =>
      (¬ LeftOver (parent ++ [name]) after.fate.struck? →
        after.disk.tree (parent ++ [name]) = start.tree (parent ++ [name])) ∧
      (LeftOver (parent ++ [name]) after.fate.struck? →
        ending.commits = true ∧ (start.entry? (parent ++ [name])).isSome ∧
          after.disk.tree (parent ++ [name]) = stagedTree writes) := by
  rcases meets_stage rooted upright noFile confined ending ⟨start, .ahead mishap?⟩ ⟨rfl, rfl⟩ with
    ⟨_, after, ran, calm, holds⟩ | ⟨problem, after, ran, untouched | ⟨leftOver, swapped⟩⟩
  · rw [ran]
    exact ⟨calm, holds⟩
  · rw [ran]
    exact ⟨fun _ => untouched.2, fun leftOver => absurd leftOver untouched.1⟩
  · rw [ran]
    exact ⟨fun spared => absurd leftOver spared, fun _ => swapped⟩

/-- A destination with a file in it. -/
def keptFile : Disk := ⟨.ofList [(["out"], .folder), (["out", "keep.ts"], .file "keep".toUTF8)]⟩

theorem stage_allOrNothing_keptFile :
    keptFile.Rooted ∧ keptFile.file? ["out"] = none ∧ Path.IsConfined "pages/../new.ts" ∧
      (∀ mishap?, match (stage ["out"] [("pages/../new.ts", "new".toUTF8)] .commit :
          FrailM Unit).run.run ⟨keptFile, .ahead mishap?⟩ with
        | (.ok (), after) => after.fate.struck? = none ∧
          after.disk.tree ["out"] = stagedTree [("pages/../new.ts", "new".toUTF8)]
        | (.error _, after) => ¬ LeftOver ["out"] after.fate.struck? →
          after.disk.tree ["out"] = keptFile.tree ["out"]) ∧
      ∃ after, (stage ["out"] [("pages/../new.ts", "new".toUTF8)] .commit :
        FrailM Unit).run.run ⟨keptFile, .ahead none⟩ = (.ok (), after) := by
  have rooted : keptFile.Rooted := Disk.rooted_of_keys (by decide)
  have noFile : keptFile.file? ([] ++ ["out"]) = none := by decide
  have confined : ∀ written ∈ [("pages/../new.ts", "new".toUTF8)], Path.IsConfined written.1 := by
    simp only [List.forall_mem_singleton]
    decide
  refine ⟨rooted, noFile, by decide, fun mishap? => ?_, _, rfl⟩
  have ends := stage_allOrNothing rooted List.not_mem_nil noFile confined .commit mishap?
  rw [List.nil_append] at ends
  split at ends
  · exact ends
  · exact ends.1

/-- Staging can report a fault and change the destination nevertheless. When what a commit has moved
aside cannot be removed, the staged tree stays in its place; and a path that leads out of the area
writes into the destination, which stays there although nothing is committed. -/
theorem stage_changed_with_fault :
    keptFile.file? ["out", "keep.ts"] = some "keep".toUTF8 ∧
    keptFile.file? ["out", "partial.ts"] = none ∧
    (∃ problem after, (stage ["out"] [("new.ts", "new".toUTF8)] .commit : FrailM Unit).run.run
        ⟨keptFile, .ahead (some ⟨8, .refused, .empty⟩)⟩ = (.error problem, after) ∧
      after.disk.file? ["out", "keep.ts"] = none ∧
      after.disk.file? ["out", "new.ts"] = some "new".toUTF8) ∧
    ∃ problem after, (stage ["out"] [("../out/partial.ts", "partial".toUTF8)]
        (.fault (.disk .refused)) : FrailM Unit).run.run ⟨keptFile, .ahead none⟩ =
          (.error problem, after) ∧
      after.disk.file? ["out", "keep.ts"] = some "keep".toUTF8 ∧
      after.disk.file? ["out", "partial.ts"] = some "partial".toUTF8 := by
  refine ⟨by decide, by decide, ⟨_, _, rfl, by decide, by decide⟩, _, _, rfl, by decide, by decide⟩

end StagingArea

end FeatureLayout
