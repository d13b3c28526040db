import FeatureLayout.Disk.Staging
import FeatureLayout.Proofs.Disk.Actions
import FeatureLayout.Proofs.Path

/-!
# What staging a tree leaves behind

While a tree is staged, all files outside the scratch folder stay as they were, and the scratch
folder holds what has been written. `StagingArea.Holding` says that of a disk in use. A commit that
succeeds puts the staged tree in the place of the destination, and every file elsewhere is as it was
before the scratch folder was created.
-/

namespace FeatureLayout

open Text DiskM

/-- Folders have been added to a disk, and nothing else. -/
structure Disk.Extended (before after : Disk) : Prop where
  rooted : before.Rooted → after.Rooted
  files : ∀ place, after.file? place = before.file? place
  kept : ∀ place, (before.entry? place).isSome → after.entry? place = before.entry? place

namespace Disk.Extended

theorem refl (disk : Disk) : Disk.Extended disk disk :=
  ⟨fun rooted => rooted, fun _ => rfl, fun _ _ => rfl⟩

theorem trans {before middle after : Disk} (first : Disk.Extended before middle)
    (second : Disk.Extended middle after) : Disk.Extended before after where
  rooted rooted := second.rooted (first.rooted rooted)
  files place := (second.files place).trans (first.files place)
  kept place present := by
    have between := first.kept place present
    rw [second.kept place (between ▸ present), between]

/-- A new folder is an extension. -/
theorem of_makeFolder {before after : Disk} {place : Location}
    (made : before.makeFolder place = .ok after) : Disk.Extended before after := by
  obtain ⟨nothing, inside, changed⟩ := Disk.makeFolder_ok made
  have other (tested : Location) (apart : tested ≠ place) :
      after.entry? tested = before.entry? tested := by
    rw [changed, if_neg apart]
  constructor
  case rooted => exact fun rooted => rooted.put inside (by simp [nothing]) changed
  case files =>
    intro tested
    by_cases same : tested = place
    · have here : after.entry? place = some .folder := by rw [changed, if_pos rfl]
      rw [same]
      simp [Disk.file?, here, nothing]
    · exact Disk.file?_congr (other tested same)
  case kept =>
    intro tested present
    refine other tested ?_
    rintro rfl
    simp [nothing] at present

end Disk.Extended

namespace FileSystem

/-- Providing folders adds folders. -/
theorem meets_provideFolders (disk : Disk) (segments : List String) (place : Location) :
    Meets (Disk.Extended disk) (provideFolders place segments : DiskM Unit)
      (fun _ => Disk.Extended disk) (fun problem _ => ¬ problem.IsRefusal) := by
  have provided (place : Location) (last : Bool) :
      Meets (Disk.Extended disk) (provideFolder place last : DiskM Unit)
        (fun _ => Disk.Extended disk) (fun problem _ => ¬ problem.IsRefusal) := by
    refine ((meets_kind? place).regardless.answered fun _ _ both => both.1).bind fun found => ?_
    match found with
    | none =>
      refine (meets_change _).regardless.answered ?_
      rintro _ after ⟨middle, extended, made⟩
      exact extended.trans (Disk.Extended.of_makeFolder made)
    | some .folder => exact meets_answer fun _ holds => holds
    | some .file => exact meets_fault fun _ _ => Fault.not_isRefusal_disk _
  induction segments generalizing place with
  | nil => exact meets_answer fun _ holds => holds
  | cons segment rest inductionHypothesis =>
    exact (provided _ _).bind fun _ => inductionHypothesis _

end FileSystem

/-- Folders of one parent with different names have nothing in common. -/
theorem Location.siblings_apart {parent : Location} {first second : String}
    (differ : first ≠ second) {place : Location} (within : parent ++ [first] <+: place) :
    ¬ parent ++ [second] <+: place := by
  intro also
  have shorter := List.prefix_of_prefix_length_le within also (by simp)
  have same : parent ++ [first] = parent ++ [second] := shorter.eq_of_length (by simp)
  exact differ (by simpa using same)

namespace StagingArea

/-- A disk on which a tree is staged: below the scratch folder lie the files that have been written,
and all other files are those that were there at the start. -/
structure Holding (scratch : Location) (start : Disk) (written : Location → Option ByteArray)
    (disk : Disk) : Prop where
  rooted : disk.Rooted
  folder : disk.entry? scratch = some .folder
  staged : ∀ rest, disk.file? (scratch ++ rest) = written rest
  others : ∀ place, ¬ scratch <+: place → disk.file? place = start.file? place

/-- A disk on which a tree has taken the place of the destination. -/
structure Published (destination : Location) (start : Disk) (written : Location → Option ByteArray)
    (disk : Disk) : Prop where
  arrived : ∀ rest, disk.file? (destination ++ rest) = written rest
  others : ∀ place, ¬ destination <+: place → disk.file? place = start.file? place

variable {scratch : Location} {start : Disk} {written : Location → Option ByteArray}

theorem Holding.extended {before after : Disk} (holding : Holding scratch start written before)
    (extended : Disk.Extended before after) : Holding scratch start written after where
  rooted := extended.rooted holding.rooted
  folder := (extended.kept scratch (by simp [holding.folder])).trans holding.folder
  staged rest := (extended.files _).trans (holding.staged rest)
  others place outside := (extended.files place).trans (holding.others place outside)

/-- The name of a scratch folder is none that the destination or the way up can have. -/
theorem scratchName_ne (parent : Location) (name purpose : String) (number : Nat) :
    name ≠ scratchName (parent ++ [name]) purpose ++ toString number ∧
      ".." ≠ scratchName (parent ++ [name]) purpose ++ toString number := by
  have longer : name.length + 3 ≤
      (scratchName (parent ++ [name]) purpose ++ toString number).length := by
    have dot : ".".length = 1 := rfl
    have dash : "-".length = 1 := rfl
    simp only [scratchName, String.length_append, List.getLast?_concat, Option.getD_some]
    omega
  constructor
  · intro same
    rw [← same] at longer
    omega
  · intro same
    rw [← same, show "..".length = 2 from rfl] at longer
    omega

/-- A scratch folder beside the destination is entered empty. -/
theorem meets_enter (start : Disk) (rooted : start.Rooted) (parent : Location) (name : String) :
    Meets (· = start) (enter (parent ++ [name]) : DiskM StagingArea)
      (fun area disk =>
        (∃ other, name ≠ other ∧ area = ⟨parent ++ [name], parent ++ [other], false⟩) ∧
        (∀ rest, start.file? (area.scratch ++ rest) = none) ∧
        Holding area.scratch start (fun _ => none) disk)
      (fun problem _ => ¬ problem.IsRefusal) := by
  have folders : Meets (· = start)
      (FileSystem.provideFolders [] (parent ++ [name]).dropLast : DiskM Unit)
      (fun _ => Disk.Extended start) (fun problem _ => ¬ problem.IsRefusal) :=
    (FileSystem.meets_provideFolders start _ []).asked fun _ same => same ▸ Disk.Extended.refl start
  refine folders.bind fun _ => ?_
  refine (meets_makeScratch _ _).regardless.bind fun place => meets_answer ?_
  rintro disk ⟨⟨number, named⟩, before, extended, made⟩
  obtain ⟨nothing, -, changed⟩ := Disk.makeFolder_ok made
  have later := Disk.Extended.of_makeFolder made
  have vacant (rest : Location) : start.file? (place ++ rest) = none := by
    rw [← extended.files]
    have between := extended.rooted rooted
    exact Disk.file?_of_entry?_none (between.entry?_below nothing rest)
  rw [List.dropLast_concat] at named
  have differ : name ≠ scratchName (parent ++ [name]) "staging" ++ toString number :=
    (scratchName_ne _ name "staging" number).1
  refine ⟨⟨_, differ, congrArg (StagingArea.mk (parent ++ [name]) · false) named⟩, vacant, ?_⟩
  constructor
  case rooted => exact later.rooted (extended.rooted rooted)
  case folder => exact (changed place).trans (if_pos rfl)
  case staged => exact fun rest => ((later.files _).trans (extended.files _)).trans (vacant rest)
  case others => exact fun tested _ => (later.files tested).trans (extended.files tested)

/-- Writing a file at a path that leads below the scratch folder adds it to what has been written.
-/
theorem meets_writeBelow {path : String} {below : Location} (inside : below ≠ [])
    (leads : scratch.follow path = scratch ++ below) (content : ByteArray) :
    Meets (Holding scratch start written) (FileSystem.writeAt scratch path content : DiskM Unit)
      (fun _ => Holding scratch start fun rest => if rest = below then some content else written rest)
      (fun problem _ => ¬ problem.IsRefusal) := by
  unfold FileSystem.writeAt
  rw [leads]
  have wrote : Meets (Holding scratch start written)
      (FileSystem.write (scratch ++ below) content : DiskM Unit)
      (fun _ => Holding scratch start fun rest => if rest = below then some content else written rest)
      (fun problem _ => ¬ problem.IsRefusal) := by
    refine (meets_change _).regardless.answered ?_
    rintro _ after ⟨disk, holding, outcome⟩
    obtain ⟨noFolder, housed, changed⟩ := Disk.write_ok outcome
    have other (tested : Location) (apart : tested ≠ scratch ++ below) :
        after.entry? tested = disk.entry? tested := by
      rw [changed, if_neg apart]
    constructor
    case rooted => exact holding.rooted.put housed noFolder changed
    case folder => exact (other scratch (by simp [inside])).trans holding.folder
    case staged =>
      intro rest
      split
      · next same => simp [Disk.file?, changed, same]
      · next apart =>
        rw [Disk.file?_congr (other _ fun same => apart (List.append_cancel_left same))]
        exact holding.staged rest
    case others =>
      intro place outside
      have apart : place ≠ scratch ++ below := by
        rintro rfl
        exact outside (List.prefix_append scratch _)
      rw [Disk.file?_congr (other place apart)]
      exact holding.others place outside
  have provided (segments : List String) : Meets (Holding scratch start written)
      (FileSystem.provideFolders [] segments : DiskM Unit)
      (fun _ => Holding scratch start written) (fun problem _ => ¬ problem.IsRefusal) := by
    intro disk holding
    have kept := (FileSystem.meets_provideFolders disk segments []).answered
      fun _ _ extended => holding.extended extended
    exact kept disk (Disk.Extended.refl disk)
  dsimp only
  split
  · have refused : Meets (Holding scratch start written) (throw (.setting .brokenPath) : DiskM Unit)
        (fun _ _ => False) (fun problem _ => ¬ problem.IsRefusal) :=
      meets_fault fun _ _ => Fault.not_isRefusal_setting .brokenPath
    exact refused.bind fun _ _ impossible => impossible.elim
  · exact (provided _).bind fun _ => wrote

/-- Writing a file at a plain path adds it to what has been written. -/
theorem meets_writeAt {path : String} (plain : Path.IsPlain path) (content : ByteArray) :
    Meets (Holding scratch start written) (FileSystem.writeAt scratch path content : DiskM Unit)
      (fun _ => Holding scratch start fun rest =>
        if rest = fieldsOf '/' path then some content else written rest)
      (fun problem _ => ¬ problem.IsRefusal) :=
  meets_writeBelow (fieldsOf_ne_nil '/' path) (plain.follow scratch) content

end StagingArea

end FeatureLayout
