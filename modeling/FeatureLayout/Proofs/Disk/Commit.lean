import FeatureLayout.Proofs.Disk.Staging

/-!
# What a commit leaves behind

A commit moves the destination aside, puts the scratch folder in its place and removes what it moved
aside. The three folders lie in one folder under different names, so that no step touches what
another one is about.
-/

namespace FeatureLayout

open DiskM

namespace StagingArea

variable {parent : Location} {name other : String} {start : Disk}

/-- A folder beside the destination and the scratch folder, in whose place there was nothing. -/
structure Beside (parent : Location) (name other : String) (start : Disk) (backup : Location) :
    Prop where
  named : ∃ third, backup = parent ++ [third] ∧ third ≠ name ∧ third ≠ other
  vacant : start.entry? backup = none

/-- A disk on which what was in the place of the destination is aside. -/
structure Cleared (parent : Location) (name other : String) (start : Disk)
    (aside : Option Location) (disk : Disk) : Prop where
  rooted : disk.Rooted
  beside : ∀ backup ∈ aside, Beside parent name other start backup
  vacated : disk.entry? (parent ++ [name]) = none
  kept : ∀ backup ∈ aside, disk.entry? backup = start.entry? (parent ++ [name])
  others : ∀ place, ¬ parent ++ [name] <+: place → (∀ backup ∈ aside, ¬ backup <+: place) →
    disk.entry? place = start.entry? place

/-- A disk on which the staged tree is in the place of the destination, and what was there is aside.
-/
structure Settled (parent : Location) (name other : String) (start : Disk)
    (aside : Option Location) (disk : Disk) : Prop where
  rooted : disk.Rooted
  beside : ∀ backup ∈ aside, Beside parent name other start backup
  kept : ∀ backup ∈ aside, disk.entry? backup = start.entry? (parent ++ [name])
  arrived : ∀ rest, disk.entry? (parent ++ [name] ++ rest) = start.entry? (parent ++ [other] ++ rest)
  others : ∀ place, ¬ parent ++ [name] <+: place → (∀ backup ∈ aside, ¬ backup <+: place) →
    disk.entry? place = if parent ++ [other] <+: place then none else start.entry? place

/-- A disk on which the staged tree is in the place of the destination, and nothing else changed. -/
structure Swapped (destination scratch : Location) (start disk : Disk) : Prop where
  rooted : disk.Rooted
  arrived : ∀ rest, disk.entry? (destination ++ rest) = start.entry? (scratch ++ rest)
  others : ∀ place, ¬ destination <+: place →
    disk.entry? place = if scratch <+: place then none else start.entry? place

/-- Making a folder and removing it again leaves all entries as they were. -/
theorem entry?_scratched {before made : Disk} {place : Location} (rooted : before.Rooted)
    (makes : before.makeFolder place = .ok made) (tested : Location) :
    Disk.entry? (made.without place) tested = before.entry? tested := by
  obtain ⟨nothing, -, changed⟩ := Disk.makeFolder_ok makes
  have below : place ≠ [] := by
    rintro rfl
    simp at nothing
  rw [Disk.entry?_without made below]
  split
  · next inside =>
    obtain ⟨rest, rfl⟩ := inside
    exact (rooted.entry?_below nothing rest).symm
  · next outside =>
    have apart : tested ≠ place := by
      rintro rfl
      exact outside (List.prefix_refl _)
    rw [changed, if_neg apart]

/-- A new folder is beside the destination and the scratch folder if both of them exist. -/
theorem beside_of_free {third : String} (free : start.entry? (parent ++ [third]) = none)
    (present : (start.entry? (parent ++ [name])).isSome)
    (folder : start.entry? (parent ++ [other]) = some .folder) :
    third ≠ name ∧ Beside parent name other start (parent ++ [third]) := by
  have apart : third ≠ name := by
    rintro rfl
    simp [free] at present
  have away : third ≠ other := by
    rintro rfl
    simp [free] at folder
  exact ⟨apart, ⟨third, rfl, apart, away⟩, free⟩

/-- A destination that does not exist needs no clearing. -/
theorem cleared_of_absent (rooted : start.Rooted)
    (absent : start.entry? (parent ++ [name]) = none) :
    Cleared parent name other start none start := by
  constructor
  case rooted => exact rooted
  case beside => simp
  case vacated => exact absent
  case kept => simp
  case others => exact fun _ _ _ => rfl

/-- What is moved into the place of a scratch folder that was made and removed is aside, with all
that lay below it, and its place is clear. -/
theorem cleared_of_rename {third : String} {made emptied after : Disk} (rooted : start.Rooted)
    (folder : start.entry? (parent ++ [other]) = some .folder)
    (present : (start.entry? (parent ++ [name])).isSome)
    (makes : start.makeFolder (parent ++ [third]) = .ok made)
    (removed : made.removeFolder (parent ++ [third]) = .ok emptied)
    (renamed : emptied.rename (parent ++ [name]) (parent ++ [third]) = .ok after) :
    Cleared parent name other start (some (parent ++ [third])) after ∧
      ∀ rest, after.entry? (parent ++ [third] ++ rest) = start.entry? (parent ++ [name] ++ rest) := by
  obtain ⟨free, -, -⟩ := Disk.makeFolder_ok makes
  obtain ⟨apart, beside⟩ := beside_of_free free present folder
  obtain rfl := Disk.removeFolder_ok removed
  have unchanged := entry?_scratched rooted makes
  have cleared : (made.without (parent ++ [third])).Rooted :=
    ((Disk.Extended.of_makeFolder makes).rooted rooted).without (by simp)
  have moved := Disk.rename_ok cleared (by simp) renamed
  have whole (rest : Location) :
      after.entry? (parent ++ [third] ++ rest) = start.entry? (parent ++ [name] ++ rest) :=
    (moved.arrived rest).trans (unchanged _)
  refine ⟨?_, whole⟩
  constructor
  case rooted =>
    exact moved.rooted cleared (Location.siblings_apart apart (List.prefix_refl _))
  case beside =>
    rintro _ ⟨⟩
    exact beside
  case vacated =>
    rw [moved.others _ (Location.siblings_apart (Ne.symm apart) (List.prefix_refl _)),
      if_pos (List.prefix_refl _)]
  case kept =>
    rintro _ ⟨⟩
    simpa using whole []
  case others =>
    intro place elsewhere spared
    rw [moved.others place (spared _ rfl), if_neg elsewhere, unchanged]

/-- Moving the destination aside clears its place and touches nothing else. -/
theorem meets_moveAside (rooted : start.Rooted)
    (folder : start.entry? (parent ++ [other]) = some .folder) (committed : Bool) :
    Meets (· = start)
      (moveAside ⟨parent ++ [name], parent ++ [other], committed⟩ : DiskM (Option Location))
      (Cleared parent name other start) (fun problem _ => ¬ problem.IsRefusal) := by
  refine (meets_exists? (parent ++ [name])).regardless.bind fun found => ?_
  cases found with
  | false =>
    refine meets_answer ?_
    rintro _ ⟨rfl, absent⟩
    exact cleared_of_absent rooted (by simpa using absent)
  | true =>
    refine (meets_makeScratch _ _).regardless.bind fun backup => ?_
    refine (meets_change _).regardless.bind fun _ => ?_
    refine (meets_change _).regardless.bind fun _ => meets_answer ?_
    rintro after ⟨emptied, ⟨made, ⟨⟨number, named⟩, _, ⟨rfl, present⟩, makes⟩, removed⟩, renamed⟩
    rw [List.dropLast_concat] at named
    subst named
    exact (cleared_of_rename rooted folder present.symm makes removed renamed).1

/-- Clearing the destination leaves the scratch folder as it was. -/
theorem Cleared.staged {aside : Option Location} {disk : Disk}
    (cleared : Cleared parent name other start aside disk) (differ : name ≠ other)
    (rest : Location) :
    disk.entry? (parent ++ [other] ++ rest) = start.entry? (parent ++ [other] ++ rest) := by
  refine cleared.others _ (Location.siblings_apart (Ne.symm differ) (List.prefix_append _ rest)) ?_
  rintro backup moves
  obtain ⟨third, rfl, -, away⟩ := (cleared.beside backup moves).named
  exact Location.siblings_apart (Ne.symm away) (List.prefix_append _ rest)

/-- What is moved into the place that has been cleared is settled there. -/
theorem Cleared.settled {aside : Option Location} {disk after : Disk}
    (cleared : Cleared parent name other start aside disk) (differ : name ≠ other)
    (renamed : disk.rename (parent ++ [other]) (parent ++ [name]) = .ok after) :
    Settled parent name other start aside after := by
  have moved := Disk.rename_ok cleared.rooted (by simp) renamed
  constructor
  case rooted =>
    exact moved.rooted cleared.rooted (Location.siblings_apart differ (List.prefix_refl _))
  case beside => exact cleared.beside
  case kept =>
    intro backup moves
    obtain ⟨third, rfl, apart, away⟩ := (cleared.beside backup moves).named
    rw [moved.others _ (Location.siblings_apart apart (List.prefix_refl _)),
      if_neg (Location.siblings_apart away (List.prefix_refl _)), cleared.kept _ moves]
  case arrived => exact fun rest => (moved.arrived rest).trans (cleared.staged differ rest)
  case others =>
    intro place outside spared
    rw [moved.others place outside, cleared.others place outside spared]

/-- Putting the scratch folder in the place of the destination settles the tree there. -/
theorem meets_replace (differ : name ≠ other) (aside : Option Location) :
    Meets (Cleared parent name other start aside)
      (FileSystem.rename (parent ++ [other]) (parent ++ [name]) : DiskM Unit)
      (fun _ => Settled parent name other start aside)
      (fun problem _ => ¬ problem.IsRefusal) := by
  refine (meets_change _).regardless.answered ?_
  rintro _ after ⟨disk, cleared, renamed⟩
  exact cleared.settled differ renamed

/-- Bringing back what was moved aside ends with the fault that stood in the way. -/
theorem meets_restore (area : StagingArea) (aside : Option Location) (problem : Fault)
    {done : Unit → Disk → Prop} :
    Meets (fun _ => ¬ problem.IsRefusal) (area.restore aside problem : DiskM Unit) done
      (fun problem _ => ¬ problem.IsRefusal) := by
  cases aside with
  | none => exact meets_fault fun _ other => other
  | some backup =>
    refine ((meets_change _).regardless.answered ?_).bind fun _ => meets_throw problem
    rintro _ _ ⟨_, other, -⟩
    exact other

/-- A commit that took place has put the staged tree in its place, unless what was there could not be
removed. -/
structure Commit.Sound (destination scratch : Location) (start : Disk) (done : Commit)
    (disk : Disk) : Prop where
  committed : done.area.committed = true
  swapped : done.leftover = none → Swapped destination scratch start disk
  leftover : ∀ problem ∈ done.leftover, ¬ problem.IsRefusal

/-- When what was moved aside has been removed, only the staged tree is left in its place. -/
theorem Settled.swapped {backup : Location} {disk after : Disk}
    (settled : Settled parent name other start (some backup) disk) (rooted : start.Rooted)
    (removed : disk.removeTree backup = .ok after) :
    Swapped (parent ++ [name]) (parent ++ [other]) start after := by
  obtain rfl := Disk.removeTree_ok removed
  obtain ⟨⟨third, rfl, apart, away⟩, vacant⟩ := settled.beside backup rfl
  have left := Disk.entry?_without disk (show parent ++ [third] ≠ [] by simp)
  constructor
  case rooted => exact settled.rooted.without (by simp)
  case arrived =>
    intro rest
    rw [left, if_neg (Location.siblings_apart (Ne.symm apart) (List.prefix_append _ rest)),
      settled.arrived]
  case others =>
    intro place outside
    rw [left]
    split
    · next inside =>
      obtain ⟨rest, rfl⟩ := inside
      rw [if_neg (Location.siblings_apart away (List.prefix_append _ rest)),
        rooted.entry?_below vacant]
    · next spared =>
      refine settled.others place outside ?_
      rintro _ ⟨⟩
      exact spared

/-- Removing what was moved aside leaves nothing but the staged tree in its place. -/
theorem meets_discard (rooted : start.Rooted) (scratch : Location) (aside : Option Location) :
    Meets (Settled parent name other start aside)
      (discard ⟨parent ++ [name], scratch, true⟩ aside : DiskM Commit)
      (Commit.Sound (parent ++ [name]) (parent ++ [other]) start)
      (fun problem _ => ¬ problem.IsRefusal) := by
  cases aside with
  | none =>
    refine meets_answer fun disk settled => ⟨rfl, fun _ => ?_, by simp⟩
    exact ⟨settled.rooted, settled.arrived, fun place outside => settled.others place outside (by simp)⟩
  | some backup =>
    have removes : Meets (Settled parent name other start (some backup))
        (FileSystem.removeTree backup : DiskM Unit)
        (fun _ => Swapped (parent ++ [name]) (parent ++ [other]) start)
        (fun problem _ => ¬ problem.IsRefusal) := by
      refine (meets_change _).regardless.answered ?_
      rintro _ after ⟨disk, settled, removed⟩
      exact settled.swapped rooted removed
    refine Meets.catching (removes.bind fun _ => meets_answer fun disk swapped => ?_)
      fun problem => meets_answer fun disk other => ?_
    · exact ⟨rfl, fun _ => swapped, by simp⟩
    · refine ⟨rfl, fun absent => absurd absent (by simp), ?_⟩
      rintro _ ⟨⟩
      exact other

/-- A commit puts the staged tree in the place of the destination. -/
theorem meets_commit (rooted : start.Rooted) (differ : name ≠ other)
    (folder : start.entry? (parent ++ [other]) = some .folder) :
    Meets (· = start) (commit ⟨parent ++ [name], parent ++ [other], false⟩ : DiskM Commit)
      (Commit.Sound (parent ++ [name]) (parent ++ [other]) start)
      (fun problem _ => ¬ problem.IsRefusal) := by
  refine (meets_moveAside rooted folder false).bind fun aside => ?_
  exact ((meets_replace differ aside).catching
    fun problem => meets_restore _ aside problem).bind
    fun _ => meets_discard rooted (parent ++ [other]) aside

/-- A staged tree that is put in the place of the destination is published. -/
theorem Swapped.published {destination scratch : Location} {disk after : Disk}
    {written : Location → Option ByteArray} (swapped : Swapped destination scratch disk after)
    (vacant : ∀ rest, start.file? (scratch ++ rest) = none)
    (holding : Holding scratch start written disk) :
    Published destination start written after := by
  constructor
  case arrived =>
    intro rest
    rw [Disk.file?_congr (swapped.arrived rest), holding.staged]
  case others =>
    intro place outside
    have kept := swapped.others place outside
    split at kept
    · next inside =>
      obtain ⟨rest, rfl⟩ := inside
      rw [Disk.file?_of_entry?_none kept, vacant]
    · next elsewhere => rw [Disk.file?_congr kept, holding.others place elsewhere]

/-- Cleaning up after work that failed leaves its fault as it is. -/
theorem meets_leave (area : StagingArea) (problem : Fault) {done : Commit → Disk → Prop} :
    Meets (fun _ => ¬ problem.IsRefusal)
      (area.leave >>= fun _ => throw problem : DiskM Commit) done
      (fun problem _ => ¬ problem.IsRefusal) := by
  have removed : Meets (fun _ => ¬ problem.IsRefusal)
      (FileSystem.removeTree area.scratch : DiskM Unit) (fun _ _ => ¬ problem.IsRefusal)
      (fun problem _ => ¬ problem.IsRefusal) :=
    (meets_change _).regardless.answered fun _ _ ⟨_, other, _⟩ => other
  have left : Meets (fun _ => ¬ problem.IsRefusal) (area.leave : DiskM Unit)
      (fun _ _ => ¬ problem.IsRefusal) (fun problem _ => ¬ problem.IsRefusal) := by
    unfold leave
    split
    · refine ((meets_exists? area.scratch).regardless.answered fun _ _ both => both.1).bind
        fun found => ?_
      split
      · exact removed
      · exact meets_answer fun _ other => other
    · exact meets_answer fun _ other => other
  exact left.bind fun _ => meets_fault fun _ refused => refused

/-- Work that stages a tree publishes it, provided that it succeeds. -/
theorem meets_fill (start : Disk) (rooted : start.Rooted) (parent : Location) (name : String)
    (work : StagingArea → DiskM Unit) (finished : (Location → Option ByteArray) → Prop)
    (works : ∀ area : StagingArea, Meets
      (fun disk => (∀ rest, start.file? (area.scratch ++ rest) = none) ∧
        Holding area.scratch start (fun _ => none) disk)
      (work area)
      (fun _ disk => ∃ written, finished written ∧ Holding area.scratch start written disk)
      (fun problem _ => ¬ problem.IsRefusal)) :
    Meets (· = start) (fill (parent ++ [name]) work)
      (fun _ disk => ∃ written, finished written ∧ Published (parent ++ [name]) start written disk)
      (fun problem _ => ¬ problem.IsRefusal) := by
  refine (meets_enter start rooted parent name).bind fun area => ?_
  let published (done : Commit) (disk : Disk) : Prop :=
    done.area.committed = true ∧
      (done.leftover = none → ∃ written, finished written ∧
        Published (parent ++ [name]) start written disk) ∧
      ∀ problem ∈ done.leftover, ¬ problem.IsRefusal
  have filled : Meets
      (fun disk => (∃ other, name ≠ other ∧
          area = ⟨parent ++ [name], parent ++ [other], false⟩) ∧
        (∀ rest, start.file? (area.scratch ++ rest) = none) ∧
        Holding area.scratch start (fun _ => none) disk)
      (work area >>= fun _ => area.commit) published
      (fun problem _ => ¬ problem.IsRefusal) := by
    rintro disk ⟨⟨other, differ, rfl⟩, vacant, holding⟩
    refine ((works _).bind fun _ => ?_) disk ⟨vacant, holding⟩
    rintro staged ⟨written, complete, holding⟩
    refine ((meets_commit holding.rooted differ holding.folder).answered fun done after sound => ?_)
      staged rfl
    exact ⟨sound.committed, fun none => ⟨written, complete,
      (sound.swapped none).published vacant holding⟩, sound.leftover⟩
  refine (filled.catching fun problem => meets_leave area problem).bind fun done => ?_
  have left : Meets (published done) (done.area.leave : DiskM Unit) (fun _ => published done)
      (fun problem _ => ¬ problem.IsRefusal) := by
    rintro disk kept
    have nothing : (done.area.leave : DiskM Unit) = pure () := by
      simp [leave, kept.1]
    rw [nothing]
    exact Or.inl ⟨(), disk, rfl, kept⟩
  refine left.bind fun _ => ?_
  cases leftover : done.leftover with
  | none => exact meets_answer fun disk kept => kept.2.1 leftover
  | some problem => exact meets_fault fun disk kept => kept.2.2 problem leftover

end StagingArea

end FeatureLayout
