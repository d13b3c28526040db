import FeatureLayout.Proofs.Disk.Runs
import FeatureLayout.Proofs.Disk.Staging

/-!
# The tree below a folder

Writing a file below a folder is possible or not, and leaves one tree or another, depending on the
tree that lies below the folder and on nothing else on the disk. Folders are provided on the way, so
all that can stand in the way is a file in the place of a folder, or a folder in the place of the
file.
-/

namespace FeatureLayout

open Text DiskM

namespace Disk

variable {disk before after : Disk}

/-- What lies below a folder, by the way that leads there. -/
def tree (disk : Disk) (folder rest : Location) : Option DiskEntry := disk.entry? (folder ++ rest)

theorem file?_eq_none_iff (disk : Disk) (place : Location) :
    disk.file? place = none ↔ ∀ content, disk.entry? place ≠ some (.file content) := by
  simp only [Option.eq_none_iff_forall_ne_some, ne_eq, file?_eq_some_iff]

/-- What lies on the way to an entry is a folder. -/
theorem Rooted.folder_above (rooted : disk.Rooted) {place rest : Location} (more : rest ≠ [])
    (present : (disk.entry? (place ++ rest)).isSome) : disk.entry? place = some .folder := by
  obtain ⟨segment, others, rfl⟩ := List.exists_cons_of_ne_nil more
  by_contra other
  have nothing : disk.entry? (place ++ [segment]) = none := by
    by_contra something
    exact other (rooted place segment (Option.isSome_iff_ne_none.mpr something))
  have gone := rooted.entry?_below nothing others
  rw [List.append_assoc, List.singleton_append] at gone
  simp [gone] at present

/-- What a folder lies in is a folder. -/
theorem Rooted.above (rooted : disk.Rooted) {place above : Location}
    (folder : disk.entry? place = some .folder) (begins : above <+: place) :
    disk.entry? above = some .folder := by
  obtain ⟨rest, rfl⟩ := begins
  cases rest with
  | nil => simpa using folder
  | cons segment others =>
    exact rooted.folder_above (List.cons_ne_nil segment others) (by simp [folder])

/-- The folders from a place on along some segments have been provided. -/
structure Paved (before : Disk) (place : Location) (segments : List String) (after : Disk) :
    Prop where
  clear : ∀ front, front <+: segments → before.file? (place ++ front) = none
  changed : ∀ tested, after.entry? tested =
    if place <+: tested ∧ tested <+: place ++ segments then some .folder else before.entry? tested

/-- Folders that are provided from the root on are the beginnings of the way. -/
theorem Paved.ofRoot {segments : List String} (paved : Paved before [] segments after)
    (tested : Location) : after.entry? tested =
      if tested <+: segments then some .folder else before.entry? tested := by
  simpa using paved.changed tested

end Disk

namespace FileSystem

variable {disk : Disk} {after : Device} {place : Location} {segments : List String}

/-- Providing a folder in a folder makes it one, unless a file is in its place. -/
theorem provided_of_runsTo {last : Bool}
    (ran : RunsTo ⟨disk, none⟩ (provideFolder place last) () after) :
    ∃ provided, after = ⟨provided, none⟩ ∧ disk.file? place = none ∧
      ∀ tested, provided.entry? tested =
        if tested = place then some .folder else disk.entry? tested := by
  obtain ⟨found, middle, looked, rest⟩ := runsTo_bind_iff.mp ran
  obtain ⟨kind, rfl⟩ := runsTo_kind?_iff.mp looked
  match found with
  | none =>
    obtain ⟨provided, made, rfl⟩ := runsTo_change_iff.mp rest
    obtain ⟨nothing, -, changed⟩ := Disk.makeFolder_ok made
    exact ⟨provided, rfl, Disk.file?_of_entry?_none nothing, changed⟩
  | some .folder =>
    obtain ⟨-, rfl⟩ := runsTo_pure_iff.mp rest
    have folder := (Disk.kind?_eq_folder_iff disk place).mp kind
    refine ⟨disk, rfl, by simp [Disk.file?, folder], fun tested => ?_⟩
    split
    · next same => rw [same, folder]
    · rfl
  | some .file => exact absurd rest not_runsTo_throw

/-- A folder that takes the place of no file leaves all files as they are. -/
theorem file?_of_provided {provided : Disk} (free : disk.file? place = none)
    (changed : ∀ tested, provided.entry? tested =
      if tested = place then some .folder else disk.entry? tested) (tested : Location) :
    provided.file? tested = disk.file? tested := by
  by_cases same : tested = place
  · rw [same, free]
    simp [Disk.file?, changed]
  · exact Disk.file?_congr (by rw [changed, if_neg same])

/-- A folder can be provided in a folder where no file is. -/
theorem exists_provided (inside : disk.entry? place.dropLast = some .folder)
    (free : disk.file? place = none) (last : Bool) :
    ∃ provided, RunsTo ⟨disk, none⟩ (provideFolder place last) () ⟨provided, none⟩ := by
  have looked := runsTo_kind? disk place
  cases found : disk.entry? place with
  | none =>
    have nothing : disk.kind? place = none := by simp [Disk.kind?, found]
    obtain ⟨provided, made⟩ := Disk.exists_makeFolder found inside
    rw [nothing] at looked
    exact ⟨provided, looked.bind (runsTo_change made)⟩
  | some entry =>
    cases entry with
    | file content => simp [Disk.file?, found] at free
    | folder =>
      rw [(Disk.kind?_eq_folder_iff disk place).mpr found] at looked
      exact ⟨disk, looked.bind (runsTo_pure_iff.mpr ⟨rfl, rfl⟩)⟩

/-- The way down from a folder to the next one. -/
theorem step_of_upright {segment : String} (down : segment ≠ "..") (place : Location) :
    place.step segment = place ++ [segment] := by
  simp [Location.step, down]

/-- What is on a way is where it starts, or it is on the rest of the way. -/
theorem on_way_cons_iff {segment : String} {rest : List String} {tested : Location} :
    place <+: tested ∧ tested <+: place ++ segment :: rest ↔
      tested = place ∨ place ++ [segment] <+: tested ∧ tested <+: place ++ [segment] ++ rest := by
  have same : place ++ [segment] ++ rest = place ++ segment :: rest := by simp
  rw [same]
  constructor
  · rintro ⟨⟨more, rfl⟩, begins⟩
    cases more with
    | nil => exact Or.inl (List.append_nil place)
    | cons head tail =>
      obtain ⟨rfl, -⟩ := List.cons_prefix_cons.mp ((List.prefix_append_right_inj place).mp begins)
      exact Or.inr ⟨⟨tail, by simp⟩, begins⟩
  · rintro (rfl | ⟨further, begins⟩)
    · exact ⟨List.prefix_refl _, List.prefix_append _ _⟩
    · exact ⟨(List.prefix_append place [segment]).trans further, begins⟩

/-- Folders that have been provided along names are the folders on the way. -/
theorem paved_of_runsTo (upright : ".." ∉ segments) (folder : disk.entry? place = some .folder)
    (ran : RunsTo ⟨disk, none⟩ (provideFolders place segments) () after) :
    ∃ paved, after = ⟨paved, none⟩ ∧ disk.Paved place segments paved := by
  induction segments generalizing place disk with
  | nil =>
    obtain ⟨-, rfl⟩ := runsTo_pure_iff.mp ran
    refine ⟨disk, rfl, ⟨fun front start => ?_, fun tested => ?_⟩⟩
    · rw [List.prefix_nil.mp start, List.append_nil]
      simp [Disk.file?, folder]
    · split
      · next within =>
        rw [List.append_nil] at within
        rw [within.2.eq_of_length_le within.1.length_le, folder]
      · rfl
  | cons segment rest inductionHypothesis =>
    obtain ⟨down, upright⟩ := not_or.mp (mt List.mem_cons.mpr upright)
    obtain ⟨_, middle, first, later⟩ := runsTo_bind_iff.mp ran
    rw [step_of_upright (Ne.symm down)] at first later
    obtain ⟨provided, rfl, free, changed⟩ := provided_of_runsTo first
    obtain ⟨paved, rfl, further⟩ :=
      inductionHypothesis upright ((changed _).trans (if_pos rfl)) later
    refine ⟨paved, rfl, ⟨fun front start => ?_, fun tested => ?_⟩⟩
    · cases front with
      | nil => simp [Disk.file?, folder]
      | cons head tail =>
        obtain ⟨rfl, begins⟩ := List.cons_prefix_cons.mp start
        have clear := further.clear tail begins
        rwa [file?_of_provided free changed, List.append_assoc] at clear
    · simp only [further.changed, changed, on_way_cons_iff]
      by_cases beyond : place ++ [segment] <+: tested ∧ tested <+: place ++ [segment] ++ rest
      · rw [if_pos beyond, if_pos (Or.inr beyond)]
      · have apart : tested ≠ place ++ [segment] := by
          rintro rfl
          exact beyond ⟨List.prefix_refl _, List.prefix_append _ _⟩
        rw [if_neg beyond, if_neg apart]
        split
        · next same => rw [same.resolve_right beyond, folder]
        · rfl

/-- Folders can be provided along names unless a file is on the way. -/
theorem exists_paved (upright : ".." ∉ segments) (folder : disk.entry? place = some .folder)
    (clear : ∀ front, front <+: segments → disk.file? (place ++ front) = none) :
    ∃ paved, RunsTo ⟨disk, none⟩ (provideFolders place segments) () ⟨paved, none⟩ := by
  induction segments generalizing place disk with
  | nil => exact ⟨disk, runsTo_pure_iff.mpr ⟨rfl, rfl⟩⟩
  | cons segment rest inductionHypothesis =>
    obtain ⟨down, upright⟩ := not_or.mp (mt List.mem_cons.mpr upright)
    have free := clear [segment] ⟨rest, rfl⟩
    have inside : disk.entry? (place ++ [segment]).dropLast = some .folder := by
      rwa [List.dropLast_concat]
    obtain ⟨provided, first⟩ := exists_provided inside free rest.isEmpty
    obtain ⟨_, ⟨rfl⟩, -, changed⟩ := provided_of_runsTo first
    have further (front : Location) (start : front <+: rest) :
        provided.file? (place ++ [segment] ++ front) = none := by
      rw [file?_of_provided free changed, List.append_assoc]
      exact clear _ (List.cons_prefix_cons.mpr ⟨rfl, start⟩)
    obtain ⟨paved, later⟩ := inductionHypothesis upright ((changed _).trans (if_pos rfl)) further
    rw [← step_of_upright (Ne.symm down)] at first later
    exact ⟨paved, first.bind later⟩

end FileSystem

/-- A file can be written below a folder: no file is in the place of a folder on the way, and no
folder in the place of the file. -/
structure Writable (tree : Location → Option DiskEntry) (below : Location) : Prop where
  clear : ∀ front, front <+: below.dropLast → ∀ content, tree front ≠ some (.file content)
  free : tree below ≠ some .folder

/-- A tree with a file and the folders on the way to it. -/
def treeWith (tree : Location → Option DiskEntry) (below : Location) (content : ByteArray)
    (rest : Location) : Option DiskEntry :=
  if rest = below then some (.file content)
  else if rest <+: below.dropLast then some .folder
  else tree rest

namespace StagingArea

/-- All that has changed on a disk is below a folder. -/
structure Enclosed (scratch : Location) (start disk : Disk) : Prop where
  rooted : disk.Rooted
  folder : disk.entry? scratch = some .folder
  others : ∀ place, ¬ scratch <+: place → disk.entry? place = start.entry? place

variable {scratch below : Location} {start disk : Disk} {path : String} {content : ByteArray}
  {after : Device}

/-- A file is not on the way to itself. -/
theorem not_prefix_dropLast (some : below ≠ []) :
    ¬ scratch ++ below <+: scratch ++ below.dropLast := by
  rw [List.prefix_append_right_inj]
  intro longer
  have lengths := longer.length_le
  have positive := List.length_pos_iff.mpr some
  rw [List.length_dropLast] at lengths
  omega

/-- Writing at a plain path provides the folders on the way and writes the file there. -/
theorem runsTo_writeAt_iff (plain : Path.IsPlain path) :
    RunsTo ⟨disk, none⟩ (FileSystem.writeAt scratch path content) () after ↔
      Path.isBroken path = false ∧ ∃ middle,
        RunsTo ⟨disk, none⟩
          (FileSystem.provideFolders [] (scratch ++ (fieldsOf '/' path).dropLast)) () middle ∧
        RunsTo middle (FileSystem.write (scratch ++ fieldsOf '/' path) content) () after := by
  unfold FileSystem.writeAt
  rw [plain.isContained.isAbsolute, plain.follow, Path.folders, plain.segments]
  cases Path.isBroken path with
  | true =>
    refine ⟨fun ran => ?_, fun ⟨broken, _⟩ => nomatch broken⟩
    obtain ⟨_, _, stopped, -⟩ := runsTo_bind_iff.mp ran
    exact absurd stopped not_runsTo_throw
  | false =>
    simp only [Bool.false_eq_true, if_false, true_and, runsTo_bind_iff]
    exact ⟨fun ⟨_, parts⟩ => ⟨parts.choose, parts.choose_spec⟩, fun parts => ⟨(), parts⟩⟩

/-- The folders on the way to a file below an upright folder. -/
theorem upright_way (upright : ".." ∉ scratch) (plain : Path.IsPlain path) :
    ".." ∉ scratch ++ (fieldsOf '/' path).dropLast := by
  intro climbs
  rcases List.mem_append.mp climbs with inside | below
  · exact upright inside
  · exact (plain ".." (List.dropLast_subset _ below)).2.2.1 rfl

/-- A file that has been written at a plain path could be written there, and its tree is the tree
below the folder with the file in it. -/
theorem wrote_of_runsTo (enclosed : Enclosed scratch start disk) (upright : ".." ∉ scratch)
    (plain : Path.IsPlain path)
    (ran : RunsTo ⟨disk, none⟩ (FileSystem.writeAt scratch path content) () after) :
    ∃ left, after = ⟨left, none⟩ ∧ Path.isBroken path = false ∧
      Writable (disk.tree scratch) (fieldsOf '/' path) ∧ Enclosed scratch start left ∧
      left.tree scratch = treeWith (disk.tree scratch) (fieldsOf '/' path) content := by
  obtain ⟨whole, _, provided, written⟩ := (runsTo_writeAt_iff plain).mp ran
  obtain ⟨middle, rfl, paved⟩ :=
    FileSystem.paved_of_runsTo (upright_way upright plain) disk.entry?_root provided
  obtain ⟨_, ⟨rfl⟩, extended⟩ :=
    (FileSystem.meets_provideFolders disk _ []).of_runsTo (Disk.Extended.refl disk) provided
  obtain ⟨left, wrote, rfl⟩ := runsTo_change_iff.mp written
  obtain ⟨noFolder, inside, changed⟩ := Disk.write_ok wrote
  have way := paved.ofRoot
  have some := fieldsOf_ne_nil '/' path
  generalize fieldsOf '/' path = below at *
  have writable : Writable (disk.tree scratch) below := by
    constructor
    case clear =>
      intro front begins
      exact (Disk.file?_eq_none_iff disk _).mp
        (paved.clear (scratch ++ front) ((List.prefix_append_right_inj scratch).mpr begins))
    case free => rwa [way, if_neg (not_prefix_dropLast some)] at noFolder
  have kept : Enclosed scratch start left := by
    constructor
    case rooted => exact (extended.rooted enclosed.rooted).put inside noFolder changed
    case folder => rw [changed, if_neg (by simp [some]), way, if_pos (List.prefix_append _ _)]
    case others =>
      intro place outside
      have apart : place ≠ scratch ++ below := by
        rintro rfl
        exact outside (List.prefix_append _ _)
      rw [changed, if_neg apart, way, ← enclosed.others place outside]
      split
      · next begins =>
        have above := (List.prefix_or_prefix_of_prefix begins
          (List.prefix_append scratch _)).resolve_right outside
        exact (enclosed.rooted.above enclosed.folder above).symm
      · rfl
  refine ⟨left, rfl, whole, writable, kept, ?_⟩
  funext rest
  simp only [Disk.tree, treeWith, changed, way, List.append_cancel_left_eq,
    List.prefix_append_right_inj]

/-- A file can be written at a plain path wherever the tree allows it. -/
theorem exists_wrote (enclosed : Enclosed scratch start disk) (upright : ".." ∉ scratch)
    (plain : Path.IsPlain path) (whole : Path.isBroken path = false)
    (writable : Writable (disk.tree scratch) (fieldsOf '/' path)) (content : ByteArray) :
    ∃ left, RunsTo ⟨disk, none⟩ (FileSystem.writeAt scratch path content) () ⟨left, none⟩ := by
  have clear (front : Location) (begins : front <+: scratch ++ (fieldsOf '/' path).dropLast) :
      disk.file? ([] ++ front) = none := by
    refine (Disk.file?_eq_none_iff disk _).mpr fun content found => ?_
    rcases List.prefix_or_prefix_of_prefix begins (List.prefix_append scratch _) with
      above | ⟨rest, rfl⟩
    · rw [List.nil_append, enclosed.rooted.above enclosed.folder above] at found
      cases found
    · exact writable.clear rest ((List.prefix_append_right_inj scratch).mp begins) content found
  obtain ⟨middle, provided⟩ :=
    FileSystem.exists_paved (upright_way upright plain) disk.entry?_root clear
  obtain ⟨_, ⟨rfl⟩, paved⟩ :=
    FileSystem.paved_of_runsTo (upright_way upright plain) disk.entry?_root provided
  have some := fieldsOf_ne_nil '/' path
  have inside : middle.entry? (scratch ++ fieldsOf '/' path).dropLast = .some .folder := by
    rw [List.dropLast_append_of_ne_nil some, paved.ofRoot, if_pos (List.prefix_refl _)]
  have noFolder : middle.entry? (scratch ++ fieldsOf '/' path) ≠ .some .folder := by
    rw [paved.ofRoot, if_neg (not_prefix_dropLast some)]
    exact writable.free
  obtain ⟨left, wrote⟩ := Disk.exists_write noFolder inside content
  exact ⟨left, (runsTo_writeAt_iff plain).mpr ⟨whole, _, provided, runsTo_change wrote⟩⟩

end StagingArea

end FeatureLayout
