import FeatureLayout.Disk.Memory
import FeatureLayout.Proofs.Ledger
import FeatureLayout.Proofs.Path
import Mathlib.Data.List.Infix
import Mathlib.Data.List.Perm.Subperm

/-!
# What operations do to a disk

Each operation that succeeds is described by the entries that it leaves: a write changes one entry,
a removal clears a place and all below it, and a move carries everything below one place to another.
`Disk.Rooted` says that the folder of every entry is an entry too; every operation keeps that.
-/

namespace FeatureLayout

open Text

namespace Disk

/-- The bytes of the file at a location. -/
def file? (disk : Disk) (place : Location) : Option ByteArray :=
  match disk.entry? place with
  | some (.file content) => some content
  | _ => none

/-- The folder of every entry is an entry too. -/
def Rooted (disk : Disk) : Prop :=
  ∀ place segment, (disk.entry? (place ++ [segment])).isSome → disk.entry? place = some .folder

variable {disk after : Disk}

/-- The root is a folder. -/
@[simp] theorem entry?_root (disk : Disk) : disk.entry? [] = some .folder := rfl

/-- Below the root, entries are looked up in the table. -/
theorem entry?_of_below (disk : Disk) {place : Location} (below : place ≠ []) :
    disk.entry? place = disk.entries.find? place :=
  if_neg (by simpa using below)

/-- Nothing lies below a place where nothing exists. -/
theorem Rooted.entry?_below (rooted : disk.Rooted) {place : Location}
    (nothing : disk.entry? place = none) (rest : Location) :
    disk.entry? (place ++ rest) = none := by
  induction rest using List.reverseRecOn with
  | nil => simpa using nothing
  | append_singleton rest segment inductionHypothesis =>
    by_contra something
    have present : (disk.entry? ((place ++ rest) ++ [segment])).isSome := by
      simpa [Option.isSome_iff_ne_none] using something
    exact absurd (inductionHypothesis.symm.trans (rooted (place ++ rest) segment present)) (by simp)

theorem kind?_eq_folder_iff (disk : Disk) (place : Location) :
    disk.kind? place = some .folder ↔ disk.entry? place = some .folder := by
  unfold kind?
  cases disk.entry? place with
  | none => simp
  | some entry => cases entry <;> simp

theorem file?_eq_some_iff (disk : Disk) (place : Location) (content : ByteArray) :
    disk.file? place = some content ↔ disk.entry? place = some (.file content) := by
  unfold file?
  cases disk.entry? place with
  | none => simp
  | some entry => cases entry <;> simp

theorem kind?_eq_file_iff (disk : Disk) (place : Location) :
    disk.kind? place = some .file ↔ ∃ content, disk.file? place = some content := by
  unfold kind? file?
  cases disk.entry? place with
  | none => simp
  | some entry => cases entry <;> simp

/-- Below the root, the entries of a disk are those of its table. -/
theorem mem_entries_iff (disk : Disk) {place : Location} (below : place ≠ [])
    (entry : DiskEntry) :
    (place, entry) ∈ disk.entries.entries ↔ disk.entry? place = some entry := by
  rw [entry?_of_below disk below, Ledger.find?_eq_some_iff]

/-- A disk is rooted when every entry of its table lies in a folder. -/
theorem rooted_of_keys {disk : Disk}
    (inside : ∀ place ∈ disk.entries.keys, disk.kind? place.dropLast = some .folder) :
    disk.Rooted := by
  intro place segment present
  obtain ⟨entry, found⟩ := Option.isSome_iff_exists.mp present
  have listed := (mem_entries_iff disk (by simp) entry).mpr found
  have folder := inside _ (List.mem_map_of_mem listed)
  rw [List.dropLast_concat] at folder
  exact (kind?_eq_folder_iff disk place).mp folder

/-- Files are found where there are entries. -/
theorem file?_congr {disk other : Disk} {place elsewhere : Location}
    (same : disk.entry? place = other.entry? elsewhere) :
    disk.file? place = other.file? elsewhere := by
  simp only [file?, same]

theorem file?_of_entry?_none {place : Location} (nothing : disk.entry? place = none) :
    disk.file? place = none := by
  simp [file?, nothing]

/-- What is read is what a file holds. -/
theorem read_eq_ok_iff (disk : Disk) (place : Location) (content : ByteArray) :
    disk.read place = .ok content ↔ disk.file? place = some content := by
  unfold read file?
  cases disk.entry? place with
  | none => simp
  | some entry => cases entry <;> simp

/-- The files below a folder depend on nothing but what lies below it, up to their order. -/
theorem filesBelow_perm {other : Disk} {folder : Location}
    (same : ∀ rest, disk.file? (folder ++ rest) = other.file? (folder ++ rest)) :
    (disk.filesBelow folder).Perm (other.filesBelow folder) := by
  have listed (disk : Disk) (place : Location) :
      place ∈ (disk.placesBelow folder).filter (disk.kind? · == some .file) ↔
        place.isBelow folder = true ∧ (disk.file? place).isSome := by
    simp only [placesBelow, List.mem_filter, beq_iff_eq, kind?_eq_file_iff,
      ← Option.isSome_iff_exists, and_assoc]
    refine and_iff_right_of_imp fun ⟨below, present⟩ => ?_
    have nonempty : place ≠ [] := by
      rintro rfl
      simp [Location.isBelow] at below
    obtain ⟨content, found⟩ := Option.isSome_iff_exists.mp present
    rw [Ledger.mem_keys_iff, ← entry?_of_below disk nonempty]
    exact ⟨.file content, (file?_eq_some_iff disk place content).mp found⟩
  have distinct (disk : Disk) :
      ((disk.placesBelow folder).filter (disk.kind? · == some .file)).Nodup :=
    (disk.entries.distinct.filter _).filter _
  refine List.Perm.map _ ((List.perm_ext_iff_of_nodup (distinct disk) (distinct other)).mpr ?_)
  intro place
  rw [listed, listed]
  refine and_congr_right fun below => ?_
  obtain ⟨rest, rfl⟩ := List.isPrefixOf_iff_prefix.mp (Bool.and_eq_true_iff.mp below).1
  rw [same]

section Names

/-- Files and folders have names that can be written in paths. -/
def Proper (disk : Disk) : Prop :=
  ∀ place, (disk.entry? place).isSome → ∀ segment ∈ place, Path.IsName segment

theorem proper_of_keys {disk : Disk}
    (names : ∀ place ∈ disk.entries.keys, ∀ segment ∈ place, Path.IsName segment) :
    disk.Proper := by
  intro place present segment inside
  have below : place ≠ [] := List.ne_nil_of_mem inside
  obtain ⟨entry, found⟩ := Option.isSome_iff_exists.mp present
  have listed := (disk.mem_entries_iff below entry).mpr found
  exact names place (List.mem_map_of_mem listed) segment inside

/-- The files below a folder have plain paths, and these lead to them. -/
theorem Proper.mem_filesBelow {disk : Disk} (proper : disk.Proper) {folder : Location}
    {path : String} (listed : path ∈ disk.filesBelow folder) :
    Path.IsPlain path ∧ (disk.file? (folder.follow path)).isSome := by
  obtain ⟨place, present, rfl⟩ := List.mem_map.mp listed
  obtain ⟨below, kind⟩ := List.mem_filter.mp present
  obtain ⟨-, strictly⟩ := List.mem_filter.mp below
  simp only [Location.isBelow, Bool.and_eq_true, List.isPrefixOf_iff_prefix,
    decide_eq_true_eq] at strictly
  obtain ⟨⟨rest, rfl⟩, longer⟩ := strictly
  obtain ⟨content, found⟩ := (kind?_eq_file_iff disk _).mp (by simpa using kind)
  have entry : (disk.entry? (folder ++ rest)).isSome := by
    cases absent : disk.entry? (folder ++ rest) with
    | none => simp [file?, absent] at found
    | some entry => rfl
  have names : ∀ name ∈ rest, Path.IsName name := fun name inside =>
    proper _ entry name (List.mem_append_right folder inside)
  have some : rest ≠ [] := by
    rintro rfl
    simp at longer
  have plain := Path.isPlain_joinWith some names
  have leads : folder.follow (joinWith "/" rest) = folder ++ rest := by
    rw [plain.follow, fieldsOf_joinWith some fun name inside => (names name inside).2.2.2]
  rw [Location.below, List.drop_left]
  exact ⟨plain, by rw [leads, found]; rfl⟩

end Names

section Store

variable {place : Location} {entry : DiskEntry}

/-- Storing an entry below a folder changes the entry and nothing else. -/
theorem store_ok (stored : disk.store place entry = .ok after) :
    disk.entry? place.dropLast = some .folder ∧
      ∀ tested, tested ≠ [] →
        after.entry? tested = if tested = place then some entry else disk.entry? tested := by
  unfold store at stored
  split at stored
  · next found =>
    obtain rfl := Except.ok.inj stored
    refine ⟨(kind?_eq_folder_iff disk _).mp found, fun tested below => ?_⟩
    rw [entry?_of_below _ below, entry?_of_below _ below, Ledger.find?_put]
    simp only [eq_comm (a := place)]
  · exact absurd stored (by simp)
  · exact absurd stored (by simp)

/-- Creating a folder succeeds only where nothing exists, in a folder. -/
theorem makeFolder_ok (made : disk.makeFolder place = .ok after) :
    disk.entry? place = none ∧ disk.entry? place.dropLast = some .folder ∧
      ∀ tested, after.entry? tested =
        if tested = place then some .folder else disk.entry? tested := by
  unfold makeFolder at made
  split at made
  · exact absurd made (by simp)
  · next free =>
    have nothing : disk.entry? place = none := by simpa using free
    obtain ⟨inside, changed⟩ := store_ok made
    refine ⟨nothing, inside, fun tested => ?_⟩
    by_cases root : tested = []
    · have other : tested ≠ place := by
        rintro rfl
        simp [root] at nothing
      rw [if_neg other, root]
      rfl
    · exact changed tested root

/-- Writing a file succeeds only in a folder, and not in the place of a folder. -/
theorem write_ok {content : ByteArray} (written : disk.write place content = .ok after) :
    disk.entry? place ≠ some .folder ∧ disk.entry? place.dropLast = some .folder ∧
      ∀ tested, after.entry? tested =
        if tested = place then some (.file content) else disk.entry? tested := by
  unfold write at written
  split at written
  · exact absurd written (by simp)
  · next free =>
    have noFolder : disk.entry? place ≠ some .folder := fun folder =>
      free ((kind?_eq_folder_iff disk place).mpr folder)
    obtain ⟨inside, changed⟩ := store_ok written
    refine ⟨noFolder, inside, fun tested => ?_⟩
    by_cases root : tested = []
    · have other : tested ≠ place := by
        rintro rfl
        exact noFolder (by simp [root])
      rw [if_neg other, root]
      rfl
    · exact changed tested root

/-- An entry can be stored in a folder. -/
theorem exists_store (inside : disk.entry? place.dropLast = some .folder) :
    ∃ stored, disk.store place entry = .ok stored := by
  rw [store, (kind?_eq_folder_iff disk _).mpr inside]
  exact ⟨_, rfl⟩

/-- A folder can be created where nothing exists, in a folder. -/
theorem exists_makeFolder (free : disk.entry? place = none)
    (inside : disk.entry? place.dropLast = some .folder) :
    ∃ made, disk.makeFolder place = .ok made := by
  rw [makeFolder, free]
  exact exists_store inside

/-- A file can be written in a folder, unless a folder is in its place. -/
theorem exists_write (noFolder : disk.entry? place ≠ some .folder)
    (inside : disk.entry? place.dropLast = some .folder) (content : ByteArray) :
    ∃ written, disk.write place content = .ok written := by
  rw [write, if_neg (mt (kind?_eq_folder_iff disk place).mp noFolder)]
  exact exists_store inside

/-- A new entry in a folder keeps a disk rooted, unless it replaces a folder. -/
theorem Rooted.put (rooted : disk.Rooted) (inside : disk.entry? place.dropLast = some .folder)
    (noFolder : disk.entry? place ≠ some .folder)
    (changed : ∀ tested, after.entry? tested =
      if tested = place then some entry else disk.entry? tested) : after.Rooted := by
  intro tested segment present
  have apart : tested ≠ place := by
    rintro rfl
    have old : disk.entry? (tested ++ [segment]) = after.entry? (tested ++ [segment]) := by
      rw [changed, if_neg (by simp)]
    exact noFolder (rooted tested segment (old ▸ present))
  rw [changed, if_neg apart]
  by_cases same : tested ++ [segment] = place
  · rw [← same, List.dropLast_concat] at inside
    exact inside
  · rw [changed, if_neg same] at present
    exact rooted tested segment present

end Store

/-- What is left when a place is cleared. -/
theorem entry?_without (disk : Disk) {place : Location} (below : place ≠ [])
    (tested : Location) :
    Disk.entry? (disk.without place) tested =
      if place <+: tested then none else disk.entry? tested := by
  by_cases root : tested = []
  · subst root
    simp [below]
  · have kept (entry : DiskEntry) :
        (disk.without place).entries.find? tested = some entry ↔
          ¬ place <+: tested ∧ disk.entries.find? tested = some entry := by
      rw [Ledger.find?_eq_some_iff, Ledger.find?_eq_some_iff, without, Ledger.filter,
        List.mem_filter, and_comm]
      simp [Location.isWithin, ← List.isPrefixOf_iff_prefix]
    rw [entry?_of_below _ root, entry?_of_below _ root]
    ext entry
    rw [kept]
    split
    · next inside => simp [inside]
    · next outside => simp [outside]

/-- Clearing a place keeps a disk rooted. -/
theorem Rooted.without (rooted : disk.Rooted) {place : Location} (below : place ≠ []) :
    (disk.without place).Rooted := by
  intro tested segment present
  rw [entry?_without disk below] at present ⊢
  split at present
  · exact absurd present (by simp)
  · next outside =>
    have also : ¬ place <+: tested := fun inside =>
      outside (inside.trans (List.prefix_append tested [segment]))
    rw [if_neg also]
    exact rooted tested segment present

/-- Removing an empty folder clears it. -/
theorem removeFolder_ok {place : Location} (removed : disk.removeFolder place = .ok after) :
    after = disk.without place := by
  unfold removeFolder at removed
  split at removed
  · split at removed
    · exact (Except.ok.inj removed).symm
    · exact absurd removed (by simp)
  · exact absurd removed (by simp)
  · exact absurd removed (by simp)

/-- Removing a tree clears it. -/
theorem removeTree_ok {place : Location} (removed : disk.removeTree place = .ok after) :
    after = disk.without place := by
  unfold removeTree at removed
  split at removed
  · exact (Except.ok.inj removed).symm
  · exact absurd removed (by simp)
  · exact absurd removed (by simp)

/-- An empty folder can be removed. -/
theorem exists_removeFolder {place : Location} (folder : disk.entry? place = some .folder)
    (empty : ∀ rest, rest ≠ [] → disk.entry? (place ++ rest) = none) :
    ∃ removed, disk.removeFolder place = .ok removed := by
  have alone : (disk.placesBelow place).isEmpty = true := by
    refine List.isEmpty_iff.mpr (List.filter_eq_nil_iff.mpr fun tested listed strictly => ?_)
    simp only [Location.isBelow, Bool.and_eq_true, List.isPrefixOf_iff_prefix,
      decide_eq_true_eq] at strictly
    obtain ⟨⟨rest, rfl⟩, longer⟩ := strictly
    have more : rest ≠ [] := by
      rintro rfl
      simp at longer
    obtain ⟨entry, found⟩ := (Ledger.mem_keys_iff disk.entries _).mp listed
    rw [← entry?_of_below disk (by simp [more]), empty rest more] at found
    cases found
  rw [removeFolder, (kind?_eq_folder_iff disk place).mpr folder]
  exact ⟨_, if_pos alone⟩

/-- A folder can be removed with everything in it. -/
theorem exists_removeTree {place : Location} (folder : disk.entry? place = some .folder) :
    ∃ removed, disk.removeTree place = .ok removed := by
  rw [removeTree, (kind?_eq_folder_iff disk place).mpr folder]
  exact ⟨_, rfl⟩

section Scratch

variable (disk) (folder : Location) (start : String)

/-- A scratch place is named by a text and a number. -/
theorem exists_freePlace_eq (attempts number : Nat) :
    ∃ chosen : Nat, disk.freePlace folder start attempts number =
      folder ++ [start ++ toString chosen] := by
  induction attempts generalizing number with
  | zero => exact ⟨number, rfl⟩
  | succ attempts inductionHypothesis =>
    simp only [freePlace]
    split
    · exact ⟨number, rfl⟩
    · exact inductionHypothesis (number + 1)

/-- A scratch place is free, or all places that were tried are occupied. -/
theorem freePlace_or_occupied (attempts number : Nat) :
    disk.entry? (disk.freePlace folder start attempts number) = none ∨
      ∀ count < attempts,
        (disk.entry? (folder ++ [start ++ toString (number + count)])).isSome := by
  induction attempts generalizing number with
  | zero => exact Or.inr fun _ impossible => absurd impossible (Nat.not_lt_zero _)
  | succ attempts inductionHypothesis =>
    simp only [freePlace]
    split
    · next free => exact Or.inl (by simpa using free)
    · next occupied =>
      refine (inductionHypothesis (number + 1)).imp_right fun later count bound => ?_
      cases count with
      | zero => simpa [Option.isSome_iff_ne_none] using occupied
      | succ count =>
        have there := later count (by omega)
        rwa [Nat.add_right_comm] at there

/-- Trying one place more than there are entries finds a free one. -/
theorem entry?_freePlace :
    disk.entry? (disk.freePlace folder start (disk.entries.size + 1) 0) = none := by
  refine (freePlace_or_occupied disk folder start _ 0).resolve_right fun occupied => ?_
  let tried : List Location := (List.range (disk.entries.size + 1)).map fun count =>
    folder ++ [start ++ toString count]
  have distinct : tried.Nodup := by
    refine List.Nodup.map (fun first second same => ?_) List.nodup_range
    have names : start ++ toString first = start ++ toString second := by simpa using same
    have digits : Nat.toDigits 10 first = Nat.toDigits 10 second :=
      String.ofList_injective ((String.append_right_inj start).mp names)
    rw [← Nat.ofDigitChars_ten_toDigits (n := first), digits, Nat.ofDigitChars_ten_toDigits]
  have listed : tried ⊆ disk.entries.keys := by
    intro place member
    obtain ⟨count, bound, rfl⟩ := List.mem_map.mp member
    have there := occupied count (List.mem_range.mp bound)
    rw [Nat.zero_add, entry?_of_below disk (by simp)] at there
    exact (Ledger.contains_iff disk.entries _).mp there
  have fits := (distinct.subperm listed).length_le
  simp only [tried, List.length_map, List.length_range, Ledger.keys, Ledger.size] at fits
  omega

end Scratch

section Rename

variable {source target : Location}

/-- What exists can be moved to a free place in a folder. -/
theorem exists_rename (present : (disk.entry? source).isSome) (free : disk.entry? target = none)
    (inside : disk.entry? target.dropLast = some .folder) :
    ∃ renamed, disk.rename source target = .ok renamed := by
  obtain ⟨entry, found⟩ := Option.isSome_iff_exists.mp present
  rw [rename, found, free, (kind?_eq_folder_iff disk _).mpr inside]
  exact ⟨_, rfl⟩

/-- What a move leaves: what lay below the source lies below the target. -/
structure Moved (disk after : Disk) (source target : Location) : Prop where
  free : disk.entry? target = none
  inside : disk.entry? target.dropLast = some .folder
  arrived : ∀ rest, after.entry? (target ++ rest) = disk.entry? (source ++ rest)
  others : ∀ tested, ¬ target <+: tested →
    after.entry? tested = if source <+: tested then none else disk.entry? tested

theorem mem_carried (disk : Disk) (source target place : Location) (entry : DiskEntry) :
    (place, entry) ∈ disk.carried source target ↔
      ∃ rest, place = target ++ rest ∧ (source ++ rest, entry) ∈ disk.entries.entries := by
  simp only [carried, List.mem_map, List.mem_filter, Prod.mk.injEq, Prod.exists,
    Location.isWithin, List.isPrefixOf_iff_prefix]
  constructor
  · rintro ⟨_, stored, ⟨listed, rest, rfl⟩, rfl, rfl⟩
    exact ⟨rest, by simp, listed⟩
  · rintro ⟨rest, rfl, listed⟩
    exact ⟨source ++ rest, entry, ⟨listed, List.prefix_append source rest⟩, by simp, rfl⟩

/-- Carrying entries over keeps their places apart. -/
theorem carried_nodup (disk : Disk) (source target : Location) :
    ((disk.carried source target).map Prod.fst).Nodup := by
  have places : (disk.carried source target).map Prod.fst =
      (disk.entries.keys.filter (·.isWithin source)).map fun place =>
        target ++ place.drop source.length := by
    simp only [carried, Ledger.keys, List.filter_map, List.map_map]
    rfl
  rw [places]
  refine List.Nodup.map_on ?_ (disk.entries.distinct.filter _)
  intro first inFirst second inSecond same
  obtain ⟨-, within⟩ := List.mem_filter.mp inFirst
  obtain ⟨-, alsoWithin⟩ := List.mem_filter.mp inSecond
  obtain ⟨rest, rfl⟩ := List.isPrefixOf_iff_prefix.mp within
  obtain ⟨other, rfl⟩ := List.isPrefixOf_iff_prefix.mp alsoWithin
  have equal : rest = other := by simpa using same
  rw [equal]

/-- Moving what is below the root to a place that is not below it carries all entries over. -/
theorem rename_ok (rooted : disk.Rooted) (below : source ≠ [])
    (renamed : disk.rename source target = .ok after) : Moved disk after source target := by
  unfold rename at renamed
  split at renamed
  · exact absurd renamed (by simp)
  split at renamed
  · exact absurd renamed (by simp)
  next free =>
  have nothing : disk.entry? target = none := by simpa using free
  have aboveRoot : target ≠ [] := by
    rintro rfl
    exact absurd nothing (by simp)
  have vacant (rest : Location) (entry : DiskEntry) :
      (target ++ rest, entry) ∉ (disk.without source).entries.entries := by
    intro listed
    rw [mem_entries_iff _ (by simp [aboveRoot]), entry?_without disk below,
      rooted.entry?_below nothing rest] at listed
    exact absurd listed (by simp)
  split at renamed
  · next found =>
    obtain rfl := Except.ok.inj renamed
    have distinct : (((disk.without source).entries.entries ++
        disk.carried source target).map Prod.fst).Nodup := by
      rw [List.map_append, List.nodup_append]
      refine ⟨(disk.without source).entries.distinct, carried_nodup disk source target, ?_⟩
      rintro tested old _ new rfl
      obtain ⟨⟨place, entry⟩, arrived, rfl⟩ := List.mem_map.mp new
      obtain ⟨rest, rfl, -⟩ := (mem_carried disk source target place entry).mp arrived
      obtain ⟨⟨-, other⟩, kept, rfl⟩ := List.mem_map.mp old
      exact vacant rest other kept
    have listed (tested : Location) (some : tested ≠ []) (entry : DiskEntry) :
        Disk.entry? (Disk.mk (Ledger.ofList ((disk.without source).entries.entries ++
          disk.carried source target))) tested = Option.some entry ↔
        (tested, entry) ∈ (disk.without source).entries.entries ∨
          (tested, entry) ∈ disk.carried source target := by
      rw [← mem_entries_iff _ some, Ledger.entries_ofList _ distinct, List.mem_append]
    constructor
    case free => exact nothing
    case inside => exact (kind?_eq_folder_iff disk _).mp found
    case arrived =>
      intro rest
      ext entry
      rw [listed _ (by simp [aboveRoot]), mem_carried, ← mem_entries_iff disk (by simp [below])]
      constructor
      · rintro (kept | ⟨other, same, arrived⟩)
        · exact absurd kept (vacant rest entry)
        · exact List.append_cancel_left same ▸ arrived
      · intro present
        exact Or.inr ⟨rest, rfl, present⟩
    case others =>
      intro tested outside
      by_cases root : tested = []
      · subst root
        simp [below]
      · ext entry
        rw [listed tested root, mem_carried, mem_entries_iff _ root, entry?_without disk below]
        refine ⟨fun either => either.resolve_right ?_, Or.inl⟩
        rintro ⟨rest, rfl, -⟩
        exact outside (List.prefix_append target rest)
  · exact absurd renamed (by simp)
  · exact absurd renamed (by simp)

/-- A move keeps a disk rooted. -/
theorem Moved.rooted (moved : Moved disk after source target) (rooted : disk.Rooted)
    (apart : ¬ source <+: target) : after.Rooted := by
  intro tested segment present
  by_cases inside : target <+: tested
  · obtain ⟨rest, rfl⟩ := inside
    rw [List.append_assoc, moved.arrived, ← List.append_assoc] at present
    rw [moved.arrived]
    exact rooted (source ++ rest) segment present
  · rw [moved.others tested inside]
    by_cases arrives : target <+: tested ++ [segment]
    · have whole : target = tested ++ [segment] :=
        (List.prefix_concat_iff.mp arrives).resolve_right inside
      have outside : ¬ source <+: tested := fun start =>
        apart (whole ▸ start.trans (List.prefix_append tested [segment]))
      have folder := moved.inside
      rw [whole, List.dropLast_concat] at folder
      rw [if_neg outside]
      exact folder
    · rw [moved.others _ arrives] at present
      split at present
      · exact absurd present (by simp)
      · next outside =>
        have also : ¬ source <+: tested := fun start =>
          outside (start.trans (List.prefix_append tested [segment]))
        rw [if_neg also]
        exact rooted tested segment present

end Rename

end Disk

end FeatureLayout
