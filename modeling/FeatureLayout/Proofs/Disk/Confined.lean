import FeatureLayout.Disk.Staging
import FeatureLayout.Proofs.Disk.Mishap
import FeatureLayout.Proofs.Disk.Refill

/-!
# Writing below a folder

A confined path may lead upwards, but never out of the folder that it is followed from. Writing at
confined paths changes a disk below the folder only, also when an operation fails on the way, and
the tree that is there when all writes have succeeded depends on nothing but the paths and the
contents that were written.
-/

namespace FeatureLayout

open Text

namespace Path

/-- Whether some steps stay in a folder, from a place on that lies some levels below it. -/
def keepsBelow : Nat → List String → Bool
  | _, [] => true
  | depth, segment :: rest =>
    if segment == ".." then
      match depth with
      | 0 => false
      | depth + 1 => keepsBelow depth rest
    else keepsBelow (depth + 1) rest

/-- Whether a path is relative and never leads out of the folder that it is followed from. -/
def IsConfined (path : String) : Prop :=
  isAbsolute path = false ∧ keepsBelow 0 (segments path) = true

instance : DecidablePred IsConfined := fun path =>
  inferInstanceAs (Decidable (isAbsolute path = false ∧ keepsBelow 0 (segments path) = true))

/-- A step that stays in a folder is the same step below it, and the other steps stay there too. -/
theorem step_of_keepsBelow {rest : Location} {segment : String} {others : List String}
    (keeps : keepsBelow rest.length (segment :: others) = true) (folder : Location) :
    (folder ++ rest).step segment = folder ++ rest.step segment ∧
      keepsBelow (rest.step segment).length others = true := by
  unfold keepsBelow at keeps
  unfold Location.step
  split at keeps
  · next up =>
    rw [if_pos up, if_pos up]
    split at keeps
    · cases keeps
    · next depth same =>
      have some : rest ≠ [] := by
        rintro rfl
        cases same
      refine ⟨List.dropLast_append_of_ne_nil some, ?_⟩
      rw [List.length_dropLast, same]
      exact keeps
  · next down =>
    rw [if_neg down, if_neg down]
    exact ⟨List.append_assoc _ _ _, by simpa using keeps⟩

/-- Steps that stay in a folder are the same steps below it. -/
theorem foldl_step_of_keepsBelow {segments : List String} {rest : Location}
    (keeps : keepsBelow rest.length segments = true) (folder : Location) :
    segments.foldl Location.step (folder ++ rest) =
      folder ++ segments.foldl Location.step rest := by
  induction segments generalizing rest with
  | nil => rfl
  | cons segment others inductionHypothesis =>
    obtain ⟨same, later⟩ := step_of_keepsBelow keeps folder
    rw [List.foldl_cons, same, inductionHypothesis later, List.foldl_cons]

theorem keepsBelow_dropLast {segments : List String} {depth : Nat}
    (keeps : keepsBelow depth segments = true) : keepsBelow depth segments.dropLast = true := by
  induction segments generalizing depth with
  | nil => rfl
  | cons segment others inductionHypothesis =>
    cases others with
    | nil => rfl
    | cons second later =>
      rw [List.dropLast_cons_of_ne_nil (List.cons_ne_nil second later)]
      unfold keepsBelow at keeps ⊢
      split at keeps
      · next up =>
        rw [if_pos up]
        cases depth with
        | zero => cases keeps
        | succ depth => exact inductionHypothesis keeps
      · next down =>
        rw [if_neg down]
        exact inductionHypothesis keeps

/-- Where a confined path leads from a folder is where it leads from the root, below the folder. -/
theorem IsConfined.follow {path : String} (confined : IsConfined path) (folder : Location) :
    folder.follow path = folder ++ Location.follow [] path := by
  have keeps : keepsBelow ([] : Location).length (segments path) = true := confined.2
  unfold Location.follow
  rw [confined.1]
  simpa using foldl_step_of_keepsBelow keeps folder

end Path

/-- The places that steps from a location lead to, one after another. -/
def Location.passed : Location → List String → List Location
  | _, [] => []
  | place, segment :: rest => place.step segment :: passed (place.step segment) rest

namespace StagingArea

/-- A tree with folders in some places. -/
def paved (tree : Location → Option DiskEntry) (places : List Location) (rest : Location) :
    Option DiskEntry :=
  if rest ∈ places then some .folder else tree rest

/-- A tree with a file at a path, and with the folders that the path leads through. -/
def grown (tree : Location → Option DiskEntry) (path : String) (content : ByteArray)
    (rest : Location) : Option DiskEntry :=
  if rest = Location.follow [] path then some (.file content)
  else paved tree (Location.passed [] (Path.folders path)) rest

/-- The tree of a new folder in which files have been written, one after another. -/
def stagedTree (writes : List (String × ByteArray)) : Location → Option DiskEntry :=
  writes.foldl (fun tree written => grown tree written.1 written.2) bareTree

end StagingArea

namespace FrailM

/-- No tree was being removed when an operation failed, if one has failed. -/
def Spared (struck? : Option DiskOperation) : Prop := ∀ place, struck? ≠ some (.removeTree place)

theorem spared_none : Spared none := fun _ impossible => nomatch impossible

/-- Operations that take one step are no removals of trees. -/
theorem spared_some {operation : DiskOperation} (nowhere : operation.workplace? = none) :
    Spared (some operation) := by
  rintro place same
  rw [Option.some.inj same] at nowhere
  cases nowhere

/-- A folder is in a place, where it was or nothing was; all else is as it was. -/
structure Provided (before : Disk) (place : Location) (after : Disk) : Prop where
  extended : before.Extended after
  changed : ∀ tested, after.entry? tested =
    if tested = place then some .folder else before.entry? tested

/-- Providing a folder puts one in its place, or nothing has changed. -/
theorem meets_provideFolder {holds : Disk → Prop} {failed : Condition} (place : Location)
    (last : Bool)
    (fails : ∀ struck disk, Spared struck → holds disk → failed struck disk) :
    Meets (Calm holds) (FileSystem.provideFolder place last : FrailM Unit)
      (fun _ => Calm fun after => ∃ disk, holds disk ∧ Provided disk place after) failed := by
  refine (meets_kind? place fun disk calm => fails _ disk (spared_some rfl) calm.2).bind
    fun found => ?_
  match found with
  | none =>
    refine (meets_change ?_ ?_).answered ?_
    · rintro struck disk _ ⟨⟨rfl, start⟩, -⟩ -
      exact fails none disk spared_none start
    · rintro disk debris ⟨⟨-, start⟩, -⟩
      exact fails _ disk (spared_some rfl) start
    · rintro _ struck after ⟨disk, ⟨⟨calm, start⟩, -⟩, made⟩
      exact ⟨calm, disk, start, .of_makeFolder made, (Disk.makeFolder_ok made).2.2⟩
  | some .folder =>
    refine meets_answer ?_
    rintro struck disk ⟨⟨calm, start⟩, kind⟩
    refine ⟨calm, disk, start, .refl disk, fun tested => ?_⟩
    split
    · next same => rw [same, (Disk.kind?_eq_folder_iff disk place).mp kind.symm]
    · rfl
  | some .file =>
    refine meets_fault ?_
    rintro struck disk ⟨⟨rfl, start⟩, -⟩
    exact fails none disk spared_none start

/-- Providing folders keeps what each provided folder keeps. -/
theorem meets_provideFolders {holds : Location → List String → Disk → Prop} {failed : Condition}
    (step : ∀ {place segment rest disk after}, holds place (segment :: rest) disk →
      Provided disk (place.step segment) after → holds (place.step segment) rest after)
    (fails : ∀ {place segments struck disk}, Spared struck → holds place segments disk →
      failed struck disk)
    (place : Location) (segments : List String) :
    Meets (Calm (holds place segments)) (FileSystem.provideFolders place segments : FrailM Unit)
      (fun _ => Calm (holds (segments.foldl Location.step place) [])) failed := by
  induction segments generalizing place with
  | nil => exact meets_answer fun _ _ calm => calm
  | cons segment rest inductionHypothesis =>
    have first : Meets (Calm (holds place (segment :: rest)))
        (FileSystem.provideFolder (place.step segment) rest.isEmpty : FrailM Unit)
        (fun _ => Calm fun after => ∃ disk, holds place (segment :: rest) disk ∧
          Provided disk (place.step segment) after) failed :=
      meets_provideFolder _ _ fun _ _ spared start => fails spared start
    refine first.bind fun _ => (inductionHypothesis (place.step segment)).asked ?_
    rintro struck after ⟨calm, disk, start, provided⟩
    exact ⟨calm, step start provided⟩

end FrailM

namespace StagingArea

open FrailM

variable {scratch : Location} {base disk after : Disk} {tree : Location → Option DiskEntry}

/-- A folder that is provided on the way to the scratch folder has been there. -/
theorem Enclosed.provided_above (enclosed : Enclosed scratch base disk) {place : Location}
    (begins : place <+: scratch) (provided : Provided disk place after) (tested : Location) :
    after.entry? tested = disk.entry? tested := by
  rw [provided.changed]
  split
  · next same => rw [same, enclosed.rooted.above enclosed.folder begins]
  · rfl

/-- A folder that is provided below the scratch folder changes the tree below it only. -/
theorem Enclosed.provided_below (enclosed : Enclosed scratch base disk) {rest : Location}
    (provided : Provided disk (scratch ++ rest) after) :
    Enclosed scratch base after ∧ after.tree scratch = paved (disk.tree scratch) [rest] := by
  refine ⟨⟨provided.extended.rooted enclosed.rooted, ?_, fun place outside => ?_⟩, ?_⟩
  · rw [provided.extended.kept _ (by simp [enclosed.folder]), enclosed.folder]
  · have apart : place ≠ scratch ++ rest := by
      rintro rfl
      exact outside (List.prefix_append _ _)
    rw [provided.changed, if_neg apart, enclosed.others place outside]
  · funext tested
    simp [Disk.tree, paved, provided.changed]

/-- The folders on the way to a file are provided one after another: first those that lead to the
scratch folder, which are there, and then those below it, which are added to the tree. -/
inductive Paving (scratch : Location) (base : Disk) (tree : Location → Option DiskEntry)
    (folders : List String) : Location → List String → Disk → Prop where
  | above {place front : Location} {disk : Disk} (leads : place ++ front = scratch)
      (enclosed : Enclosed scratch base disk) (same : disk.tree scratch = tree) :
      Paving scratch base tree folders place (front ++ folders) disk
  | below {rest : Location} {segments : List String} {disk : Disk}
      (keeps : Path.keepsBelow rest.length segments = true)
      (enclosed : Enclosed scratch base disk)
      (same : paved (disk.tree scratch) (rest.passed segments) =
        paved tree (Location.passed [] folders)) :
      Paving scratch base tree folders (scratch ++ rest) segments disk

theorem Paving.enclosed {folders segments : List String} {place : Location}
    (paving : Paving scratch base tree folders place segments disk) :
    Enclosed scratch base disk := by
  cases paving with
  | above _ enclosed _ => exact enclosed
  | below _ enclosed _ => exact enclosed

/-- At the scratch folder, the way below it begins. -/
theorem Paving.cases_below {folders segments : List String} {place : Location}
    (keeps : Path.keepsBelow 0 folders = true)
    (paving : Paving scratch base tree folders place segments disk) :
    (∃ segment front, place ++ segment :: front = scratch ∧ segments = segment :: front ++ folders ∧
      Enclosed scratch base disk ∧ disk.tree scratch = tree) ∨
    ∃ rest, place = scratch ++ rest ∧ Path.keepsBelow rest.length segments = true ∧
      paved (disk.tree scratch) (rest.passed segments) =
        paved tree (Location.passed [] folders) := by
  cases paving with
  | @above _ front _ leads enclosed same =>
    cases front with
    | nil =>
      rw [List.append_nil] at leads
      exact Or.inr ⟨[], by simpa using leads, keeps, by rw [same]; rfl⟩
    | cons segment front => exact Or.inl ⟨segment, front, leads, rfl, enclosed, same⟩
  | below keeps _ same => exact Or.inr ⟨_, rfl, keeps, same⟩

/-- When all folders have been provided, they are in the tree. -/
theorem Paving.tree_eq {folders : List String} {place : Location}
    (keeps : Path.keepsBelow 0 folders = true)
    (paving : Paving scratch base tree folders place [] disk) :
    disk.tree scratch = paved tree (Location.passed [] folders) := by
  rcases paving.cases_below keeps with ⟨_, _, -, same, -⟩ | ⟨rest, -, -, same⟩
  · cases same
  · rw [← same]
    funext tested
    simp [paved, Location.passed]

theorem paved_cons (tree : Location → Option DiskEntry) (place : Location)
    (places : List Location) :
    paved (paved tree [place]) places = paved tree (place :: places) := by
  funext rest
  simp only [paved, List.mem_cons, List.not_mem_nil, or_false]
  split
  · next inside => rw [if_pos (Or.inr inside)]
  · next outside => simp only [outside, or_false]

/-- Each folder that is provided is one of those on the way. -/
theorem Paving.step {folders others : List String} {place : Location} {segment : String}
    (upright : ".." ∉ scratch) (keeps : Path.keepsBelow 0 folders = true)
    (paving : Paving scratch base tree folders place (segment :: others) disk)
    (provided : Provided disk (place.step segment) after) :
    Paving scratch base tree folders (place.step segment) others after := by
  rcases paving.cases_below keeps with
    ⟨first, front, leads, same, enclosed, unchanged⟩ | ⟨rest, rfl, keeps, same⟩
  · obtain ⟨rfl, rfl⟩ := List.cons.inj same
    have down : segment ≠ ".." := by
      rintro rfl
      exact upright (leads ▸ by simp)
    rw [FileSystem.step_of_upright down] at provided ⊢
    have leads : place ++ [segment] ++ front = scratch := by simpa using leads
    have unmoved := enclosed.provided_above ⟨front, leads⟩ provided
    refine .above leads ⟨provided.extended.rooted enclosed.rooted, ?_, fun tested outside => ?_⟩ ?_
    · rw [unmoved, enclosed.folder]
    · rw [unmoved, enclosed.others tested outside]
    · funext rest
      rw [← unchanged]
      exact unmoved _
  · obtain ⟨leads, later⟩ := Path.step_of_keepsBelow keeps scratch
    rw [leads] at provided ⊢
    obtain ⟨enclosed, grows⟩ := paving.enclosed.provided_below provided
    refine .below later enclosed ?_
    rw [grows, paved_cons]
    exact same

/-- Outside a folder, a disk is as it was. -/
def Outside (scratch : Location) (base disk : Disk) : Prop :=
  ∀ place, ¬ scratch <+: place → disk.entry? place = base.entry? place

end StagingArea

namespace FrailM

open StagingArea

variable {scratch : Location} {base : Disk} {tree : Location → Option DiskEntry}

/-- Writing a file at a confined path adds it to the tree below the scratch folder. When it fails,
all else is as it was. -/
theorem meets_writeAt {path : String} (confined : Path.IsConfined path) (upright : ".." ∉ scratch)
    (content : ByteArray) {failed : Condition}
    (fails : ∀ struck disk, Spared struck → Outside scratch base disk → failed struck disk) :
    Meets (Calm fun disk => Enclosed scratch base disk ∧ disk.tree scratch = tree)
      (FileSystem.writeAt scratch path content : FrailM Unit)
      (fun _ => Calm fun disk => Enclosed scratch base disk ∧
        disk.tree scratch = grown tree path content) failed := by
  unfold FileSystem.writeAt
  dsimp only
  split
  · have refused : Meets (Calm fun disk => Enclosed scratch base disk ∧ disk.tree scratch = tree)
        (throw (.setting .brokenPath) : FrailM Unit) (fun _ _ _ => False) failed := by
      refine meets_fault ?_
      rintro struck disk ⟨rfl, enclosed, -⟩
      exact fails none disk spared_none enclosed.others
    exact refused.bind fun _ _ impossible => impossible.elim
  have keeps : Path.keepsBelow 0 (Path.folders path) = true := Path.keepsBelow_dropLast confined.2
  rw [confined.1, confined.follow]
  simp only [Bool.false_eq_true, if_false]
  have paves : Meets
      (Calm (Paving scratch base tree (Path.folders path) [] (scratch ++ Path.folders path)))
      (FileSystem.provideFolders [] (scratch ++ Path.folders path) : FrailM Unit)
      (fun _ => Calm (Paving scratch base tree (Path.folders path)
        ((scratch ++ Path.folders path).foldl Location.step []) [])) failed :=
    meets_provideFolders (fun paving provided => paving.step upright keeps provided)
      (fun spared paving => fails _ _ spared paving.enclosed.others) [] _
  have leads : (scratch ++ Path.folders path).foldl Location.step [] =
      scratch ++ (Path.folders path).foldl Location.step [] := by
    have down := Path.foldl_step scratch (fun name inside same => upright (same ▸ inside)) []
    have below : Path.keepsBelow ([] : Location).length (Path.folders path) = true := keeps
    rw [List.foldl_append, down, List.nil_append]
    simpa using Path.foldl_step_of_keepsBelow below scratch
  rw [leads] at paves
  refine (paves.asked ?_).bind fun _ => (meets_change ?_ ?_).answered ?_
  · rintro struck disk ⟨calm, enclosed, same⟩
    exact ⟨calm, .above (List.nil_append scratch) enclosed same⟩
  · rintro struck disk _ ⟨rfl, paving⟩ -
    exact fails none disk spared_none paving.enclosed.others
  · rintro disk debris ⟨-, paving⟩
    refine fails _ _ (fun place same => nomatch same) fun place outside => ?_
    have away : ∀ workplace ∈ (DiskOperation.write
        (scratch ++ Location.follow [] path)).workplace?, ¬ workplace <+: place := by
      rintro _ ⟨⟩ within
      exact outside ((List.prefix_append _ _).trans within)
    rw [DiskOperation.entry?_leaves _ disk debris away, paving.enclosed.others place outside]
  · rintro _ struck after ⟨disk, ⟨calm, paving⟩, wrote⟩
    obtain ⟨noFolder, inside, changed⟩ := Disk.write_ok wrote
    have enclosed := paving.enclosed
    have some : Location.follow [] path ≠ [] := by
      intro none
      rw [none, List.append_nil] at noFolder
      exact noFolder enclosed.folder
    refine ⟨calm, ⟨enclosed.rooted.put inside noFolder changed, ?_, fun place outside => ?_⟩, ?_⟩
    · rw [changed, if_neg (by simp [some]), enclosed.folder]
    · have apart : place ≠ scratch ++ Location.follow [] path := by
        rintro rfl
        exact outside (List.prefix_append _ _)
      rw [changed, if_neg apart, enclosed.others place outside]
    · funext rest
      rw [grown, ← paving.tree_eq keeps]
      simp [Disk.tree, changed]

end FrailM

end FeatureLayout
