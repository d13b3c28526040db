import FeatureLayout.Proofs.Disk.Tree

/-!
# Actions that follow each other

`DiskM.Follows` relates two actions on related disks: what the first does on its disk, the second
does on the other, with the same answer, and the disks stay related. Work that writes into two
scratch folders on two disks keeps the trees below them alike.
-/

namespace FeatureLayout

open Text DiskM

namespace DiskM

variable {α β : Type} {related : Disk → Disk → Prop}

/-- Whatever the first action does on a disk, the second does on every related disk. -/
def Follows (related : Disk → Disk → Prop) (first second : DiskM α) : Prop :=
  ∀ left right, related left right → ∀ answer after, RunsTo ⟨left, none⟩ first answer after →
    ∃ left' right', after = ⟨left', none⟩ ∧ RunsTo ⟨right, none⟩ second answer ⟨right', none⟩ ∧
      related left' right'

theorem follows_pure (answer : α) : Follows related (pure answer) (pure answer) := by
  rintro left right same _ _ ran
  obtain ⟨rfl, rfl⟩ := runsTo_pure_iff.mp ran
  exact ⟨left, right, rfl, runsTo_pure_iff.mpr ⟨rfl, rfl⟩, same⟩

/-- Actions that follow each other are followed by actions that do. -/
theorem Follows.bind {first second : DiskM α} {next other : α → DiskM β}
    (begins : Follows related first second)
    (goes : ∀ answer, Follows related (next answer) (other answer)) :
    Follows related (first >>= next) (second >>= other) := by
  intro left right same last after ran
  obtain ⟨answer, _, start, rest⟩ := runsTo_bind_iff.mp ran
  obtain ⟨middle, between, rfl, also, kept⟩ := begins left right same answer _ start
  obtain ⟨left', right', rfl, later, ends⟩ := goes answer middle between kept last after rest
  exact ⟨left', right', rfl, also.bind later, ends⟩

/-- Loops follow each other when their steps do. -/
theorem follows_forM {first second : α → DiskM PUnit} (items : List α)
    (step : ∀ item ∈ items, Follows related (first item) (second item)) :
    Follows related (items.forM first) (items.forM second) := by
  induction items with
  | nil => exact follows_pure PUnit.unit
  | cons item rest inductionHypothesis =>
    exact (step item List.mem_cons_self).bind fun _ =>
      inductionHypothesis fun other listed => step other (List.mem_cons_of_mem item listed)

/-- Looking up what is the same on related disks. -/
theorem follows_look {find : Disk → Except DiskProblem α} {also : Disk → Except DiskProblem α}
    (same : ∀ left right, related left right → ∀ answer, find left = .ok answer →
      also right = .ok answer) : Follows related (look find) (look also) := by
  rintro left right holds answer _ ran
  obtain ⟨found, rfl⟩ := runsTo_look_iff.mp ran
  exact ⟨left, right, rfl, runsTo_look_iff.mpr ⟨same left right holds answer found, rfl⟩, holds⟩

end DiskM

namespace StagingArea

/-- Two disks on which all changes are below two folders, with one tree below both. -/
structure Paired (first second : Location) (start other left right : Disk) : Prop where
  here : Enclosed first start left
  there : Enclosed second other right
  alike : left.tree first = right.tree second

variable {first second : Location} {start other : Disk}

/-- A file that is written below one folder can be written below the other. -/
theorem follows_writeAt {path : String} (plain : Path.IsPlain path) (upright : ".." ∉ first)
    (also : ".." ∉ second) (content : ByteArray) :
    Follows (Paired first second start other) (FileSystem.writeAt first path content)
      (FileSystem.writeAt second path content) := by
  rintro left right paired ⟨⟩ after ran
  obtain ⟨left', rfl, whole, writable, enclosed, tree⟩ :=
    wrote_of_runsTo paired.here upright plain ran
  have allowed := writable
  rw [paired.alike] at allowed
  obtain ⟨right', wrote⟩ := exists_wrote paired.there also plain whole allowed content
  obtain ⟨_, ⟨rfl⟩, -, -, encloses, grown⟩ := wrote_of_runsTo paired.there also plain wrote
  exact ⟨left', right', rfl, wrote, enclosed, encloses, by rw [tree, grown, paired.alike]⟩

end StagingArea

end FeatureLayout
