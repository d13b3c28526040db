/-!
# Insertion-ordered tables

A `Ledger` maps keys to values and remembers the order in which its keys first arrived. Writing to
a present key replaces its value where it stands; writing to a new key appends. Configuration
tables, adjacency lists and plans are ledgers, because their order shows in answers.

The main statements are `find?_put` and `keys_put`: what a write does to look-ups and to the order.
-/

namespace FeatureLayout

/-- A finite map that keeps its keys in the order of their first insertion. -/
structure Ledger (κ : Type) (ν : Type) where
  /-- The entries, oldest key first. -/
  entries : List (κ × ν)
  /-- No key occurs twice. -/
  distinct : (entries.map Prod.fst).Nodup

namespace Ledger

variable {κ ν : Type} [DecidableEq κ]

/-- The ledger without entries. -/
def empty : Ledger κ ν := ⟨[], by simp⟩

instance : EmptyCollection (Ledger κ ν) := ⟨empty⟩

instance : Inhabited (Ledger κ ν) := ⟨empty⟩

/-- The keys, oldest first. -/
def keys (ledger : Ledger κ ν) : List κ := ledger.entries.map Prod.fst

/-- The values, in the order of their keys. -/
def values (ledger : Ledger κ ν) : List ν := ledger.entries.map Prod.snd

/-- The number of entries. -/
def size (ledger : Ledger κ ν) : Nat := ledger.entries.length

/-- The value stored under a key in a list of entries. -/
def lookup (key : κ) : List (κ × ν) → Option ν
  | [] => none
  | (stored, value) :: rest => if stored = key then some value else lookup key rest

/-- The value stored under a key. -/
def find? (ledger : Ledger κ ν) (key : κ) : Option ν := lookup key ledger.entries

/-- Whether a key is present. -/
def contains (ledger : Ledger κ ν) (key : κ) : Bool := (ledger.find? key).isSome

/-- Replaces the value of a present key in place, or appends a new entry. -/
def write (key : κ) (value : ν) : List (κ × ν) → List (κ × ν)
  | [] => [(key, value)]
  | (stored, old) :: rest =>
    if stored = key then (stored, value) :: rest else (stored, old) :: write key value rest

theorem lookup_write (key : κ) (value : ν) (entries : List (κ × ν)) (tested : κ) :
    lookup tested (write key value entries) =
      if key = tested then some value else lookup tested entries := by
  induction entries with
  | nil => simp [write, lookup]
  | cons head rest inductionHypothesis =>
    obtain ⟨stored, old⟩ := head
    by_cases same : stored = key
    · subst same
      by_cases asked : stored = tested <;> simp [write, lookup, asked]
    · by_cases asked : stored = tested
      · subst asked
        have other : key ≠ stored := fun equal => same equal.symm
        simp [write, lookup, same, other]
      · simp [write, lookup, same, asked, inductionHypothesis]

theorem mem_fst_write (key : κ) (value : ν) (entries : List (κ × ν)) (tested : κ) :
    tested ∈ (write key value entries).map Prod.fst ↔
      tested = key ∨ tested ∈ entries.map Prod.fst := by
  induction entries with
  | nil => simp [write]
  | cons head rest inductionHypothesis =>
    obtain ⟨stored, old⟩ := head
    by_cases same : stored = key
    · subst same
      simp [write]
    · simp only [write, same, if_false, List.map_cons, List.mem_cons, inductionHypothesis]
      constructor
      · rintro (equal | equal | member)
        · exact Or.inr (Or.inl equal)
        · exact Or.inl equal
        · exact Or.inr (Or.inr member)
      · rintro (equal | equal | member)
        · exact Or.inr (Or.inl equal)
        · exact Or.inl equal
        · exact Or.inr (Or.inr member)

theorem nodup_write (key : κ) (value : ν) (entries : List (κ × ν))
    (distinct : (entries.map Prod.fst).Nodup) :
    ((write key value entries).map Prod.fst).Nodup := by
  induction entries with
  | nil => simp [write]
  | cons head rest inductionHypothesis =>
    obtain ⟨stored, old⟩ := head
    simp only [List.map_cons, List.nodup_cons] at distinct
    by_cases same : stored = key
    · simp only [write, same, if_true, List.map_cons, List.nodup_cons]
      exact ⟨same ▸ distinct.1, distinct.2⟩
    · simp only [write, same, if_false, List.map_cons, List.nodup_cons]
      refine ⟨?_, inductionHypothesis distinct.2⟩
      rw [mem_fst_write]
      rintro (equal | member)
      · exact same equal
      · exact distinct.1 member

/-- Stores a value under a key: in place when the key is present, last otherwise. -/
def put (ledger : Ledger κ ν) (key : κ) (value : ν) : Ledger κ ν :=
  ⟨write key value ledger.entries, nodup_write key value ledger.entries ledger.distinct⟩

/-- Stores `start` under a key that is not yet present. -/
def putNew (ledger : Ledger κ ν) (key : κ) (start : ν) : Ledger κ ν :=
  if ledger.contains key then ledger else ledger.put key start

/-- Changes the value of a key, starting from `start` when it is absent. -/
def modify (ledger : Ledger κ ν) (key : κ) (start : ν) (change : ν → ν) : Ledger κ ν :=
  ledger.put key (change ((ledger.find? key).getD start))

/-- Enters pairs one after another, so a repeated key keeps its first place and last value. -/
def ofList (pairs : List (κ × ν)) : Ledger κ ν :=
  pairs.foldl (fun ledger pair => ledger.put pair.1 pair.2) empty

/-- Keeps the entries that pass a test. -/
def filter (ledger : Ledger κ ν) (keep : κ × ν → Bool) : Ledger κ ν :=
  ⟨ledger.entries.filter keep,
    List.Nodup.sublist (List.Sublist.map Prod.fst List.filter_sublist) ledger.distinct⟩

@[simp] theorem find?_empty (key : κ) : (empty : Ledger κ ν).find? key = none := rfl

omit [DecidableEq κ] in
@[simp] theorem keys_empty : (empty : Ledger κ ν).keys = [] := rfl

/-- A write is seen under its own key and under no other. -/
theorem find?_put (ledger : Ledger κ ν) (key tested : κ) (value : ν) :
    (ledger.put key value).find? tested =
      if key = tested then some value else ledger.find? tested :=
  lookup_write key value ledger.entries tested

theorem lookup_isSome_iff (key : κ) (entries : List (κ × ν)) :
    (lookup key entries).isSome ↔ key ∈ entries.map Prod.fst := by
  induction entries with
  | nil => simp [lookup]
  | cons head rest inductionHypothesis =>
    obtain ⟨stored, value⟩ := head
    by_cases same : stored = key
    · simp [lookup, same]
    · have other : key ≠ stored := fun equal => same equal.symm
      simp only [lookup, same, if_false, inductionHypothesis, List.map_cons, List.mem_cons, other,
        false_or]

/-- A key is present exactly when it is listed. -/
theorem contains_iff (ledger : Ledger κ ν) (key : κ) :
    ledger.contains key = true ↔ key ∈ ledger.keys :=
  lookup_isSome_iff key ledger.entries

/-- A new key comes last; the order of the others is kept. -/
theorem keys_put (ledger : Ledger κ ν) (key : κ) (value : ν) :
    (ledger.put key value).keys =
      if key ∈ ledger.keys then ledger.keys else ledger.keys ++ [key] := by
  have written : ∀ entries : List (κ × ν),
      (write key value entries).map Prod.fst =
        if key ∈ entries.map Prod.fst then entries.map Prod.fst
        else entries.map Prod.fst ++ [key] := by
    intro entries
    induction entries with
    | nil => simp [write]
    | cons head rest inductionHypothesis =>
      obtain ⟨stored, old⟩ := head
      by_cases same : stored = key
      · simp [write, same]
      · have other : key ≠ stored := fun equal => same equal.symm
        simp only [write, same, if_false, List.map_cons, inductionHypothesis, List.mem_cons, other,
          false_or]
        split <;> simp
  exact written ledger.entries

end Ledger

end FeatureLayout
