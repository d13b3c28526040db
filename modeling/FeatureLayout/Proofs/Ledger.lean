import FeatureLayout.Ledger
import Mathlib.Data.List.Basic
import Mathlib.Data.List.Nodup

/-!
# What writing to a ledger keeps

The keys after each kind of write, and the entries of a ledger that is made from pairs with distinct
keys: these are the pairs themselves, in their order. A look-up finds exactly what is listed.
-/

namespace FeatureLayout

namespace Ledger

variable {κ ν : Type} [DecidableEq κ]

/-- A write adds its key. -/
theorem mem_keys_put (ledger : Ledger κ ν) (key tested : κ) (value : ν) :
    tested ∈ (ledger.put key value).keys ↔ tested = key ∨ tested ∈ ledger.keys :=
  mem_fst_write key value ledger.entries tested

/-- A key is listed exactly when something is stored under it. -/
theorem mem_keys_iff (ledger : Ledger κ ν) (key : κ) :
    key ∈ ledger.keys ↔ ∃ value, ledger.find? key = some value := by
  rw [← contains_iff, contains, Option.isSome_iff_exists]

/-- Providing for a key adds it. -/
theorem mem_keys_putNew (ledger : Ledger κ ν) (key tested : κ) (start : ν) :
    tested ∈ (ledger.putNew key start).keys ↔ tested = key ∨ tested ∈ ledger.keys := by
  unfold putNew
  split
  · next present =>
    have listed : key ∈ ledger.keys := (contains_iff ledger key).mp present
    exact ⟨Or.inr, fun either => either.elim (fun same => same ▸ listed) id⟩
  · exact mem_keys_put ledger key tested start

/-- Changing the value of a key adds the key. -/
theorem mem_keys_modify (ledger : Ledger κ ν) (key tested : κ) (start : ν) (change : ν → ν) :
    tested ∈ (ledger.modify key start change).keys ↔ tested = key ∨ tested ∈ ledger.keys :=
  mem_keys_put ledger key tested _

/-- A look-up among entries with distinct keys finds what is listed. -/
theorem lookup_eq_some_iff (entries : List (κ × ν)) (distinct : (entries.map Prod.fst).Nodup)
    (key : κ) (value : ν) : lookup key entries = some value ↔ (key, value) ∈ entries := by
  induction entries with
  | nil => simp [lookup]
  | cons head rest inductionHypothesis =>
    obtain ⟨stored, old⟩ := head
    obtain ⟨absent, tail⟩ := List.nodup_cons.mp distinct
    by_cases same : stored = key
    · subst same
      have elsewhere : (stored, value) ∉ rest := fun listed =>
        absent (List.mem_map.mpr ⟨(stored, value), listed, rfl⟩)
      simp [lookup, elsewhere, eq_comm]
    · simp [lookup, same, Ne.symm same, inductionHypothesis tail]

/-- A look-up finds exactly what is listed. -/
theorem find?_eq_some_iff (ledger : Ledger κ ν) (key : κ) (value : ν) :
    ledger.find? key = some value ↔ (key, value) ∈ ledger.entries :=
  lookup_eq_some_iff ledger.entries ledger.distinct key value

/-- A look-up of a key that is not listed finds nothing. -/
theorem find?_eq_none_iff (ledger : Ledger κ ν) (key : κ) :
    ledger.find? key = none ↔ key ∉ ledger.keys := by
  rw [mem_keys_iff, Option.eq_none_iff_forall_ne_some, not_exists]

/-- A new key is written behind all entries. -/
theorem entries_put_of_new (ledger : Ledger κ ν) {key : κ} (absent : key ∉ ledger.keys)
    (value : ν) : (ledger.put key value).entries = ledger.entries ++ [(key, value)] := by
  have written : ∀ entries : List (κ × ν), key ∉ entries.map Prod.fst →
      write key value entries = entries ++ [(key, value)] := by
    intro entries
    induction entries with
    | nil => simp [write]
    | cons head rest inductionHypothesis =>
      obtain ⟨stored, old⟩ := head
      intro unlisted
      simp only [List.map_cons, List.mem_cons, not_or] at unlisted
      obtain ⟨other, tail⟩ := unlisted
      simp [write, Ne.symm other, inductionHypothesis tail]
  exact written ledger.entries absent

/-- Writing pairs with new and distinct keys appends them. -/
theorem entries_foldl_put (pairs : List (κ × ν)) (ledger : Ledger κ ν)
    (distinct : (ledger.keys ++ pairs.map Prod.fst).Nodup) :
    (pairs.foldl (fun ledger pair => ledger.put pair.1 pair.2) ledger).entries =
      ledger.entries ++ pairs := by
  induction pairs generalizing ledger with
  | nil => simp
  | cons pair rest inductionHypothesis =>
    have absent : pair.1 ∉ ledger.keys := fun present =>
      (List.nodup_append.mp distinct).2.2 pair.1 present pair.1 List.mem_cons_self rfl
    have keys : (ledger.put pair.1 pair.2).keys = ledger.keys ++ [pair.1] := by
      rw [keys_put, if_neg absent]
    have remaining : ((ledger.put pair.1 pair.2).keys ++ rest.map Prod.fst).Nodup := by
      simpa [keys] using distinct
    rw [List.foldl_cons, inductionHypothesis _ remaining, entries_put_of_new ledger absent]
    simp

/-- A ledger made from pairs with distinct keys has these pairs as its entries. -/
theorem entries_ofList (pairs : List (κ × ν)) (distinct : (pairs.map Prod.fst).Nodup) :
    (ofList pairs).entries = pairs :=
  entries_foldl_put pairs empty (by simpa using distinct)

/-- What a ledger made from pairs stores is one of the pairs. -/
theorem mem_of_find?_ofList {pairs : List (κ × ν)} {key : κ} {value : ν}
    (found : (ofList pairs).find? key = some value) : (key, value) ∈ pairs := by
  have stored : ∀ (pairs : List (κ × ν)) (ledger : Ledger κ ν),
      (pairs.foldl (fun ledger pair => ledger.put pair.1 pair.2) ledger).find? key = some value →
      (key, value) ∈ pairs ∨ ledger.find? key = some value := by
    intro pairs
    induction pairs with
    | nil => exact fun _ found => Or.inr found
    | cons pair rest inductionHypothesis =>
      intro ledger found
      rcases inductionHypothesis (ledger.put pair.1 pair.2) found with later | earlier
      · exact Or.inl (List.mem_cons_of_mem pair later)
      · rw [find?_put] at earlier
        split at earlier
        · next same =>
          obtain rfl := Option.some.inj earlier
          exact Or.inl (same ▸ List.mem_cons_self)
        · exact Or.inr earlier
  exact (stored pairs empty found).resolve_right (by simp)

/-- A ledger made from pairs lists the keys of the pairs. -/
theorem mem_keys_ofList (pairs : List (κ × ν)) (tested : κ) :
    tested ∈ (ofList pairs).keys ↔ tested ∈ pairs.map Prod.fst := by
  have entered (pairs : List (κ × ν)) (ledger : Ledger κ ν) :
      tested ∈ (pairs.foldl (fun ledger pair => ledger.put pair.1 pair.2) ledger).keys ↔
        tested ∈ pairs.map Prod.fst ∨ tested ∈ ledger.keys := by
    induction pairs generalizing ledger with
    | nil => simp
    | cons pair rest inductionHypothesis =>
      rw [List.foldl_cons, inductionHypothesis, mem_keys_put, List.map_cons, List.mem_cons,
        or_left_comm, or_assoc]
  exact (entered pairs empty).trans (by simp)

/-- A ledger made from pairs with distinct keys lists these keys in their order. -/
theorem keys_ofList (pairs : List (κ × ν)) (distinct : (pairs.map Prod.fst).Nodup) :
    (ofList pairs).keys = pairs.map Prod.fst :=
  congrArg (List.map Prod.fst) (entries_ofList pairs distinct)

/-- A look-up in a ledger made from pairs with distinct keys finds the pairs. -/
theorem find?_ofList_eq_some_iff (pairs : List (κ × ν)) (distinct : (pairs.map Prod.fst).Nodup)
    (key : κ) (value : ν) : (ofList pairs).find? key = some value ↔ (key, value) ∈ pairs := by
  rw [find?_eq_some_iff, entries_ofList pairs distinct]

/-- What the entries with one key hold is what is stored under the key. -/
theorem flatMap_at {α : Type} (ledger : Ledger κ ν) (key : κ) (items : ν → List α) :
    (ledger.entries.flatMap fun entry => if entry.1 = key then items entry.2 else []) =
      ((ledger.find? key).map items).getD [] := by
  obtain ⟨entries, distinct⟩ := ledger
  rw [find?]
  induction entries with
  | nil => rfl
  | cons head rest inductionHypothesis =>
    obtain ⟨stored, value⟩ := head
    obtain ⟨absent, tail⟩ := List.nodup_cons.mp distinct
    by_cases same : stored = key
    · subst same
      have nothing :
          (rest.flatMap fun entry => if entry.1 = stored then items entry.2 else []) = [] := by
        refine List.flatMap_eq_nil_iff.mpr fun entry listed => if_neg fun again => ?_
        exact absent (List.mem_map.mpr ⟨entry, listed, again⟩)
      simp [lookup, nothing]
    · simpa [lookup, same] using inductionHypothesis tail

/-- Entering items under their keys groups them: each key leads to its items in their order. -/
theorem getD_find?_grouped {α μ : Type} (key : α → κ) (value : α → μ) (items : List α)
    (ledger : Ledger κ (List μ)) (tested : κ) :
    ((items.foldl (fun ledger item => ledger.modify (key item) [] (· ++ [value item]))
        ledger).find? tested).getD [] =
      (ledger.find? tested).getD [] ++ (items.filter (key · = tested)).map value := by
  induction items generalizing ledger with
  | nil => simp
  | cons item rest inductionHypothesis =>
    rw [List.foldl_cons, inductionHypothesis, modify, find?_put]
    by_cases same : key item = tested
    · simp [same]
    · simp [same]

end Ledger

end FeatureLayout
