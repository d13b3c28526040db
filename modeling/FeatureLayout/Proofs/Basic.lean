import FeatureLayout.Text.Order
import Mathlib.Data.List.Basic
import Mathlib.Data.List.Forall2
import Mathlib.Data.List.Nodup

/-!
# Lists and attempts

Facts about lists without repetitions, sorted lists, lists that are related item by item, and
attempts that succeed, which hold for whatever is listed or attempted.
-/

namespace FeatureLayout

open Text

/-- An attempt that goes on succeeds exactly when both of its parts do. -/
theorem bind_eq_ok {ε α β : Type} {attempt : Except ε α} {next : α → Except ε β} {result : β} :
    (attempt >>= next) = .ok result ↔ ∃ value, attempt = .ok value ∧ next value = .ok result := by
  cases attempt with
  | error problem => simp [bind, Except.bind]
  | ok value => simp [bind, Except.bind]

/-- An attempt whose result is changed succeeds exactly when the attempt does. -/
theorem map_eq_ok {ε α β : Type} {attempt : Except ε α} {change : α → β} {result : β} :
    attempt.map change = .ok result ↔ ∃ value, attempt = .ok value ∧ change value = result := by
  cases attempt with
  | error problem => simp [Except.map]
  | ok value => simp [Except.map]

/-- Rewording a problem keeps what an attempt gives. -/
theorem eq_ok_of_mapError {ε ε' α : Type} {attempt : Except ε α} {reword : ε → ε'} {result : α}
    (same : attempt.mapError reword = .ok result) : attempt = .ok result := by
  cases attempt with
  | error problem => exact absurd same (by simp [Except.mapError])
  | ok value => simpa [Except.mapError] using same

/-- What an attempt leaves when its problem is forgotten is its result. -/
theorem eq_ok_of_toOption {ε α : Type} {attempt : Except ε α} {result : α}
    (same : attempt.toOption = some result) : attempt = .ok result := by
  cases attempt with
  | error problem => cases same
  | ok value => exact congrArg Except.ok (Option.some.inj same)

/-- An attempt succeeds whether or not its result is changed. -/
theorem exists_map_eq_ok_iff {ε α β : Type} {attempt : Except ε α} {change : α → β} :
    (∃ result, attempt.map change = .ok result) ↔ ∃ value, attempt = .ok value := by
  cases attempt <;> simp [Except.map]

/-- An attempt that fails when its result is changed fails anyway. -/
theorem eq_error_of_map {ε α β : Type} {attempt : Except ε α} {change : α → β} {problem : ε}
    (failed : attempt.map change = .error problem) : attempt = .error problem := by
  cases attempt with
  | error reason => exact congrArg Except.error (Except.error.inj failed)
  | ok value => cases failed

/-- An attempt for every item succeeds exactly when each of them does. -/
theorem mapM_eq_ok {ε α β : Type} {attempt : α → Except ε β} {items : List α} {results : List β} :
    items.mapM attempt = .ok results ↔
      List.Forall₂ (fun item result => attempt item = .ok result) items results := by
  induction items generalizing results with
  | nil => simp [pure, Except.pure, eq_comm]
  | cons item rest inductionHypothesis =>
    rw [List.mapM_cons, bind_eq_ok, List.forall₂_cons_left_iff]
    simp only [bind_eq_ok, inductionHypothesis, pure, Except.pure, Except.ok.injEq]
    constructor
    · rintro ⟨result, first, others, later, rfl⟩
      exact ⟨result, others, first, later, rfl⟩
    · rintro ⟨result, others, first, later, rfl⟩
      exact ⟨result, first, others, later, rfl⟩

/-- Attempts that agree on all items agree on going through them. -/
theorem mapM_congr_left {ε α β : Type} {first second : α → Except ε β} {items : List α}
    (same : ∀ item ∈ items, first item = second item) : items.mapM first = items.mapM second := by
  induction items with
  | nil => rfl
  | cons item rest inductionHypothesis =>
    obtain ⟨here, later⟩ := List.forall_mem_cons.mp same
    rw [List.mapM_cons, List.mapM_cons, here, inductionHypothesis later]

/-- Going through some items succeeds exactly when it succeeds on each of them. -/
theorem exists_mapM_eq_ok_iff {ε α β : Type} {attempt : α → Except ε β} {items : List α} :
    (∃ results, items.mapM attempt = .ok results) ↔
      ∀ item ∈ items, ∃ result, attempt item = .ok result := by
  induction items with
  | nil => exact ⟨fun _ _ absent => absurd absent List.not_mem_nil, fun _ => ⟨[], rfl⟩⟩
  | cons item rest inductionHypothesis =>
    rw [List.forall_mem_cons, ← inductionHypothesis]
    simp only [mapM_eq_ok, List.forall₂_cons_left_iff]
    constructor
    · rintro ⟨_, result, results, first, others, rfl⟩
      exact ⟨⟨result, first⟩, results, others⟩
    · rintro ⟨⟨result, first⟩, results, others⟩
      exact ⟨_, result, results, first, others, rfl⟩

/-- Going through some items fails as it fails on one of them. -/
theorem exists_of_mapM_eq_error {ε α β : Type} {attempt : α → Except ε β} {items : List α}
    {problem : ε} (failed : items.mapM attempt = .error problem) :
    ∃ item ∈ items, attempt item = .error problem := by
  induction items with
  | nil => cases failed
  | cons item rest inductionHypothesis =>
    rw [List.mapM_cons] at failed
    cases first : attempt item with
    | error refused =>
      rw [first] at failed
      obtain rfl := Except.error.inj failed
      exact ⟨item, List.mem_cons_self, first⟩
    | ok result =>
      rw [first] at failed
      cases others : rest.mapM attempt with
      | error refused =>
        simp only [others, bind, Except.bind] at failed
        obtain ⟨other, listed, same⟩ := inductionHypothesis (failed ▸ others)
        exact ⟨other, List.mem_cons_of_mem item listed, same⟩
      | ok results => simp [others, bind, Except.bind, pure, Except.pure] at failed

/-- A test of every item succeeds exactly when it succeeds on each of them. -/
theorem exists_filterM_eq_ok_iff {ε α : Type} {test : α → Except ε Bool} {items : List α} :
    (∃ kept, items.filterM test = .ok kept) ↔ ∀ item ∈ items, ∃ passes, test item = .ok passes := by
  have auxiliary (items seen : List α) : (∃ kept, items.filterAuxM test seen = .ok kept) ↔
      ∀ item ∈ items, ∃ passes, test item = .ok passes := by
    induction items generalizing seen with
    | nil => exact ⟨fun _ _ absent => absurd absent List.not_mem_nil, fun _ => ⟨seen, rfl⟩⟩
    | cons item rest inductionHypothesis =>
      rw [List.forall_mem_cons]
      simp only [List.filterAuxM, bind_eq_ok]
      constructor
      · rintro ⟨kept, passes, first, later⟩
        exact ⟨⟨passes, first⟩, (inductionHypothesis _).mp ⟨kept, later⟩⟩
      · rintro ⟨⟨passes, first⟩, others⟩
        obtain ⟨kept, later⟩ := (inductionHypothesis _).mpr others
        exact ⟨kept, passes, first, later⟩
  rw [← auxiliary items []]
  constructor
  · rintro ⟨kept, run⟩
    obtain ⟨reversed, tested, -⟩ := bind_eq_ok.mp run
    exact ⟨reversed, tested⟩
  · rintro ⟨reversed, tested⟩
    exact ⟨reversed.reverse, bind_eq_ok.mpr ⟨reversed, tested, rfl⟩⟩

/-- A test of every item that succeeds keeps the items that pass it. -/
theorem mem_of_filterM {ε α : Type} {test : α → Except ε Bool} {items kept : List α}
    (run : items.filterM test = .ok kept) {item : α} :
    item ∈ kept ↔ item ∈ items ∧ test item = .ok true := by
  have auxiliary (items seen : List α) {kept : List α}
      (run : items.filterAuxM test seen = .ok kept) :
      item ∈ kept ↔ item ∈ seen ∨ (item ∈ items ∧ test item = .ok true) := by
    induction items generalizing seen with
    | nil =>
      obtain rfl := Except.ok.inj run
      simp
    | cons first rest inductionHypothesis =>
      obtain ⟨passes, decided, later⟩ := bind_eq_ok.mp run
      rw [inductionHypothesis _ later, List.mem_cons]
      cases passes with
      | true =>
        rw [cond_true, List.mem_cons, or_and_right, or_assoc, or_left_comm]
        refine or_congr_right (or_congr_left ⟨?_, And.left⟩)
        rintro rfl
        exact ⟨rfl, decided⟩
      | false =>
        rw [cond_false, or_and_right]
        refine or_congr_right (Iff.symm (or_iff_right ?_))
        rintro ⟨rfl, also⟩
        cases decided.symm.trans also
  obtain ⟨reversed, aux, same⟩ := bind_eq_ok.mp run
  obtain rfl := Except.ok.inj same
  rw [List.mem_reverse, auxiliary items [] aux]
  simp

/-- What every step of a run that succeeds does, and repeated steps do as well, the run does. -/
theorem related_of_foldlM {ε α σ : Type} {step : σ → α → Except ε σ} (related : σ → σ → Prop)
    (refl : ∀ state, related state state)
    (trans : ∀ {first second third}, related first second → related second third →
      related first third)
    {items : List α}
    (steps : ∀ before, ∀ item ∈ items, ∀ after, step before item = .ok after →
      related before after)
    {start final : σ} (run : items.foldlM step start = .ok final) : related start final := by
  induction items generalizing start with
  | nil =>
    obtain rfl := Except.ok.inj run
    exact refl start
  | cons item rest inductionHypothesis =>
    obtain ⟨middle, first, later⟩ := bind_eq_ok.mp ((List.foldlM_cons).symm.trans run)
    exact trans (steps start item List.mem_cons_self middle first)
      (inductionHypothesis (fun before next listed => steps before next
        (List.mem_cons_of_mem item listed)) later)

/-- Among items with distinct keys, each is the only one with its key. -/
theorem filter_key_eq_singleton {α κ : Type} [DecidableEq κ] (key : α → κ) {items : List α}
    (distinct : (items.map key).Nodup) {item : α} (listed : item ∈ items) :
    items.filter (key · = key item) = [item] := by
  induction items with
  | nil => exact absurd listed List.not_mem_nil
  | cons first rest inductionHypothesis =>
    obtain ⟨absent, tail⟩ := List.nodup_cons.mp distinct
    rcases List.mem_cons.mp listed with rfl | later
    · have none : rest.filter (key · = key item) = [] := by
        refine List.filter_eq_nil_iff.mpr fun other there => ?_
        rw [decide_eq_true_eq]
        exact fun same => absent (List.mem_map.mpr ⟨other, there, same⟩)
      rw [List.filter_cons_of_pos (by simp), none]
    · have other : key first ≠ key item := fun same =>
        absent (List.mem_map.mpr ⟨item, later, same.symm⟩)
      rw [List.filter_cons_of_neg (by simpa using other), inductionHypothesis tail later]

/-- Among items without repetitions there are several when two of them differ. -/
theorem one_lt_length_iff {α : Type} {items : List α} (distinct : items.Nodup) :
    1 < items.length ↔ ∃ first ∈ items, ∃ second ∈ items, first ≠ second := by
  rcases items with _ | ⟨first, _ | ⟨second, rest⟩⟩
  · simp
  · simp
  · have differ : first ≠ second := by
      rintro rfl
      exact (List.nodup_cons.mp distinct).1 List.mem_cons_self
    simp only [List.length_cons, Nat.lt_add_left_iff_pos, Nat.succ_pos, true_iff]
    exact ⟨first, by simp, second, by simp, differ⟩

/-- Removing repetitions leaves none.

Induct on the length: what follows the first item loses all further occurrences of it, and so gets
shorter. -/
theorem nodup_eraseDups {α : Type} [BEq α] [LawfulBEq α] (items : List α) :
    items.eraseDups.Nodup := by
  induction size : items.length using Nat.strongRecOn generalizing items with
  | ind size inductionHypothesis =>
    cases items with
    | nil => simp
    | cons first rest =>
      rw [List.eraseDups_cons, List.nodup_cons]
      refine ⟨fun again => ?_, inductionHypothesis _ ?_ _ rfl⟩
      · simp [List.mem_eraseDups] at again
      · rw [← size, List.length_cons]
        exact Nat.lt_succ_of_le (List.length_filter_le _ rest)

/-- Sorting keeps what is listed, and how often. -/
theorem sorted_perm (texts : List String) : (sorted texts).Perm texts :=
  List.mergeSort_perm texts _

@[simp] theorem mem_sorted {texts : List String} {text : String} :
    text ∈ sorted texts ↔ text ∈ texts := (sorted_perm texts).mem_iff

/-- Sorting by a key keeps what is listed, and how often. -/
theorem sortedBy_perm {α : Type} (key : α → String) (items : List α) :
    (sortedBy key items).Perm items :=
  List.mergeSort_perm items _

/-- Sorting orders items by their keys. -/
theorem sortedBy_pairwise {α : Type} (key : α → String) (items : List α) :
    (sortedBy key items).Pairwise fun first second => key first ≤ key second := by
  have ordered : (sortedBy key items).Pairwise fun first second =>
      atMost (key first) (key second) = true :=
    List.pairwise_mergeSort (fun first second third => by simpa [atMost] using String.le_trans)
      (fun first second => by simpa [atMost] using String.le_total _ _) items
  exact ordered.imp fun atMost => by simpa [Text.atMost] using atMost

/-- Sorted texts without repetitions increase. -/
theorem increasing_of_nodup {texts : List String} (ordered : texts.Pairwise (· ≤ ·))
    (distinct : texts.Nodup) : texts.Pairwise (· < ·) := by
  refine (List.Pairwise.and ordered distinct).imp fun {first second} both => ?_
  exact String.not_le.mp fun behind => both.2 (String.le_antisymm both.1 behind)

/-- Items with distinct keys can be left out before or after sorting. -/
theorem sortedBy_filter {α : Type} (key : α → String) (keep : α → Bool) {items : List α}
    (distinct : (items.map key).Nodup) :
    sortedBy key (items.filter keep) = (sortedBy key items).filter keep := by
  refine List.Perm.eq_of_pairwise (fun first second inFirst inSecond before after => ?_)
    (sortedBy_pairwise key _) ((sortedBy_pairwise key items).filter keep)
    ((sortedBy_perm key _).trans ((sortedBy_perm key items).filter keep).symm)
  have listed := (List.mem_filter.mp ((sortedBy_perm key _).mem_iff.mp inFirst)).1
  have also := (sortedBy_perm key items).mem_iff.mp (List.mem_filter.mp inSecond).1
  exact List.inj_on_of_nodup_map distinct listed also (String.le_antisymm before after)

/-- Of two lists of texts, one comes before the other. -/
theorem listAtMost_total (first second : List String) :
    (listAtMost first second || listAtMost second first) = true := by
  induction first generalizing second with
  | nil => simp [listAtMost]
  | cons a as inductionHypothesis =>
    cases second with
    | nil => simp [listAtMost]
    | cons b bs =>
      by_cases same : a = b
      · simpa [listAtMost, same] using inductionHypothesis bs
      · simpa [listAtMost, same, Ne.symm same, atMost] using String.le_total a b

/-- What comes before a list comes before all that come after it. -/
theorem listAtMost_trans {first second third : List String}
    (before : listAtMost first second = true) (after : listAtMost second third = true) :
    listAtMost first third = true := by
  induction first generalizing second third with
  | nil => simp [listAtMost]
  | cons a as inductionHypothesis =>
    cases second with
    | nil => simp [listAtMost] at before
    | cons b bs =>
      cases third with
      | nil => simp [listAtMost] at after
      | cons c cs =>
        by_cases same : a = b
        · subst same
          by_cases also : a = c
          · simp only [listAtMost, also, if_true] at before after ⊢
            exact inductionHypothesis before after
          · simpa only [listAtMost, also, if_false] using after
        · by_cases also : b = c
          · subst also
            simpa only [listAtMost, same, if_false] using before
          · simp only [listAtMost, same, also, if_false, atMost, decide_eq_true_eq] at before after
            have apart : a ≠ c := by
              rintro rfl
              exact same (String.le_antisymm before after)
            simpa only [listAtMost, apart, if_false, atMost, decide_eq_true_eq] using
              String.le_trans before after

/-- Lists of texts that come before each other are the same. -/
theorem eq_of_listAtMost {first second : List String} (before : listAtMost first second = true)
    (after : listAtMost second first = true) : first = second := by
  induction first generalizing second with
  | nil =>
    cases second with
    | nil => rfl
    | cons b bs => simp [listAtMost] at after
  | cons a as inductionHypothesis =>
    cases second with
    | nil => simp [listAtMost] at before
    | cons b bs =>
      by_cases same : a = b
      · simp only [listAtMost, same, if_true] at before after
        rw [same, inductionHypothesis before after]
      · simp only [listAtMost, same, Ne.symm same, if_false, atMost, decide_eq_true_eq] at before after
        exact absurd (String.le_antisymm before after) same

/-- Entering the results of an attempt under its inputs lists the inputs for which it has one. -/
theorem map_fst_filterMap {α β : Type} (attempt : α → Option β) (items : List α) :
    (items.filterMap fun item => (attempt item).map fun found => (item, found)).map Prod.fst =
      items.filter fun item => (attempt item).isSome := by
  induction items with
  | nil => rfl
  | cons item rest inductionHypothesis =>
    cases found : attempt item with
    | none => simp [found, inductionHypothesis]
    | some result => simp [found, inductionHypothesis]

/-- What begins a list and lacks an item begins what is in front of that item. -/
theorem exists_append_of_not_mem {α : Type} {front back start rest : List α} {item : α}
    (same : front ++ item :: back = start ++ rest) (absent : item ∉ start) :
    ∃ between, front = start ++ between ∧ rest = between ++ item :: back := by
  rcases List.append_eq_append_iff.mp same with ⟨excess, whole, split⟩ | ⟨between, whole, split⟩
  · cases excess with
    | nil => exact ⟨[], by simpa using whole.symm, by simpa using split.symm⟩
    | cons first others =>
      obtain ⟨rfl, -⟩ := List.cons.inj split
      exact absurd (whole ▸ List.mem_append_right _ List.mem_cons_self) absent
  · exact ⟨between, whole, split⟩

/-- Related lists are searched alike. -/
theorem rel_find? {α β : Type} {related : α → β → Prop} {first : α → Bool} {second : β → Bool}
    (same : ∀ a b, related a b → first a = second b) {left : List α} {right : List β}
    (lists : List.Forall₂ related left right) :
    Option.Rel related (left.find? first) (right.find? second) := by
  induction lists with
  | nil => exact .none
  | cons head tail inductionHypothesis =>
    simp only [List.find?_cons, same _ _ head]
    split
    · exact .some head
    · exact inductionHypothesis

/-- Each of a list of related elements is related to one of the other list. -/
theorem exists_of_rel_mem {α β : Type} {related : α → β → Prop} {left : List α} {right : List β}
    (lists : List.Forall₂ related left right) {one : α} (listed : one ∈ left) :
    ∃ other ∈ right, related one other := by
  induction lists with
  | nil => exact absurd listed List.not_mem_nil
  | cons head tail inductionHypothesis =>
    rcases List.mem_cons.mp listed with rfl | later
    · exact ⟨_, List.mem_cons_self, head⟩
    · obtain ⟨other, there, same⟩ := inductionHypothesis later
      exact ⟨other, List.mem_cons_of_mem _ there, same⟩

/-- A list that is related to two lists in a row consists of two lists. -/
theorem exists_append_of_rel {α β : Type} {related : α → β → Prop} {front back : List α}
    {right : List β} (lists : List.Forall₂ related (front ++ back) right) :
    ∃ before after, List.Forall₂ related front before ∧ List.Forall₂ related back after ∧
      right = before ++ after := by
  induction front generalizing right with
  | nil => exact ⟨[], right, .nil, lists, rfl⟩
  | cons one rest inductionHypothesis =>
    obtain ⟨other, others, head, tail, rfl⟩ := List.forall₂_cons_left_iff.mp lists
    obtain ⟨before, after, first, second, rfl⟩ := inductionHypothesis tail
    exact ⟨other :: before, after, .cons head first, second, rfl⟩

/-- Items that are sorted out by their kinds are the items. -/
theorem perm_flatMap_filter {α κ : Type} [DecidableEq κ] (kind : α → κ) {kinds : List κ}
    (distinct : kinds.Nodup) {items : List α} (covered : ∀ item ∈ items, kind item ∈ kinds) :
    (kinds.flatMap fun one => items.filter fun item => kind item = one).Perm items := by
  induction kinds generalizing items with
  | nil =>
    obtain rfl : items = [] := List.eq_nil_iff_forall_not_mem.mpr fun item listed =>
      List.not_mem_nil (covered item listed)
    rfl
  | cons one rest inductionHypothesis =>
    obtain ⟨apart, distinct⟩ := List.nodup_cons.mp distinct
    have others : (rest.flatMap fun other => items.filter fun item => kind item = other) =
        rest.flatMap fun other => (items.filter fun item => !decide (kind item = one)).filter
          fun item => kind item = other := by
      refine List.flatMap_congr fun other listed => ?_
      rw [List.filter_filter]
      refine List.filter_congr fun item _ => ?_
      by_cases same : kind item = other
      · have kept : kind item ≠ one := fun also => apart (also ▸ same ▸ listed)
        simp [kept]
      · simp [same]
    rw [List.flatMap_cons, others]
    refine ((inductionHypothesis distinct fun item listed => ?_).append_left _).trans
      (List.filter_append_perm _ items)
    obtain ⟨inside, other⟩ := List.mem_filter.mp listed
    exact (List.mem_cons.mp (covered item inside)).resolve_left (by simpa using other)

end FeatureLayout
