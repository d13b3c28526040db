import FeatureLayout.Graph.Components
import FeatureLayout.Proofs.Graph.Operations
import Mathlib.Data.List.Infix

/-!
# The components of a graph

The search for components lists every file behind its starts once, and its lists are the classes of
files that lead to each other. Each class comes after all others that it leads to.

The search is followed visit by visit. What holds between visits is `Sound`: a file that has been
met lies on the stack or in a complete component, and no edge leaves a component but to earlier
ones. A visit to a new file is described by `Visited`: what it leaves on the stack leads back to the
stack that it found, and the number it answers is the lowest to which an edge from there leads.
While the successors of the file are being followed, `Following` holds of the same data with the
file itself on the stack. When the answered number is the file's own, no path leads from the upper
stack to the lower one, and the upper stack is a component.
-/

namespace FeatureLayout

open Text

namespace ComponentSearch

variable {next : String → List String}

/-- The number of a file that has been met. -/
def number (search : ComponentSearch) (path : String) : Nat :=
  (search.numbers.find? path).getD 0

/-- The files of the complete components. -/
def done (search : ComponentSearch) : List String := search.components.flatten

/-- No edge leaves a component but to itself and to earlier ones. -/
def Layered (next : String → List String) (components : List (List String)) : Prop :=
  ∀ earlier members, earlier ++ [members] <+: components →
    ∀ path ∈ members, ∀ successor ∈ next path, successor ∈ members ∨ successor ∈ earlier.flatten

/-- The files of every component lead to each other. -/
def Mutual (next : String → List String) (components : List (List String)) : Prop :=
  ∀ members ∈ components, ∀ first ∈ members, ∀ second ∈ members, Leads next first second

/-- What holds between the steps of a search. -/
structure Sound (next : String → List String) (search : ComponentSearch) : Prop where
  met_iff : ∀ path, path ∈ search.numbers.keys ↔ path ∈ search.stack ∨ path ∈ search.done
  distinct : (search.stack ++ search.done).Nodup
  bounded : ∀ path ∈ search.numbers.keys, search.number path < search.numbers.size
  layered : Layered next search.components
  connected : Mutual next search.components

/-- One more component keeps the layers when its edges lead to itself and to the others. -/
theorem layered_concat (components : List (List String)) (members : List String)
    (layered : Layered next components)
    (closed : ∀ path ∈ members, ∀ successor ∈ next path,
      successor ∈ members ∨ successor ∈ components.flatten) :
    Layered next (components ++ [members]) := by
  intro earlier last initial path present successor adjacent
  rcases List.prefix_concat_iff.mp initial with whole | shorter
  · obtain ⟨rfl, same⟩ := List.append_inj' whole rfl
    obtain rfl : last = members := by simpa using same
    exact closed path present successor adjacent
  · exact layered earlier last shorter path present successor adjacent

/-- No edge leaves the complete components. -/
theorem Layered.closed {components : List (List String)} (layered : Layered next components)
    {path successor : String} (present : path ∈ components.flatten)
    (adjacent : successor ∈ next path) : successor ∈ components.flatten := by
  obtain ⟨members, listed, inside⟩ := List.mem_flatten.mp present
  obtain ⟨earlier, later, rfl⟩ := List.append_of_mem listed
  have initial : earlier ++ [members] <+: earlier ++ members :: later := ⟨later, by simp⟩
  rcases layered earlier members initial path inside successor adjacent with own | before
  · exact List.mem_flatten.mpr ⟨members, listed, own⟩
  · rw [List.flatten_append]
    exact List.mem_append_left _ before

/-- What happens to a search that visits only files behind one file: files that have been met keep
their numbers, and those met since have higher ones. -/
structure Grown (next : String → List String) (path : String) (before after : ComponentSearch) :
    Prop where
  sound : Sound next after
  kept : ∀ tested ∈ before.numbers.keys,
    tested ∈ after.numbers.keys ∧ after.number tested = before.number tested
  done : ∀ tested ∈ before.done, tested ∈ after.done
  size : before.numbers.size ≤ after.numbers.size
  fresh : ∀ tested ∈ after.numbers.keys, tested ∉ before.numbers.keys →
    before.numbers.size ≤ after.number tested ∧ Leads next path tested

/-- The files that lie on the stack above all that lay there before are new. -/
theorem Grown.above_fresh {path : String} {before after : ComponentSearch}
    (grown : Grown next path before after) (sound : Sound next before) {above below : List String}
    (stack : after.stack = above ++ below) (underneath : ∀ tested ∈ before.stack, tested ∈ below)
    {tested : String} (present : tested ∈ above) : tested ∉ before.numbers.keys := by
  have distinct : ((above ++ below) ++ after.done).Nodup := stack ▸ grown.sound.distinct
  obtain ⟨waiting, -, apart⟩ := List.nodup_append.mp distinct
  obtain ⟨-, -, split⟩ := List.nodup_append.mp waiting
  intro met
  rcases (sound.met_iff tested).mp met with below | complete
  · exact split tested present tested (underneath tested below) rfl
  · exact apart tested (List.mem_append_left _ present) tested (grown.done tested complete) rfl

/-- Growing behind a successor of a file is growing behind the file. -/
theorem Grown.trans {path successor : String} {before middle after : ComponentSearch}
    (first : Grown next path before middle) (second : Grown next successor middle after)
    (adjacent : successor ∈ next path) : Grown next path before after where
  sound := second.sound
  kept tested met :=
    have ⟨between, same⟩ := first.kept tested met
    have ⟨later, equal⟩ := second.kept tested between
    ⟨later, equal.trans same⟩
  done tested complete := second.done tested (first.done tested complete)
  size := Nat.le_trans first.size second.size
  fresh tested met unmet := by
    by_cases between : tested ∈ middle.numbers.keys
    · obtain ⟨_, same⟩ := second.kept tested between
      exact same ▸ first.fresh tested between unmet
    · obtain ⟨high, path⟩ := second.fresh tested met between
      exact ⟨Nat.le_trans first.size high, Relation.ReflTransGen.head adjacent path⟩

/-- A file that is entered gets the next number. -/
theorem number_enter_self (search : ComponentSearch) (path : String) :
    (search.enter path).number path = search.numbers.size := by
  simp [number, enter, Ledger.find?_put]

/-- Entering a file keeps the numbers of the others. -/
theorem number_enter_of_ne (search : ComponentSearch) {path tested : String}
    (other : path ≠ tested) : (search.enter path).number tested = search.number tested := by
  simp [number, enter, Ledger.find?_put, other]

theorem mem_keys_enter (search : ComponentSearch) (path tested : String) :
    tested ∈ (search.enter path).numbers.keys ↔ tested = path ∨ tested ∈ search.numbers.keys :=
  Ledger.mem_keys_put search.numbers path tested search.numbers.size

/-- Entering a new file adds one number. -/
theorem size_enter (search : ComponentSearch) {path : String}
    (unmet : path ∉ search.numbers.keys) :
    (search.enter path).numbers.size = search.numbers.size + 1 := by
  have keys := Ledger.keys_put search.numbers path search.numbers.size
  rw [if_neg unmet] at keys
  simpa [enter, Ledger.keys, Ledger.size] using congrArg List.length keys

/-- Entering a new file numbers it and puts it on the stack. -/
theorem Sound.enter {search : ComponentSearch} (sound : Sound next search) {path : String}
    (unmet : path ∉ search.numbers.keys) : Sound next (search.enter path) where
  met_iff tested := by
    rw [mem_keys_enter, sound.met_iff tested, ← or_assoc]
    exact or_congr_left List.mem_cons.symm
  distinct := by
    have absent : path ∉ search.stack ++ search.done := fun present =>
      unmet ((sound.met_iff path).mpr (List.mem_append.mp present))
    exact List.nodup_cons.mpr ⟨absent, sound.distinct⟩
  bounded tested met := by
    rw [size_enter search unmet]
    by_cases same : path = tested
    · rw [← same, number_enter_self]
      exact Nat.lt_succ_self _
    · have old := ((mem_keys_enter search path tested).mp met).resolve_left (Ne.symm same)
      rw [number_enter_of_ne search same]
      exact Nat.lt_succ_of_lt (sound.bounded tested old)
  layered := sound.layered
  connected := sound.connected

/-- Entering a new file grows a search behind it. -/
theorem Sound.grown_enter {search : ComponentSearch} (sound : Sound next search) {path : String}
    (unmet : path ∉ search.numbers.keys) : Grown next path search (search.enter path) where
  sound := sound.enter unmet
  kept tested met :=
    ⟨(mem_keys_enter search path tested).mpr (Or.inr met),
      number_enter_of_ne search fun same => unmet (same ▸ met)⟩
  done _ complete := complete
  size := size_enter search unmet ▸ Nat.le_succ _
  fresh tested met old := by
    obtain rfl := ((mem_keys_enter search path tested).mp met).resolve_right old
    exact ⟨Nat.le_of_eq (number_enter_self search tested).symm, Relation.ReflTransGen.refl⟩

/-- What a visit to a new file leaves behind, with `above` put on the stack and `lowest` answered.
-/
structure Visited (next : String → List String) (path : String) (before after : ComponentSearch)
    (lowest : Nat) (above : List String) : Prop extends Grown next path before after where
  stack : after.stack = above ++ before.stack
  met : path ∈ after.numbers.keys
  complete : ∀ tested ∈ after.numbers.keys, tested ∉ before.numbers.keys →
    ∀ successor ∈ next tested, successor ∈ after.numbers.keys
  returns : ∀ tested ∈ above, ∃ anchor ∈ before.stack, Leads next tested anchor
  bound : ∀ tested ∈ above, ∀ successor ∈ next tested, successor ∈ before.stack →
    lowest ≤ before.number successor
  reached : before.numbers.size ≤ lowest ∨
    ∃ anchor ∈ before.stack, before.number anchor = lowest ∧ Leads next path anchor

/-- What holds while the successors of a new file are being followed: `before` is the search that
met the file, and `above` lies on the stack above it. -/
structure Following (next : String → List String) (path : String) (before : ComponentSearch)
    (progress : ComponentSearch × Nat) (followed above : List String) : Prop
    extends Grown next path before progress.1 where
  stack : progress.1.stack = above ++ path :: before.stack
  met : path ∈ progress.1.numbers.keys
  own : progress.1.number path = before.numbers.size
  complete : ∀ tested ∈ progress.1.numbers.keys, tested ∉ before.numbers.keys → tested ≠ path →
    ∀ successor ∈ next tested, successor ∈ progress.1.numbers.keys
  through : ∀ successor ∈ followed, successor ∈ progress.1.numbers.keys ∧
    (successor ∈ before.stack → progress.2 ≤ before.number successor)
  returns : ∀ tested ∈ above, ∃ anchor ∈ path :: before.stack, Leads next tested anchor
  bound : ∀ tested ∈ above, ∀ successor ∈ next tested, successor ∈ before.stack →
    progress.2 ≤ before.number successor
  low : progress.2 ≤ before.numbers.size
  reached : ∃ anchor ∈ progress.1.stack,
    progress.1.number anchor = progress.2 ∧ Leads next path anchor

/-- Following starts when the file has been entered. -/
theorem Sound.following_enter {search : ComponentSearch} (sound : Sound next search) {path : String}
    (unmet : path ∉ search.numbers.keys) :
    Following next path search (search.enter path, search.numbers.size) [] [] where
  toGrown := sound.grown_enter unmet
  stack := rfl
  met := (mem_keys_enter search path path).mpr (Or.inl rfl)
  own := number_enter_self search path
  complete tested met old other :=
    absurd (((mem_keys_enter search path tested).mp met).resolve_right old) other
  through _ absent := absurd absent List.not_mem_nil
  returns _ absent := absurd absent List.not_mem_nil
  bound _ absent := absurd absent List.not_mem_nil
  low := Nat.le_refl _
  reached := ⟨path, List.mem_cons_self, number_enter_self search path, Relation.ReflTransGen.refl⟩

/-- A successor that has been met may lower the number that is led back to, if it waits on the
stack. -/
theorem Following.follow_met {path : String} {before : ComponentSearch}
    {progress : ComponentSearch × Nat} {followed above : List String}
    (following : Following next path before progress followed above) (sound : Sound next before)
    (visit : ComponentSearch → String → ComponentSearch × Nat) {successor : String}
    (adjacent : successor ∈ next path) (met : successor ∈ progress.1.numbers.keys) :
    Following next path before (follow visit progress successor) (followed ++ [successor])
      above := by
  obtain ⟨number, found⟩ := (Ledger.mem_keys_iff _ _).mp met
  have numbered : progress.1.number successor = number := by simp [ComponentSearch.number, found]
  by_cases waiting : successor ∈ progress.1.stack
  · have step : follow visit progress successor = (progress.1, min progress.2 number) := by
      simp [follow, found, waiting]
    rw [step]
    refine { following with through := ?through, bound := ?bound, low := ?low, reached := ?reached }
    case through =>
      intro tested listed
      rcases List.mem_append.mp listed with old | new
      · obtain ⟨present, high⟩ := following.through tested old
        exact ⟨present, fun below => Nat.le_trans (Nat.min_le_left _ _) (high below)⟩
      · obtain rfl := List.mem_singleton.mp new
        refine ⟨met, fun below => ?_⟩
        obtain ⟨_, same⟩ := following.kept tested ((sound.met_iff tested).mpr (Or.inl below))
        rw [← same, numbered]
        exact Nat.min_le_right _ _
    case bound =>
      intro tested present target edge below
      exact Nat.le_trans (Nat.min_le_left _ _) (following.bound tested present target edge below)
    case low => exact Nat.le_trans (Nat.min_le_left _ _) following.low
    case reached =>
      rcases Nat.le_total progress.2 number with lower | higher
      · obtain ⟨anchor, present, same, path⟩ := following.reached
        exact ⟨anchor, present, same.trans (Nat.min_eq_left lower).symm, path⟩
      · exact ⟨successor, waiting, numbered.trans (Nat.min_eq_right higher).symm,
          Relation.ReflTransGen.single adjacent⟩
  · have step : follow visit progress successor = progress := by simp [follow, found, waiting]
    rw [step]
    refine { following with through := ?_ }
    intro tested listed
    rcases List.mem_append.mp listed with old | new
    · exact following.through tested old
    · obtain rfl := List.mem_singleton.mp new
      refine ⟨met, fun below => absurd ?_ waiting⟩
      rw [following.stack]
      exact List.mem_append_right _ (List.mem_cons_of_mem path below)

/-- A successor that is new is visited, and what its visit leaves on the stack is added. -/
theorem Following.follow_new {path : String} {before : ComponentSearch}
    {progress : ComponentSearch × Nat} {followed above : List String}
    (following : Following next path before progress followed above) (sound : Sound next before)
    (visit : ComponentSearch → String → ComponentSearch × Nat) {successor : String}
    (adjacent : successor ∈ next path) (unmet : successor ∉ progress.1.numbers.keys)
    {added : List String}
    (visited : Visited next successor progress.1 (visit progress.1 successor).1
      (visit progress.1 successor).2 added) :
    Following next path before (follow visit progress successor) (followed ++ [successor])
      (added ++ above) := by
  have absent : progress.1.numbers.find? successor = none := by
    refine Option.eq_none_iff_forall_ne_some.mpr fun number found => unmet ?_
    exact (Ledger.mem_keys_iff _ _).mpr ⟨number, found⟩
  have step : follow visit progress successor =
      ((visit progress.1 successor).1, min progress.2 (visit progress.1 successor).2) := by
    simp [follow, absent]
  rw [step]
  have underneath : ∀ tested ∈ before.stack, tested ∈ progress.1.stack := by
    intro tested present
    rw [following.stack]
    exact List.mem_append_right _ (List.mem_cons_of_mem path present)
  have numbered : ∀ tested ∈ before.stack, progress.1.number tested = before.number tested :=
    fun tested present =>
      (following.kept tested ((sound.met_iff tested).mpr (Or.inl present))).2
  constructor
  case toGrown => exact following.toGrown.trans visited.toGrown adjacent
  case stack => rw [visited.stack, following.stack, List.append_assoc]
  case met => exact (visited.kept path following.met).1
  case own => exact (visited.kept path following.met).2.trans following.own
  case complete =>
    intro tested met old other target edge
    by_cases between : tested ∈ progress.1.numbers.keys
    · exact (visited.kept target (following.complete tested between old other target edge)).1
    · exact visited.complete tested met between target edge
  case through =>
    intro tested listed
    rcases List.mem_append.mp listed with old | new
    · obtain ⟨present, high⟩ := following.through tested old
      exact ⟨(visited.kept tested present).1,
        fun below => Nat.le_trans (Nat.min_le_left _ _) (high below)⟩
    · obtain rfl := List.mem_singleton.mp new
      refine ⟨visited.met, fun below => absurd ?_ unmet⟩
      exact (following.kept tested ((sound.met_iff tested).mpr (Or.inl below))).1
  case returns =>
    intro tested present
    rcases List.mem_append.mp present with new | old
    · obtain ⟨anchor, waiting, path⟩ := visited.returns tested new
      rw [following.stack] at waiting
      rcases List.mem_append.mp waiting with inner | outer
      · obtain ⟨last, below, rest⟩ := following.returns anchor inner
        exact ⟨last, below, Relation.ReflTransGen.trans path rest⟩
      · exact ⟨anchor, outer, path⟩
    · exact following.returns tested old
  case bound =>
    intro tested present target edge below
    rcases List.mem_append.mp present with new | old
    · have high := visited.bound tested new target edge (underneath target below)
      rw [numbered target below] at high
      exact Nat.le_trans (Nat.min_le_right _ _) high
    · exact Nat.le_trans (Nat.min_le_left _ _) (following.bound tested old target edge below)
  case low => exact Nat.le_trans (Nat.min_le_left _ _) following.low
  case reached =>
    rcases Nat.le_total progress.2 (visit progress.1 successor).2 with lower | higher
    · obtain ⟨anchor, present, same, path⟩ := following.reached
      obtain ⟨_, equal⟩ := visited.kept anchor
        ((following.sound.met_iff anchor).mpr (Or.inl present))
      refine ⟨anchor, ?_, (equal.trans same).trans (Nat.min_eq_left lower).symm, path⟩
      rw [visited.stack]
      exact List.mem_append_right _ present
    · rcases visited.reached with complete | ⟨anchor, present, same, path⟩
      · have low := following.low
        have size := following.size
        have equal : progress.2 = (visit progress.1 successor).2 := by omega
        obtain ⟨anchor, present, same, path⟩ := following.reached
        obtain ⟨_, kept⟩ := visited.kept anchor
          ((following.sound.met_iff anchor).mpr (Or.inl present))
        refine ⟨anchor, ?_, by simp only [kept, same]; omega, path⟩
        rw [visited.stack]
        exact List.mem_append_right _ present
      · obtain ⟨_, equal⟩ := visited.kept anchor
          ((following.sound.met_iff anchor).mpr (Or.inl present))
        refine ⟨anchor, ?_, (equal.trans same).trans (Nat.min_eq_right higher).symm,
          Relation.ReflTransGen.head adjacent path⟩
        rw [visited.stack]
        exact List.mem_append_right _ present

/-- Cutting at a file takes what lies above it off the stack, together with the file. -/
theorem stack_cut (search : ComponentSearch) {path : String} {above below : List String}
    (stack : search.stack = above ++ path :: below) (absent : path ∉ above) :
    (search.cut path).stack = below ∧
      (search.cut path).components = search.components ++ [sorted (above ++ [path])] := by
  have others : ∀ tested ∈ above, (tested != path) = true := by
    intro tested present
    have differs : tested ≠ path := fun same => absent (same ▸ present)
    simpa using differs
  have taken : (above ++ path :: below).takeWhile (· != path) = above := by
    rw [List.takeWhile_append_of_pos others]
    simp
  have dropped : (above ++ path :: below).dropWhile (· != path) = path :: below := by
    rw [List.dropWhile_append_of_pos others]
    simp
  simp [cut, stack, taken, dropped]

section Finishing

variable {path : String} {before : ComponentSearch} {progress : ComponentSearch × Nat}
  {above : List String}

/-- When a file leads back to nothing below itself, no edge leads from the upper part of the stack
to the lower one. -/
theorem Following.closed (following : Following next path before progress (next path) above)
    (sound : Sound next before) (own : progress.2 = before.numbers.size) :
    ∀ tested ∈ above ++ [path], ∀ successor ∈ next tested,
      successor ∈ above ++ [path] ∨ successor ∈ progress.1.done := by
  have split : ∀ target, target ∈ progress.1.numbers.keys →
      (target ∈ before.stack → progress.2 ≤ before.number target) →
      target ∈ above ++ [path] ∨ target ∈ progress.1.done := by
    intro target met high
    rcases (following.sound.met_iff target).mp met with waiting | complete
    · rw [following.stack] at waiting
      rcases List.mem_append.mp waiting with upper | lower
      · exact Or.inl (List.mem_append_left _ upper)
      · rcases List.mem_cons.mp lower with rfl | lowest
        · exact Or.inl (List.mem_append_right _ List.mem_cons_self)
        · have small := sound.bounded target ((sound.met_iff target).mpr (Or.inl lowest))
          have large := high lowest
          omega
    · exact Or.inr complete
  intro tested present successor adjacent
  rcases List.mem_append.mp present with upper | last
  · have unmet : tested ∉ before.numbers.keys :=
      following.above_fresh sound following.stack (fun _ => List.mem_cons_of_mem path) upper
    have met : tested ∈ progress.1.numbers.keys := by
      refine (following.sound.met_iff tested).mpr (Or.inl ?_)
      rw [following.stack]
      exact List.mem_append_left _ upper
    have other : tested ≠ path := by
      intro same
      have distinct := (List.nodup_append.mp following.sound.distinct).1
      rw [following.stack] at distinct
      exact (List.nodup_append.mp distinct).2.2 tested upper path List.mem_cons_self same
    exact split successor (following.complete tested met unmet other successor adjacent)
      (following.bound tested upper successor adjacent)
  · obtain rfl := List.mem_singleton.mp last
    obtain ⟨met, high⟩ := following.through successor adjacent
    exact split successor met high

/-- When a file leads back to nothing below itself, all that lie above it on the stack lead back to
it. -/
theorem Following.returns_self (following : Following next path before progress (next path) above)
    (sound : Sound next before) (own : progress.2 = before.numbers.size) {tested : String}
    (present : tested ∈ above) : Leads next tested path := by
  have kept : ∀ target, Leads next tested target →
      target ∈ above ++ [path] ∨ target ∈ progress.1.done := by
    intro target route
    induction route with
    | refl => exact Or.inl (List.mem_append_left _ present)
    | tail _ adjacent inside =>
      rcases inside with upper | complete
      · exact following.closed sound own _ upper _ adjacent
      · exact Or.inr (following.sound.layered.closed complete adjacent)
  obtain ⟨anchor, waiting, route⟩ := following.returns tested present
  rcases List.mem_cons.mp waiting with rfl | lower
  · exact route
  · exfalso
    have distinct : ((above ++ path :: before.stack) ++ progress.1.done).Nodup :=
      following.stack ▸ following.sound.distinct
    obtain ⟨stacked, -, apart⟩ := List.nodup_append.mp distinct
    have below : anchor ∈ path :: before.stack := List.mem_cons_of_mem path lower
    rcases kept anchor route with upper | complete
    · rcases List.mem_append.mp upper with higher | last
      · exact (List.nodup_append.mp stacked).2.2 anchor higher anchor below rfl
      · have same : anchor = path := List.mem_singleton.mp last
        have tail := (List.nodup_append.mp stacked).2.1
        exact (List.nodup_cons.mp tail).1 (same ▸ lower)
    · exact apart anchor (List.mem_append_right _ below) anchor complete rfl

/-- What lies above a file on the stack lies behind the file. -/
theorem Following.leads_above (following : Following next path before progress (next path) above)
    (sound : Sound next before) {tested : String} (present : tested ∈ above) :
    Leads next path tested := by
  have unmet : tested ∉ before.numbers.keys :=
    following.above_fresh sound following.stack (fun _ => List.mem_cons_of_mem path) present
  have met : tested ∈ progress.1.numbers.keys := by
    refine (following.sound.met_iff tested).mpr (Or.inl ?_)
    rw [following.stack]
    exact List.mem_append_left _ present
  exact (following.fresh tested met unmet).2

/-- Completing the component of a file that leads back to nothing below itself. -/
theorem Following.sound_cut (following : Following next path before progress (next path) above)
    (sound : Sound next before) (own : progress.2 = before.numbers.size)
    (stack : (progress.1.cut path).stack = before.stack)
    (components : (progress.1.cut path).components =
      progress.1.components ++ [sorted (above ++ [path])]) :
    Sound next (progress.1.cut path) := by
  have members : ∀ tested, tested ∈ sorted (above ++ [path]) ↔ tested ∈ above ++ [path] :=
    fun _ => List.mem_mergeSort
  have done : (progress.1.cut path).done = progress.1.done ++ sorted (above ++ [path]) := by
    simp [ComponentSearch.done, components]
  constructor
  case met_iff =>
    intro tested
    rw [stack, done, List.mem_append, members, List.mem_append, List.mem_singleton]
    refine (following.sound.met_iff tested).trans ?_
    rw [following.stack, List.mem_append, List.mem_cons]
    tauto
  case distinct =>
    have old : ((above ++ path :: before.stack) ++ progress.1.done).Nodup :=
      following.stack ▸ following.sound.distinct
    rw [stack, done]
    refine List.Perm.nodup ?_ old
    have shuffled : (above ++ path :: before.stack).Perm (before.stack ++ (above ++ [path])) := by
      rw [List.append_cons]
      exact List.perm_append_comm
    calc ((above ++ path :: before.stack) ++ progress.1.done).Perm
          ((before.stack ++ (above ++ [path])) ++ progress.1.done) := shuffled.append_right _
      _ = before.stack ++ ((above ++ [path]) ++ progress.1.done) := List.append_assoc ..
      _ |>.Perm (before.stack ++ (progress.1.done ++ sorted (above ++ [path]))) :=
          (List.perm_append_comm.trans ((List.mergeSort_perm _ _).symm.append_left _)).append_left _
  case bounded => exact following.sound.bounded
  case layered =>
    rw [components]
    refine layered_concat _ _ following.sound.layered ?_
    intro tested present successor adjacent
    have inside :=
      following.closed sound own tested ((members tested).mp present) successor adjacent
    exact inside.imp_left (members successor).mpr
  case connected =>
    intro listed present first inFirst second inSecond
    rw [components] at present
    rcases List.mem_append.mp present with old | new
    · exact following.sound.connected listed old first inFirst second inSecond
    · obtain rfl := List.mem_singleton.mp new
      have back : Leads next first path := by
        rcases List.mem_append.mp ((members first).mp inFirst) with upper | last
        · exact following.returns_self sound own upper
        · exact List.mem_singleton.mp last ▸ Relation.ReflTransGen.refl
      have forth : Leads next path second := by
        rcases List.mem_append.mp ((members second).mp inSecond) with upper | last
        · exact following.leads_above sound upper
        · exact List.mem_singleton.mp last ▸ Relation.ReflTransGen.refl
      exact Relation.ReflTransGen.trans back forth

/-- When a file leads back to nothing below itself, its component is complete, and its visit leaves
nothing on the stack. -/
theorem Following.visited_cut (following : Following next path before progress (next path) above)
    (sound : Sound next before) (own : progress.2 = before.numbers.size) :
    Visited next path before (progress.1.cut path) progress.2 [] := by
  have absent : path ∉ above := by
    intro present
    have distinct := (List.nodup_append.mp following.sound.distinct).1
    rw [following.stack] at distinct
    exact (List.nodup_append.mp distinct).2.2 path present path List.mem_cons_self rfl
  obtain ⟨stack, components⟩ := stack_cut progress.1 following.stack absent
  constructor
  case toGrown =>
    refine { following.toGrown with sound := ?_, done := ?_ }
    · exact following.sound_cut sound own stack components
    · intro tested complete
      have grown : (progress.1.cut path).done = progress.1.done ++ sorted (above ++ [path]) := by
        simp [done, components]
      rw [grown]
      exact List.mem_append_left _ (following.done tested complete)
  case stack => exact stack
  case met => exact following.met
  case complete =>
    intro tested met unmet successor adjacent
    by_cases same : tested = path
    · exact (following.through successor (same ▸ adjacent)).1
    · exact following.complete tested met unmet same successor adjacent
  case returns => exact fun _ absent => absurd absent List.not_mem_nil
  case bound => exact fun _ absent => absurd absent List.not_mem_nil
  case reached => exact Or.inl (Nat.le_of_eq own.symm)

/-- When a file leads back to the lower part of the stack, it stays on the stack with all that lie
above it. -/
theorem Following.visited_kept (following : Following next path before progress (next path) above)
    (sound : Sound next before) (other : progress.2 ≠ before.numbers.size) :
    Visited next path before progress.1 progress.2 (above ++ [path]) := by
  have lower : progress.2 < before.numbers.size := Nat.lt_of_le_of_ne following.low other
  obtain ⟨base, waiting, numbered, route⟩ : ∃ anchor ∈ before.stack,
      before.number anchor = progress.2 ∧ Leads next path anchor := by
    obtain ⟨anchor, waiting, numbered, route⟩ := following.reached
    have met := (following.sound.met_iff anchor).mpr (Or.inl waiting)
    have old : anchor ∈ before.numbers.keys := by
      by_contra unmet
      have high := (following.fresh anchor met unmet).1
      omega
    rw [following.stack] at waiting
    rcases List.mem_append.mp waiting with upper | rest
    · exact absurd old (following.above_fresh sound following.stack
        (fun _ => List.mem_cons_of_mem path) upper)
    · rcases List.mem_cons.mp rest with rfl | below
      · exact absurd (following.own.symm.trans numbered) (Ne.symm other)
      · exact ⟨anchor, below, (following.kept anchor old).2.symm.trans numbered, route⟩
  constructor
  case toGrown => exact following.toGrown
  case stack => rw [following.stack, List.append_cons]
  case met => exact following.met
  case complete =>
    intro tested met unmet successor adjacent
    by_cases same : tested = path
    · exact (following.through successor (same ▸ adjacent)).1
    · exact following.complete tested met unmet same successor adjacent
  case returns =>
    intro tested present
    rcases List.mem_append.mp present with upper | last
    · obtain ⟨anchor, listed, first⟩ := following.returns tested upper
      rcases List.mem_cons.mp listed with rfl | below
      · exact ⟨base, waiting, Relation.ReflTransGen.trans first route⟩
      · exact ⟨anchor, below, first⟩
    · exact ⟨base, waiting, List.mem_singleton.mp last ▸ route⟩
  case bound =>
    intro tested present successor adjacent below
    rcases List.mem_append.mp present with upper | last
    · exact following.bound tested upper successor adjacent below
    · have same : tested = path := List.mem_singleton.mp last
      exact (following.through successor (same ▸ adjacent)).2 below
  case reached => exact Or.inr ⟨base, waiting, numbered, route⟩

end Finishing

/-- A visit of enough depth to a new file does what `Visited` says.

Induct on the depth: the file itself is met on the way, so that fewer files are missing when its
successors are visited one level below. Along the successors `Following` is kept, and at their end
the answered number decides between the two outcomes. -/
theorem visit_visited (files : List String)
    (within : ∀ path ∈ files, ∀ successor ∈ next path, successor ∈ files) (depth : Nat)
    (search : ComponentSearch) (sound : Sound next search) (path : String) (listed : path ∈ files)
    (unmet : path ∉ search.numbers.keys) (enough : pending files search.numbers.keys < depth) :
    ∃ above, Visited next path search (visit next depth search path).1
      (visit next depth search path).2 above := by
  induction depth generalizing search path with
  | zero => exact absurd enough (Nat.not_lt_zero _)
  | succ depth deeper =>
    have along : ∀ successors followed above progress,
        Following next path search progress followed above →
        (∀ successor ∈ successors, successor ∈ next path) →
        ∃ above, Following next path search
          (successors.foldl (follow (visit next depth)) progress) (followed ++ successors)
          above := by
      intro successors
      induction successors with
      | nil =>
        intro followed above progress following _
        exact ⟨above, by simpa using following⟩
      | cons successor rest inductionHypothesis =>
        intro followed above progress following adjacent
        have edge : successor ∈ next path := adjacent successor List.mem_cons_self
        have remaining : ∀ target ∈ rest, target ∈ next path :=
          fun target member => adjacent target (List.mem_cons_of_mem successor member)
        obtain ⟨added, stepped⟩ : ∃ added, Following next path search
            (follow (visit next depth) progress successor) (followed ++ [successor]) added := by
          by_cases met : successor ∈ progress.1.numbers.keys
          · exact ⟨above, following.follow_met sound _ edge met⟩
          · have fewer :
                pending files progress.1.numbers.keys < pending files search.numbers.keys :=
              pending_lt files _ _ (fun tested old => (following.kept tested old).1) path listed
                unmet following.met
            obtain ⟨added, visited⟩ := deeper progress.1 following.sound successor
              (within path listed successor edge) met (by omega)
            exact ⟨added ++ above, following.follow_new sound _ edge met visited⟩
        obtain ⟨final, complete⟩ := inductionHypothesis _ _ _ stepped remaining
        exact ⟨final, by simpa using complete⟩
    obtain ⟨above, following⟩ := along (next path) [] [] _ (sound.following_enter unmet)
      (fun _ adjacent => adjacent)
    rw [List.nil_append] at following
    simp only [visit]
    split
    · next own => exact ⟨[], following.visited_cut sound own⟩
    · next other => exact ⟨above ++ [path], following.visited_kept sound other⟩

/-- A search that has met nothing is sound. -/
theorem sound_empty (next : String → List String) : Sound next empty where
  met_iff path := by simp [empty, done]
  distinct := by simp [empty, done]
  bounded path met := by simp [empty] at met
  layered earlier members initial := by simp [empty] at initial
  connected members listed := by simp [empty] at listed

/-- What holds between the starts of a search: nothing waits on the stack. -/
structure Rested (next : String → List String) (files : List String) (search : ComponentSearch) :
    Prop where
  sound : Sound next search
  stack : search.stack = []
  known : ∀ path ∈ search.numbers.keys, path ∈ files

/-- Every path from a file of a closed list stays in the list. -/
theorem leads_within (files : List String)
    (within : ∀ path ∈ files, ∀ successor ∈ next path, successor ∈ files) {path target : String}
    (listed : path ∈ files) (route : Leads next path target) : target ∈ files := by
  induction route with
  | refl => exact listed
  | tail _ adjacent inside => exact within _ inside _ adjacent

/-- One start meets its file and keeps what has been met, and nothing is left on the stack. -/
theorem Rested.start {files : List String} {search : ComponentSearch}
    (rested : Rested next files search)
    (within : ∀ path ∈ files, ∀ successor ∈ next path, successor ∈ files) (depth : Nat)
    (enough : files.length < depth) (path : String) (listed : path ∈ files) :
    Rested next files (start next depth search path) ∧
      path ∈ (ComponentSearch.start next depth search path).numbers.keys ∧
      ∀ tested ∈ search.numbers.keys,
        tested ∈ (ComponentSearch.start next depth search path).numbers.keys := by
  by_cases met : path ∈ search.numbers.keys
  · have skipped : ComponentSearch.start next depth search path = search := by
      simp [ComponentSearch.start, (Ledger.contains_iff search.numbers path).mpr met]
    rw [skipped]
    exact ⟨rested, met, fun _ present => present⟩
  · have entered : ComponentSearch.start next depth search path =
        (visit next depth search path).1 := by
      have absent : search.numbers.contains path = false :=
        Bool.eq_false_iff.mpr fun found => met ((Ledger.contains_iff search.numbers path).mp found)
      simp [ComponentSearch.start, absent]
    have fewer : pending files search.numbers.keys < depth :=
      Nat.lt_of_le_of_lt (List.length_filter_le _ files) enough
    obtain ⟨above, visited⟩ :=
      visit_visited files within depth search rested.sound path listed met fewer
    have nothing : above = [] := by
      refine List.eq_nil_iff_forall_not_mem.mpr fun tested present => ?_
      obtain ⟨anchor, waiting, _⟩ := visited.returns tested present
      simp [rested.stack] at waiting
    rw [entered]
    refine ⟨⟨visited.sound, ?_, ?_⟩, visited.met, fun tested old => (visited.kept tested old).1⟩
    · rw [visited.stack, nothing, rested.stack, List.append_nil]
    · intro tested present
      by_cases old : tested ∈ search.numbers.keys
      · exact rested.known tested old
      · exact leads_within files within listed (visited.fresh tested present old).2

/-- Starting at the files of a list one after another meets all of them. -/
theorem Rested.starts {files : List String}
    (within : ∀ path ∈ files, ∀ successor ∈ next path, successor ∈ files) (depth : Nat)
    (enough : files.length < depth) (starts : List String) (listed : ∀ path ∈ starts, path ∈ files)
    (search : ComponentSearch) (rested : Rested next files search) :
    Rested next files (starts.foldl (ComponentSearch.start next depth) search) ∧
      (∀ path ∈ starts,
        path ∈ (starts.foldl (ComponentSearch.start next depth) search).numbers.keys) ∧
      ∀ tested ∈ search.numbers.keys,
        tested ∈ (starts.foldl (ComponentSearch.start next depth) search).numbers.keys := by
  induction starts generalizing search with
  | nil => exact ⟨rested, fun _ absent => absurd absent List.not_mem_nil, fun _ present => present⟩
  | cons path rest inductionHypothesis =>
    obtain ⟨stepped, met, kept⟩ :=
      rested.start within depth enough path (listed path List.mem_cons_self)
    obtain ⟨final, others, later⟩ := inductionHypothesis
      (fun target member => listed target (List.mem_cons_of_mem path member)) _ stepped
    exact ⟨final, List.forall_mem_cons.mpr ⟨later path met, others⟩,
      fun tested old => later tested (kept tested old)⟩

end ComponentSearch

namespace UsageGraph

/-- The search of a built graph ends with all of its files in complete components. -/
theorem Built.rested {graph : UsageGraph} (built : graph.Built) :
    ∃ search : ComponentSearch, graph.components = search.components ∧
      ComponentSearch.Sound graph.successors search ∧
      ∀ path, path ∈ search.done ↔ path ∈ graph.files := by
  have enough : graph.files.length < graph.nodeCount + 1 := by
    simp [files, Ledger.keys, nodeCount, Ledger.size]
  have start : ComponentSearch.Rested graph.successors graph.files .empty :=
    ⟨ComponentSearch.sound_empty _, rfl, fun path met => by simp [ComponentSearch.empty] at met⟩
  obtain ⟨rested, met, -⟩ := ComponentSearch.Rested.starts
    (fun _ _ _ adjacent => built.successor_mem adjacent) _ enough graph.files
    (fun _ listed => listed) .empty start
  refine ⟨_, rfl, rested.sound, fun path => ?_⟩
  have known := rested.sound.met_iff path
  rw [rested.stack] at known
  exact ⟨fun complete => rested.known path (known.mpr (Or.inr complete)),
    fun listed => (known.mp (met path listed)).resolve_left List.not_mem_nil⟩

/-- The components of a built graph list every file once. -/
theorem Built.components_perm {graph : UsageGraph} (built : graph.Built) :
    graph.components.flatten.Perm graph.files := by
  obtain ⟨search, same, sound, complete⟩ := built.rested
  rw [same]
  refine (List.perm_ext_iff_of_nodup ?_ graph.files_nodup).mpr complete
  exact (List.nodup_append.mp sound.distinct).2.1

/-- The files of one component lead to each other. -/
theorem Built.components_mutual {graph : UsageGraph} (built : graph.Built) {members : List String}
    (listed : members ∈ graph.components) {first second : String} (inFirst : first ∈ members)
    (inSecond : second ∈ members) : graph.Reaches first second := by
  obtain ⟨search, same, sound, -⟩ := built.rested
  exact sound.connected members (same ▸ listed) first inFirst second inSecond

/-- Every edge leads from a component to itself or to one before it. -/
theorem Built.components_layered {graph : UsageGraph} (built : graph.Built) :
    ComponentSearch.Layered graph.successors graph.components := by
  obtain ⟨search, same, sound, -⟩ := built.rested
  exact same ▸ sound.layered

end UsageGraph

end FeatureLayout
