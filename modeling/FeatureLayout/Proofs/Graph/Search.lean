import FeatureLayout.Graph.Search
import Mathlib.Data.List.Basic
import Mathlib.Logic.Relation

/-!
# What a depth-first walk reaches

A walk that starts with nothing met finishes exactly the nodes to which a path leads from one of its
starts, the empty path included. The depth that bounds the recursion is no restriction: along one
path every node is entered once, so as long as the depth exceeds the number of nodes that have
neighbours and are still to be entered, the bound is never felt.

The statements are about any neighbour function with finitely many nodes that have neighbours. They
serve adjacency tables and condensed graphs alike, and say nothing about the order of finishing.
-/

namespace FeatureLayout

variable {α : Type} [DecidableEq α]

/-- A path of neighbours, possibly empty, leads from one node to another. -/
def Leads (next : α → List α) : α → α → Prop :=
  Relation.ReflTransGen fun source target => target ∈ next source

/-- How many nodes of one list are missing from another. -/
def pending (support met : List α) : Nat := (support.filter fun node => !met.contains node).length

/-- Meeting more nodes leaves fewer of them. -/
theorem pending_mono (support earlier later : List α) (kept : ∀ node ∈ earlier, node ∈ later) :
    pending support later ≤ pending support earlier := by
  refine List.Sublist.length_le (List.monotone_filter_right support ?_)
  intro node absent
  simp only [Bool.not_eq_true', List.contains_eq_mem, decide_eq_false_iff_not] at absent ⊢
  exact fun present => absent (kept node present)

/-- Meeting a listed node for the first time leaves one less of them. -/
theorem pending_lt (support earlier later : List α) (kept : ∀ node ∈ earlier, node ∈ later)
    (node : α) (listed : node ∈ support) (unmet : node ∉ earlier) (met : node ∈ later) :
    pending support later < pending support earlier := by
  have sublist : (support.filter fun tested => !later.contains tested).Sublist
      (support.filter fun tested => !earlier.contains tested) := by
    refine List.monotone_filter_right support ?_
    intro tested absent
    simp only [Bool.not_eq_true', List.contains_eq_mem, decide_eq_false_iff_not] at absent ⊢
    exact fun present => absent (kept tested present)
  refine Nat.lt_of_le_of_ne sublist.length_le ?_
  intro same
  have equal := sublist.eq_of_length same
  have present : node ∈ support.filter fun tested => !earlier.contains tested :=
    List.mem_filter.mpr ⟨listed, by simpa using unmet⟩
  rw [← equal] at present
  simp [met] at present

namespace Walk

/-- What a visit to a list of nodes does to a walk: it enters these nodes and what lies behind them,
nothing else, and finishes what it enters. -/
structure Explores (next : α → List α) (nodes : List α) (before after : Walk α) : Prop where
  kept : ∀ node ∈ before.entered, node ∈ after.entered
  met : ∀ node ∈ nodes, node ∈ after.entered
  led : ∀ node ∈ after.entered,
    node ∈ before.entered ∨ ∃ start ∈ nodes, Leads next start node
  closed : ∀ node ∈ after.entered, node ∉ before.entered →
    ∀ neighbour ∈ next node, neighbour ∈ after.entered
  finished : ∀ node, node ∈ after.finished ↔
    node ∈ before.finished ∨ (node ∈ after.entered ∧ node ∉ before.entered)

omit [DecidableEq α] in
/-- A visit to nothing changes nothing. -/
theorem explores_nil (next : α → List α) (walk : Walk α) : Explores next [] walk walk where
  kept _ present := present
  met _ absent := absurd absent List.not_mem_nil
  led _ present := Or.inl present
  closed _ present unmet := absurd present unmet
  finished _ := ⟨Or.inl, fun reached => reached.elim id fun both => absurd both.1 both.2⟩

omit [DecidableEq α] in
/-- A node that has been met is passed over. -/
theorem explores_met (next : α → List α) (node : α) (rest : List α) (before after : Walk α)
    (present : node ∈ before.entered) (explored : Explores next rest before after) :
    Explores next (node :: rest) before after where
  kept := explored.kept
  met := List.forall_mem_cons.mpr ⟨explored.kept node present, explored.met⟩
  led reached entered := (explored.led reached entered).imp_right
    fun ⟨start, listed, path⟩ => ⟨start, List.mem_cons_of_mem node listed, path⟩
  closed := explored.closed
  finished := explored.finished

omit [DecidableEq α] in
/-- Visiting the neighbours of a new node, finishing it and visiting the rest of a list is a visit
to the whole list. -/
theorem explores_cons (next : α → List α) (node : α) (rest : List α)
    (before inner after : Walk α) (unmet : node ∉ before.entered)
    (behind : Explores next (next node) (before.enter node) inner)
    (remaining : Explores next rest (inner.finish node) after) :
    Explores next (node :: rest) before after := by
  have entered : ∀ tested, tested ∈ (before.enter node).entered ↔
      tested = node ∨ tested ∈ before.entered := fun tested => List.mem_cons
  have left : ∀ tested, tested ∈ (inner.finish node).finished ↔
      tested = node ∨ tested ∈ inner.finished := fun tested => List.mem_cons
  have nodeInner : node ∈ inner.entered := behind.kept node ((entered node).mpr (Or.inl rfl))
  refine ⟨?kept, ?met, ?led, ?closed, ?finished⟩
  case kept =>
    intro tested present
    exact remaining.kept tested (behind.kept tested ((entered tested).mpr (Or.inr present)))
  case met =>
    exact List.forall_mem_cons.mpr ⟨remaining.kept node nodeInner, remaining.met⟩
  case led =>
    intro tested present
    rcases remaining.led tested present with inside | ⟨start, listed, path⟩
    · rcases behind.led tested inside with old | ⟨start, listed, path⟩
      · rcases (entered tested).mp old with rfl | old
        · exact Or.inr ⟨tested, List.mem_cons_self, Relation.ReflTransGen.refl⟩
        · exact Or.inl old
      · exact Or.inr ⟨node, List.mem_cons_self, Relation.ReflTransGen.head listed path⟩
    · exact Or.inr ⟨start, List.mem_cons_of_mem node listed, path⟩
  case closed =>
    intro tested present new neighbour adjacent
    by_cases inside : tested ∈ inner.entered
    · refine remaining.kept neighbour ?_
      by_cases same : tested = node
      · exact behind.met neighbour (same ▸ adjacent)
      · refine behind.closed tested inside ?_ neighbour adjacent
        exact fun old => ((entered tested).mp old).elim same new
    · exact remaining.closed tested present inside neighbour adjacent
  case finished =>
    intro tested
    rw [remaining.finished tested, left tested, behind.finished tested, entered tested]
    constructor
    · rintro ((rfl | old | ⟨inside, new⟩) | ⟨later, new⟩)
      · exact Or.inr ⟨remaining.kept tested nodeInner, unmet⟩
      · exact Or.inl old
      · exact Or.inr ⟨remaining.kept tested inside, fun old => new (Or.inr old)⟩
      · exact Or.inr ⟨later, fun old =>
          new (behind.kept tested ((entered tested).mpr (Or.inr old)))⟩
    · rintro (old | ⟨later, new⟩)
      · exact Or.inl (Or.inr (Or.inl old))
      · by_cases same : tested = node
        · exact Or.inl (Or.inl same)
        · by_cases inside : tested ∈ inner.entered
          · exact Or.inl (Or.inr (Or.inr ⟨inside, fun old => old.elim same new⟩))
          · exact Or.inr ⟨later, inside⟩

/-- A visit explores its nodes as long as the depth exceeds the number of nodes with neighbours that
are still to be entered; a visit to nothing needs no depth.

Induct on the depth, and for one depth on the list. A node that is met is passed over. A new node
with neighbours uses up one level and one of the nodes still to be entered; a new node without
neighbours leaves nothing to visit on the level below. -/
theorem visit_explores (next : α → List α) (support : List α)
    (supported : ∀ node, next node ≠ [] → node ∈ support) (depth : Nat) (walk : Walk α)
    (nodes : List α) (enough : nodes = [] ∨ pending support walk.entered < depth) :
    Explores next nodes walk (visit next depth walk nodes) := by
  induction depth generalizing walk nodes with
  | zero =>
    have nothing : nodes = [] := enough.resolve_right (Nat.not_lt_zero _)
    subst nothing
    exact explores_nil next walk
  | succ depth deeper =>
    induction nodes generalizing walk with
    | nil => exact explores_nil next walk
    | cons node rest along =>
      have bound : pending support walk.entered < depth + 1 := enough.resolve_left (by simp)
      by_cases met : node ∈ walk.entered
      · have skipped : visit next (depth + 1) walk (node :: rest) =
            visit next (depth + 1) walk rest := by
          simp [visit, met]
        rw [skipped]
        exact explores_met next node rest walk _ met (along walk (Or.inr bound))
      · have inner : Explores next (next node) (walk.enter node)
            (visit next depth (walk.enter node) (next node)) := by
          refine deeper (walk.enter node) (next node) ?_
          by_cases leaf : next node = []
          · exact Or.inl leaf
          · have fewer : pending support (walk.enter node).entered < pending support walk.entered :=
              pending_lt support _ _ (fun _ => List.mem_cons_of_mem node) node
                (supported node leaf) met List.mem_cons_self
            exact Or.inr (by omega)
        have advanced : visit next (depth + 1) walk (node :: rest) =
            visit next (depth + 1)
              ((visit next depth (walk.enter node) (next node)).finish node) rest := by
          simp [visit, met]
        rw [advanced]
        refine explores_cons next node rest walk _ _ met inner (along _ (Or.inr ?_))
        have fewer : pending support
            ((visit next depth (walk.enter node) (next node)).finish node).entered ≤
              pending support walk.entered := by
          refine pending_mono support _ _ ?_
          intro tested present
          exact inner.kept tested (List.mem_cons_of_mem node present)
        omega

/-- A fresh walk of enough depth finishes exactly the nodes that its starts lead to. -/
theorem mem_finished_visit (next : α → List α) (support : List α)
    (supported : ∀ node, next node ≠ [] → node ∈ support) (depth : Nat)
    (enough : support.length < depth) (starts : List α) (node : α) :
    node ∈ (visit next depth empty starts).finished ↔
      ∃ start ∈ starts, Leads next start node := by
  have bound : pending support (empty : Walk α).entered < depth :=
    Nat.lt_of_le_of_lt (List.length_filter_le _ support) enough
  have explored := visit_explores next support supported depth empty starts (Or.inr bound)
  have entered : node ∈ (visit next depth empty starts).finished ↔
      node ∈ (visit next depth empty starts).entered := by
    rw [explored.finished node]
    simp [empty]
  rw [entered]
  clear entered
  constructor
  · intro present
    exact (explored.led node present).resolve_left List.not_mem_nil
  · rintro ⟨start, listed, path⟩
    induction path with
    | refl => exact explored.met start listed
    | tail _ adjacent present => exact explored.closed _ present List.not_mem_nil _ adjacent

end Walk

namespace Ledger

/-- Only the keys of an adjacency table have neighbours. -/
theorem mem_keys_of_next (edges : Ledger α (List α)) (node : α) (adjacent : edges.next node ≠ []) :
    node ∈ edges.keys := by
  refine (contains_iff edges node).mp ?_
  cases stored : edges.find? node with
  | none => simp [next, stored] at adjacent
  | some neighbours => simp [contains, stored]

/-- A search through an adjacency table reaches exactly the nodes that its starts lead to. -/
theorem mem_reach (edges : Ledger α (List α)) (starts : List α) (node : α) :
    node ∈ edges.reach starts ↔ ∃ start ∈ starts, Leads edges.next start node := by
  have enough : edges.keys.length < edges.size + 1 := by simp [keys, size]
  simp only [reach, finishing, List.mem_reverse]
  exact Walk.mem_finished_visit edges.next edges.keys (mem_keys_of_next edges) _ enough starts node

end Ledger

end FeatureLayout
