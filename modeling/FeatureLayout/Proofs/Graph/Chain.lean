import FeatureLayout.Graph.Chain
import FeatureLayout.Proofs.Graph.Operations
import Mathlib.Data.List.Chain
import Mathlib.Data.List.Perm.Subperm

/-!
# Shortest chains

A search for a chain goes level by level. The level of some distance holds one chain to every file
at that distance, and the files met so far are those at this distance and below. A chain that is
found on its way is therefore a shortest one.

A search that finds nothing has looked through as many levels as the graph has files. Along a
shortest path the distances are all different, so nothing that can be reached lies farther away.
-/

namespace FeatureLayout

section Distance

variable {α : Type} {next : α → List α} {source : α}

/-- A path of so many edges leads from one node to another. -/
inductive LeadsIn (next : α → List α) (source : α) : Nat → α → Prop where
  | here : LeadsIn next source 0 source
  | step {count : Nat} {node neighbour : α} (before : LeadsIn next source count node)
      (edge : neighbour ∈ next node) : LeadsIn next source (count + 1) neighbour

/-- What is led to is led to in some number of edges. -/
theorem leads_iff_exists_leadsIn (target : α) :
    Leads next source target ↔ ∃ count, LeadsIn next source count target := by
  constructor
  · intro route
    induction route with
    | refl => exact ⟨0, .here⟩
    | tail _ edge inductionHypothesis =>
      obtain ⟨count, before⟩ := inductionHypothesis
      exact ⟨count + 1, before.step edge⟩
  · rintro ⟨count, path⟩
    induction path with
    | here => exact Relation.ReflTransGen.refl
    | step _ edge inductionHypothesis => exact inductionHypothesis.tail edge

/-- The least number of edges that lead from one node to another. -/
structure Distance (next : α → List α) (source : α) (count : Nat) (target : α) : Prop where
  path : LeadsIn next source count target
  least : ∀ fewer < count, ¬ LeadsIn next source fewer target

/-- What is led to has a distance, which is not greater. -/
theorem LeadsIn.exists_distance {count : Nat} {target : α}
    (path : LeadsIn next source count target) :
    ∃ least ≤ count, Distance next source least target := by
  induction count using Nat.strong_induction_on with
  | h count inductionHypothesis =>
    by_cases minimal : ∀ fewer < count, ¬ LeadsIn next source fewer target
    · exact ⟨count, Nat.le_refl count, path, minimal⟩
    · push Not at minimal
      obtain ⟨fewer, lower, shorter⟩ := minimal
      obtain ⟨least, bound, distance⟩ := inductionHypothesis fewer lower shorter
      exact ⟨least, Nat.le_trans bound (Nat.le_of_lt lower), distance⟩

/-- The last edge to a node comes from one that is nearer by one edge. -/
theorem Distance.exists_before {count : Nat} {target : α}
    (distance : Distance next source (count + 1) target) :
    ∃ node, Distance next source count node ∧ target ∈ next node := by
  obtain ⟨path, least⟩ := distance
  cases path with
  | @step _ node _ before edge =>
    refine ⟨node, ⟨before, fun fewer lower shorter => ?_⟩, edge⟩
    exact least (fewer + 1) (Nat.succ_lt_succ lower) (shorter.step edge)

/-- On the way to a node there are nodes at all smaller distances. -/
theorem Distance.exists_trail {count : Nat} {target : α}
    (distance : Distance next source count target) :
    ∃ trail : List α, trail.Nodup ∧ trail.length = count + 1 ∧
      ∀ node ∈ trail, ∃ steps ≤ count, LeadsIn next source steps node := by
  induction count generalizing target with
  | zero =>
    refine ⟨[target], List.nodup_singleton target, rfl, fun node listed => ?_⟩
    rw [List.mem_singleton.mp listed]
    exact ⟨0, Nat.le_refl 0, distance.path⟩
  | succ count inductionHypothesis =>
    obtain ⟨node, nearer, -⟩ := distance.exists_before
    obtain ⟨trail, distinct, long, near⟩ := inductionHypothesis nearer
    have apart : target ∉ trail := by
      intro listed
      obtain ⟨steps, bound, path⟩ := near target listed
      exact distance.least steps (Nat.lt_succ_of_le bound) path
    refine ⟨target :: trail, List.nodup_cons.mpr ⟨apart, distinct⟩, by simp [long], ?_⟩
    intro node listed
    rcases List.mem_cons.mp listed with rfl | old
    · exact ⟨count + 1, Nat.le_refl _, distance.path⟩
    · obtain ⟨steps, bound, path⟩ := near node old
      exact ⟨steps, Nat.le_succ_of_le bound, path⟩

/-- Distances are smaller than the number of nodes. -/
theorem Distance.lt_length {count : Nat} {target : α}
    (distance : Distance next source count target) (nodes : List α)
    (within : ∀ node, Leads next source node → node ∈ nodes) : count < nodes.length := by
  obtain ⟨trail, distinct, long, near⟩ := distance.exists_trail
  have listed : trail ⊆ nodes := by
    intro node present
    obtain ⟨steps, -, path⟩ := near node present
    exact within node ((leads_iff_exists_leadsIn node).mpr ⟨steps, path⟩)
  have fits := (distinct.subperm listed).length_le
  omega

/-- A list of nodes in which each one is a neighbour of the one behind it leads from its last node to
its first. -/
theorem leadsIn_of_isChain {chain : List α} {target : α}
    (linked : chain.IsChain fun later earlier => later ∈ next earlier)
    (first : chain.head? = some target) (last : chain.getLast? = some source) :
    LeadsIn next source (chain.length - 1) target := by
  induction chain generalizing target with
  | nil => cases first
  | cons node rest inductionHypothesis =>
    obtain rfl : node = target := by simpa using first
    cases rest with
    | nil =>
      obtain rfl : node = source := by simpa using last
      exact .here
    | cons before others =>
      obtain ⟨edge, remaining⟩ := List.isChain_cons_cons.mp linked
      exact (inductionHypothesis remaining rfl (by simpa using last)).step edge

end Distance

namespace Chain

variable {next : String → List String} {source : String}

/-- The level of a distance: one chain to every file at that distance, with all files met that are
not farther away. -/
structure Level.IsAt (next : String → List String) (source : String) (count : Nat) (level : Level) :
    Prop where
  met : ∀ path, path ∈ level.met ↔ ∃ steps ≤ count, LeadsIn next source steps path
  ends : ∀ path, (∃ chain ∈ level.chains, chain.head? = some path) ↔
    Distance next source count path
  long : ∀ chain ∈ level.chains, chain.length = count + 1
  last : ∀ chain ∈ level.chains, chain.getLast? = some source
  linked : ∀ chain ∈ level.chains, chain.IsChain fun later earlier => later ∈ next earlier

/-- The level that a search starts with. -/
theorem Level.isAt_start (next : String → List String) (source : String) :
    Level.IsAt next source 0 ⟨[source], [[source]]⟩ where
  met path := by
    rw [List.mem_singleton]
    constructor
    · rintro rfl
      exact ⟨0, Nat.le_refl 0, .here⟩
    · rintro ⟨steps, bound, route⟩
      obtain rfl := Nat.le_zero.mp bound
      cases route
      rfl
  ends path := by
    constructor
    · rintro ⟨chain, listed, first⟩
      rw [List.mem_singleton.mp listed] at first
      obtain rfl : source = path := by simpa using first
      exact ⟨.here, fun _ impossible => absurd impossible (Nat.not_lt_zero _)⟩
    · rintro ⟨route, -⟩
      cases route
      exact ⟨[source], List.mem_singleton_self _, rfl⟩
  long chain listed := by rw [List.mem_singleton.mp listed]; rfl
  last chain listed := by rw [List.mem_singleton.mp listed]; rfl
  linked chain listed := by rw [List.mem_singleton.mp listed]; exact .singleton source

/-- What a level has become when some files have been offered to it as continuations of its chains.
-/
structure Extended (next : String → List String) (before after : Level) (offered : List String) :
    Prop where
  met : ∀ path, path ∈ after.met ↔ path ∈ before.met ∨ path ∈ offered
  ends : ∀ path, (∃ chain ∈ after.chains, chain.head? = some path) ↔
    path ∈ offered ∧ path ∉ before.met
  longer : ∀ chain ∈ after.chains, ∃ path last rest, chain = path :: last :: rest ∧
    last :: rest ∈ before.chains ∧ path ∈ next last

variable {before level : Level} {offered : List String}

/-- Nothing has been offered yet. -/
theorem extended_nil (before : Level) : Extended next before ⟨before.met, []⟩ [] where
  met path := by simp
  ends path := by simp
  longer chain listed := absurd listed List.not_mem_nil

/-- One more file continues a chain unless it has been met. -/
theorem Extended.extendBy (extended : Extended next before level offered) {last : String}
    {rest : List String} (listed : last :: rest ∈ before.chains) {path : String}
    (edge : path ∈ next last) :
    Extended next before (extendBy (last :: rest) level path) (offered ++ [path]) := by
  by_cases met : path ∈ level.met
  · have same : Chain.extendBy (last :: rest) level path = level := by
      simp [Chain.extendBy, met]
    rw [same]
    refine ⟨fun tested => ?_, fun tested => ?_, extended.longer⟩
    · rw [extended.met, List.mem_append, List.mem_singleton, ← or_assoc]
      refine (or_iff_left_of_imp ?_).symm
      rintro rfl
      exact (extended.met tested).mp met
    · rw [extended.ends, List.mem_append, List.mem_singleton]
      refine and_congr_left fun unmet => (or_iff_left_of_imp ?_).symm
      rintro rfl
      exact ((extended.met tested).mp met).resolve_left unmet
  · have step : Chain.extendBy (last :: rest) level path =
        ⟨path :: level.met, level.chains ++ [path :: last :: rest]⟩ := by
      simp [Chain.extendBy, met]
    have unmet : path ∉ before.met := fun old => met ((extended.met path).mpr (Or.inl old))
    rw [step]
    refine ⟨fun tested => ?_, fun tested => ?_, fun chain present => ?_⟩
    · rw [List.mem_cons, extended.met, List.mem_append, List.mem_singleton, or_comm, or_assoc]
    · simp only [List.mem_append, List.mem_singleton, or_and_right, exists_or, extended.ends,
        exists_eq_left, List.head?_cons, Option.some.injEq]
      refine or_congr_right ⟨?_, fun both => both.1.symm⟩
      rintro rfl
      exact ⟨rfl, unmet⟩
    · rcases List.mem_append.mp present with old | new
      · exact extended.longer chain old
      · exact ⟨path, last, rest, List.mem_singleton.mp new, listed, edge⟩

/-- The files that continue a chain. -/
def continuations (next : String → List String) : List String → List String
  | [] => []
  | last :: _ => next last

/-- A chain is continued by all files that its last one leads to. -/
theorem Extended.extend (extended : Extended next before level offered) {chain : List String}
    (listed : chain ∈ before.chains) :
    Extended next before (extend next level chain) (offered ++ continuations next chain) := by
  cases chain with
  | nil => simpa [Chain.extend, continuations] using extended
  | cons last rest =>
    have along (paths : List String) (edges : ∀ path ∈ paths, path ∈ next last) :
        ∀ offered level, Extended next before level offered →
          Extended next before (paths.foldl (Chain.extendBy (last :: rest)) level)
            (offered ++ paths) := by
      induction paths with
      | nil =>
        intro offered level extended
        simpa using extended
      | cons path others inductionHypothesis =>
        intro offered level extended
        have one := extended.extendBy listed (edges path List.mem_cons_self)
        have all := inductionHypothesis (fun other member =>
          edges other (List.mem_cons_of_mem path member)) _ _ one
        simpa using all
    exact along (next last) (fun _ edge => edge) offered level extended

/-- All chains of a level are continued one after another. -/
theorem extended_following (next : String → List String) (before : Level) :
    Extended next before (following next before)
      (before.chains.flatMap (continuations next)) := by
  have along (chains : List (List String)) (listed : ∀ chain ∈ chains, chain ∈ before.chains) :
      ∀ offered level, Extended next before level offered →
        Extended next before (chains.foldl (extend next) level)
          (offered ++ chains.flatMap (continuations next)) := by
    induction chains with
    | nil =>
      intro offered level extended
      simpa using extended
    | cons chain others inductionHypothesis =>
      intro offered level extended
      have one := extended.extend (listed chain List.mem_cons_self)
      have all := inductionHypothesis (fun other member =>
        listed other (List.mem_cons_of_mem chain member)) _ _ one
      simpa using all
  have all := along before.chains (fun _ listed => listed) [] _ (extended_nil before)
  exact all

/-- What continues the chains of a level are the neighbours of the files at its distance. -/
theorem Level.IsAt.mem_continuations {count : Nat} {level : Level}
    (isAt : level.IsAt next source count) (path : String) :
    path ∈ level.chains.flatMap (continuations next) ↔
      ∃ node, Distance next source count node ∧ path ∈ next node := by
  rw [List.mem_flatMap]
  constructor
  · rintro ⟨chain, listed, continues⟩
    cases chain with
    | nil => cases continues
    | cons last rest => exact ⟨last, (isAt.ends last).mp ⟨_, listed, rfl⟩, continues⟩
  · rintro ⟨node, distance, edge⟩
    obtain ⟨chain, listed, first⟩ := (isAt.ends node).mpr distance
    cases chain with
    | nil => cases first
    | cons last rest =>
      obtain rfl : last = node := by simpa using first
      exact ⟨last :: rest, listed, edge⟩

/-- The chains that are longer by one file are the level of the next distance.

A file that is led to in one edge more is met before, or the last edge comes from a file at the
distance of the level. -/
theorem Level.IsAt.following {count : Nat} {level : Level} (isAt : level.IsAt next source count) :
    (following next level).IsAt next source (count + 1) := by
  have extended := extended_following next level
  have reached (path : String) : (∃ steps ≤ count + 1, LeadsIn next source steps path) ↔
      path ∈ level.met ∨ path ∈ level.chains.flatMap (continuations next) := by
    rw [isAt.met, isAt.mem_continuations]
    constructor
    · rintro ⟨steps, bound, route⟩
      obtain ⟨least, shorter, distance⟩ := route.exists_distance
      rcases Nat.lt_or_ge count least with beyond | near
      · obtain rfl : least = count + 1 := by omega
        exact Or.inr distance.exists_before
      · exact Or.inl ⟨least, near, distance.path⟩
    · rintro (⟨steps, bound, route⟩ | ⟨node, distance, edge⟩)
      · exact ⟨steps, Nat.le_succ_of_le bound, route⟩
      · exact ⟨count + 1, Nat.le_refl _, distance.path.step edge⟩
  constructor
  case met => exact fun path => (extended.met path).trans (reached path).symm
  case ends =>
    intro path
    rw [extended.ends, isAt.met, isAt.mem_continuations]
    constructor
    · rintro ⟨⟨node, distance, edge⟩, unmet⟩
      refine ⟨distance.path.step edge, fun fewer lower shorter => unmet ⟨fewer, ?_, shorter⟩⟩
      exact Nat.le_of_lt_succ lower
    · intro distance
      refine ⟨distance.exists_before, ?_⟩
      rintro ⟨steps, bound, route⟩
      exact distance.least steps (Nat.lt_succ_of_le bound) route
  case long =>
    intro chain listed
    obtain ⟨path, last, rest, rfl, old, -⟩ := extended.longer chain listed
    rw [List.length_cons, isAt.long _ old]
  case last =>
    intro chain listed
    obtain ⟨path, last, rest, rfl, old, -⟩ := extended.longer chain listed
    rw [List.getLast?_cons_cons]
    exact isAt.last _ old
  case linked =>
    intro chain listed
    obtain ⟨path, last, rest, rfl, old, edge⟩ := extended.longer chain listed
    exact List.isChain_cons_cons.mpr ⟨edge, isAt.linked _ old⟩

/-- A list of files leads back from a file to a source, in as few steps as possible. -/
structure Shortest (next : String → List String) (source target : String) (chain : List String) :
    Prop where
  first : chain.head? = some target
  last : chain.getLast? = some source
  linked : chain.IsChain fun later earlier => later ∈ next earlier
  distance : Distance next source (chain.length - 1) target

/-- A chain of a level that arrives is a shortest one. -/
theorem Level.IsAt.shortest {count : Nat} {level : Level} (isAt : level.IsAt next source count)
    {target : String} {chain : List String}
    (found : level.chains.find? (·.head? == some target) = some chain) :
    Shortest next source target chain := by
  have listed := List.mem_of_find?_eq_some found
  have first : chain.head? = some target := by simpa using List.find?_some found
  refine ⟨first, isAt.last chain listed, isAt.linked chain listed, ?_⟩
  rw [isAt.long chain listed]
  exact (isAt.ends target).mp ⟨chain, listed, first⟩

/-- When no chain of a level arrives, the file is farther away, unless it is nearer. -/
theorem Level.IsAt.not_leadsIn {count : Nat} {level : Level} (isAt : level.IsAt next source count)
    {target : String} (notNearer : ∀ fewer < count, ¬ LeadsIn next source fewer target)
    (missing : level.chains.find? (·.head? == some target) = none) :
    ∀ fewer < count + 1, ¬ LeadsIn next source fewer target := by
  intro fewer bound path
  rcases Nat.lt_or_eq_of_le (Nat.le_of_lt_succ bound) with lower | rfl
  · exact notNearer fewer lower path
  · obtain ⟨chain, listed, first⟩ := (isAt.ends target).mpr ⟨path, notNearer⟩
    exact List.find?_eq_none.mp missing chain listed (by simpa using first)

/-- A search finds a shortest chain, or there is none as far as it has searched.

Induct on the number of levels: each one is looked through before the next one is made. -/
theorem Level.IsAt.search {count : Nat} {level : Level} (isAt : level.IsAt next source count)
    {target : String} (notNearer : ∀ fewer < count, ¬ LeadsIn next source fewer target)
    (steps : Nat) :
    match search next target steps level with
    | some chain => Shortest next source target chain
    | none => ∀ fewer < count + steps + 1, ¬ LeadsIn next source fewer target := by
  induction steps generalizing level count with
  | zero =>
    rw [Chain.search]
    split
    · next found => exact isAt.shortest found
    · next missing => exact isAt.not_leadsIn notNearer missing
  | succ steps inductionHypothesis =>
    rw [Chain.search]
    cases found : level.chains.find? (·.head? == some target) with
    | some chain => exact isAt.shortest found
    | none =>
      have later := inductionHypothesis isAt.following (isAt.not_leadsIn notNearer found)
      rwa [Nat.add_right_comm count 1 steps] at later

end Chain

namespace UsageGraph

/-- A list of files follows imports from one file of a graph to another. -/
structure ImportsAlong (graph : UsageGraph) (source target : String) (chain : List String) :
    Prop where
  first : chain.head? = some source
  last : chain.getLast? = some target
  linked : chain.IsChain fun importer imported => imported ∈ graph.successors importer

/-- No list of files that follows imports from one file to another is shorter. -/
structure ImportsShortest (graph : UsageGraph) (source target : String) (chain : List String) :
    Prop extends graph.ImportsAlong source target chain where
  least : ∀ other, graph.ImportsAlong source target other → chain.length ≤ other.length

variable {graph : UsageGraph} {source target : String}

/-- A list of files that follows imports has one file more than imports. -/
theorem ImportsAlong.leadsIn {chain : List String}
    (along : graph.ImportsAlong source target chain) :
    LeadsIn graph.successors source (chain.length - 1) target := by
  have linked : chain.reverse.IsChain fun later earlier => later ∈ graph.successors earlier :=
    List.isChain_reverse.mpr along.linked
  have path := leadsIn_of_isChain linked (by rw [List.head?_reverse, along.last])
    (by rw [List.getLast?_reverse, along.first])
  rwa [List.length_reverse] at path

/-- A shortest chain, read from its source, is a shortest list of files that follows imports. -/
theorem importsShortest_reverse {chain : List String}
    (shortest : Chain.Shortest graph.successors source target chain) :
    graph.ImportsShortest source target chain.reverse where
  first := by rw [List.head?_reverse, shortest.last]
  last := by rw [List.getLast?_reverse, shortest.first]
  linked := List.isChain_reverse.mpr shortest.linked
  least other along := by
    have some : 0 < other.length := by
      cases other with
      | nil => cases along.first
      | cons => exact Nat.succ_pos _
    have least : ¬ other.length - 1 < chain.length - 1 := fun fewer =>
      shortest.distance.least _ fewer along.leadsIn
    rw [List.length_reverse]
    omega

/-- What a search for a chain in a built graph gives: a shortest list of files that follows imports,
or nothing, when none leads from the source to the target. -/
theorem Built.shortestChain?_cases (built : graph.Built) (source target : String) :
    match graph.shortestChain? source target with
    | some chain =>
      source ∈ graph.files ∧ graph.Reaches source target ∧
        graph.ImportsShortest source target chain
    | none => ¬ (source ∈ graph.files ∧ graph.Reaches source target) := by
  unfold shortestChain?
  by_cases inside : source ∈ graph.files
  swap
  · have missing : graph.contains source = false := by
      simpa using mt (graph.contains_iff source).mp inside
    simp only [missing, Bool.false_and, Bool.false_eq_true, if_false]
    exact fun both => inside both.1
  have within (node : String) (route : graph.Reaches source node) : node ∈ graph.files :=
    built.reaches_mem inside route
  by_cases also : target ∈ graph.files
  swap
  · have missing : graph.contains target = false := by
      simpa using mt (graph.contains_iff target).mp also
    simp only [missing, Bool.and_false, Bool.false_eq_true, if_false]
    exact fun both => also (within target both.2)
  rw [if_pos (by simp [contains_iff, inside, also])]
  have nothingNearer : ∀ fewer < 0, ¬ LeadsIn graph.successors source fewer target :=
    fun _ impossible => absurd impossible (Nat.not_lt_zero _)
  have outcome := (Chain.Level.isAt_start graph.successors source).search nothingNearer
    graph.nodeCount
  cases found : Chain.search graph.successors target graph.nodeCount ⟨[source], [[source]]⟩ with
  | some chain =>
    rw [found] at outcome
    exact ⟨inside, (leads_iff_exists_leadsIn target).mpr ⟨_, outcome.distance.path⟩,
      importsShortest_reverse outcome⟩
  | none =>
    rw [found] at outcome
    rintro ⟨-, route⟩
    obtain ⟨count, path⟩ := (leads_iff_exists_leadsIn target).mp route
    obtain ⟨least, -, distance⟩ := path.exists_distance
    have near : least < graph.files.length := distance.lt_length graph.files within
    have size : graph.files.length = graph.nodeCount := by
      simp [files, Ledger.keys, nodeCount, Ledger.size]
    exact outcome least (by omega) distance.path

end UsageGraph

end FeatureLayout
