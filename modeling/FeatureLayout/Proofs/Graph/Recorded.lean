import FeatureLayout.Proofs.Basic
import FeatureLayout.Proofs.Graph.Usage

/-!
# What the graph of an index records

Beside its edges, a usage graph keeps the imports that lead into excluded folders and the uses of
symbols. Adding an import records at most one of the former, and for an import of an indexed file
one use of each exported symbol that its name stands for. So the graph of a labelled index says of
every file and of every symbol what the imports of the index say, in both directions.

Symbols are told apart by their qualified names. Two of them may share one, for file names and
symbol names are only joined; the files that use such a symbol are then those that use either.
-/

namespace FeatureLayout

open Text

namespace UsageGraph

section Boundary

@[simp] theorem boundaryRefs_addFile (graph : UsageGraph) (path tested : String) :
    (graph.addFile path).boundaryRefs tested = graph.boundaryRefs tested := rfl

@[simp] theorem boundaryRefs_define (graph : UsageGraph) (symbol : Symbol) (tested : String) :
    (graph.define symbol).boundaryRefs tested = graph.boundaryRefs tested := rfl

@[simp] theorem boundaryRefs_use (graph : UsageGraph) (qualified user tested : String) :
    (graph.use qualified user).boundaryRefs tested = graph.boundaryRefs tested := rfl

@[simp] theorem boundaryRefs_addEdge (graph : UsageGraph) (source target tested : String) :
    (graph.addEdge source target).boundaryRefs tested = graph.boundaryRefs tested := by
  rw [addEdge_eq]
  split
  · rfl
  · rfl

/-- An import into an excluded folder is recorded behind the others of its file. -/
theorem boundaryRefs_addBoundary (graph : UsageGraph) (ref : ImportRef) (tested : String) :
    (graph.addBoundary ref).boundaryRefs tested =
      graph.boundaryRefs tested ++ if ref.source = tested then [ref] else [] := by
  rw [boundaryRefs, addBoundary, Ledger.modify, Ledger.find?_put]
  by_cases same : ref.source = tested
  · simp [same, boundaryRefs]
  · simp [same, boundaryRefs]

/-- Whether an import leads into an excluded folder. -/
def leadsOut (index : SourceIndex) (ref : ImportRef) : Bool :=
  ref.target.any index.excluded.contains

/-- An import is recorded for its file if it leads into an excluded folder. -/
theorem boundaryRefs_addImport (index : SourceIndex) (graph : UsageGraph) (ref : ImportRef)
    (tested : String) :
    (addImport index graph ref).boundaryRefs tested =
      graph.boundaryRefs tested ++
        if leadsOut index ref ∧ ref.source = tested then [ref] else [] := by
  have used (symbols : List String) (start : UsageGraph) :
      (symbols.foldl (fun graph symbol => graph.use symbol ref.source) start).boundaryRefs tested =
        start.boundaryRefs tested := by
    induction symbols generalizing start with
    | nil => rfl
    | cons symbol rest inductionHypothesis =>
      exact inductionHypothesis (start.use symbol ref.source)
  unfold addImport
  split
  · next external => simp [leadsOut, external]
  · next target led =>
    split
    · next excluded =>
      have out := List.contains_iff_mem.mp excluded
      simp [boundaryRefs_addBoundary, leadsOut, led, out]
    · next inside =>
      have stays : leadsOut index ref = false := by simpa [leadsOut, led] using inside
      split
      · simp [stays]
      · simp [used, stays]

/-- Adding imports records those that lead into excluded folders, in their order. -/
theorem boundaryRefs_foldl_addImport (index : SourceIndex) (refs : List ImportRef)
    (graph : UsageGraph) (tested : String) :
    (refs.foldl (addImport index) graph).boundaryRefs tested =
      graph.boundaryRefs tested ++
        refs.filter fun ref => leadsOut index ref ∧ ref.source = tested := by
  induction refs generalizing graph with
  | nil => simp
  | cons ref rest inductionHypothesis =>
    rw [List.foldl_cons, inductionHypothesis, boundaryRefs_addImport, List.append_assoc,
      List.filter_cons]
    split
    · next recorded => simp [recorded]
    · next spared => simp [spared]

/-- Adding the files and their symbols records no import. -/
theorem boundaryRefs_foldl_addSource (files : List SourceFile) (graph : UsageGraph)
    (tested : String) :
    (files.foldl addSource graph).boundaryRefs tested = graph.boundaryRefs tested := by
  have defined (symbols : List Symbol) (start : UsageGraph) :
      (symbols.foldl define start).boundaryRefs tested = start.boundaryRefs tested := by
    induction symbols generalizing start with
    | nil => rfl
    | cons symbol rest inductionHypothesis => exact inductionHypothesis (start.define symbol)
  induction files generalizing graph with
  | nil => rfl
  | cons file rest inductionHypothesis =>
    rw [List.foldl_cons, inductionHypothesis, addSource, defined, boundaryRefs_addFile]

end Boundary

section Uses

@[simp] theorem uses_addEdge (graph : UsageGraph) (source target : String) :
    (graph.addEdge source target).uses = graph.uses := by
  rw [addEdge_eq]
  split
  · rfl
  · rfl

/-- Recording uses by one file adds them behind the others. -/
theorem uses_foldl_use (symbols : List String) (user : String) (graph : UsageGraph) :
    (symbols.foldl (fun graph symbol => graph.use symbol user) graph).uses =
      graph.uses ++ symbols.map (·, user) := by
  induction symbols generalizing graph with
  | nil => simp
  | cons symbol rest inductionHypothesis =>
    rw [List.foldl_cons, inductionHypothesis, use]
    simp

/-- Adding the files and their symbols records no use. -/
theorem uses_foldl_addSource (files : List SourceFile) (graph : UsageGraph) :
    (files.foldl addSource graph).uses = graph.uses := by
  have defined (symbols : List Symbol) (start : UsageGraph) :
      (symbols.foldl define start).uses = start.uses := by
    induction symbols generalizing start with
    | nil => rfl
    | cons symbol rest inductionHypothesis => exact inductionHypothesis (start.define symbol)
  induction files generalizing graph with
  | nil => rfl
  | cons file rest inductionHypothesis =>
    rw [List.foldl_cons, inductionHypothesis, addSource, defined]
    rfl

/-- An import by which a file uses a symbol. -/
def Uses (index : SourceIndex) (ref : ImportRef) (qualified user : String) : Prop :=
  ref.source = user ∧ ∃ target found, ref.target = some target ∧ target ∉ index.excluded ∧
    index.file? target = some found ∧ qualified ∈ usedSymbols found ref.name

theorem mem_uses_addImport (index : SourceIndex) (graph : UsageGraph) (ref : ImportRef)
    (qualified user : String) :
    (qualified, user) ∈ (addImport index graph ref).uses ↔
      (qualified, user) ∈ graph.uses ∨ Uses index ref qualified user := by
  unfold addImport Uses
  split
  · next external => simp [external]
  · next target led =>
    split
    · next excluded =>
      have out := List.contains_iff_mem.mp excluded
      simp [addBoundary, led, out]
    · next inside =>
      have inside : target ∉ index.excluded := by simpa using inside
      split
      · next unknown => simp [led, unknown]
      · next found known =>
        simp [uses_foldl_use, led, inside, known, and_comm]

theorem mem_uses_foldl_addImport (index : SourceIndex) (refs : List ImportRef)
    (graph : UsageGraph) (qualified user : String) :
    (qualified, user) ∈ (refs.foldl (addImport index) graph).uses ↔
      (qualified, user) ∈ graph.uses ∨ ∃ ref ∈ refs, Uses index ref qualified user := by
  induction refs generalizing graph with
  | nil => simp
  | cons ref rest inductionHypothesis =>
    rw [List.foldl_cons, inductionHypothesis, mem_uses_addImport]
    simp only [List.mem_cons, exists_eq_or_imp, or_assoc]

/-- An imported name stands for the symbol of that name, and `*` for all symbols. -/
theorem mem_usedSymbols {file : SourceFile} (own : ∀ symbol ∈ file.exports, symbol.file = file.path)
    {name qualified : String} :
    qualified ∈ usedSymbols file name ↔
      ∃ symbol ∈ file.exports,
        symbol.qualified = qualified ∧ (name = symbol.name ∨ name = "*") := by
  unfold usedSymbols
  split
  · next whole => simp [whole]
  · next single =>
    have spelled (symbol : Symbol) (listed : symbol ∈ file.exports) :
        symbol.qualified = file.path ++ "#" ++ symbol.name := by
      rw [Symbol.qualified, own symbol listed]
    split
    · next exported =>
      obtain ⟨symbol, listed, rfl⟩ := List.mem_map.mp (List.contains_iff_mem.mp exported)
      rw [List.mem_singleton]
      constructor
      · rintro rfl
        exact ⟨symbol, listed, spelled symbol listed, Or.inl rfl⟩
      · rintro ⟨other, present, rfl, same | whole⟩
        · rw [spelled other present, same]
        · exact absurd whole single
    · next missing =>
      refine ⟨fun absent => absurd absent List.not_mem_nil, ?_⟩
      rintro ⟨symbol, listed, -, same | whole⟩
      · have exported := List.mem_map.mpr ⟨symbol, listed, same.symm⟩
        exact absurd (List.contains_iff_mem.mpr exported) missing
      · exact absurd whole single

/-- The users of a symbol are listed in increasing order. -/
theorem usersOf_increasing (graph : UsageGraph) (qualified : String) :
    (graph.usersOf qualified).Pairwise (· < ·) :=
  increasing_of_nodup (sortedBy_pairwise id _)
    ((sorted_perm _).nodup_iff.mpr (nodup_eraseDups _))

/-- The users of a symbol are those whose use of it is recorded. -/
theorem mem_usersOf {graph : UsageGraph} {qualified user : String} :
    user ∈ graph.usersOf qualified ↔ (qualified, user) ∈ graph.uses := by
  simp [usersOf, sortedDistinct]

end Uses

section Exact

variable {index : SourceIndex}

/-- The imports of one file are those of all files that name it as their source. -/
theorem filter_imports (labelled : index.Labelled) (keep : ImportRef → Bool) (source : String) :
    ((index.files.values.flatMap (·.imports)).filter fun ref => keep ref ∧ ref.source = source) =
      ((index.file? source).map fun file => file.imports.filter keep).getD [] := by
  rw [SourceIndex.file?, ← Ledger.flatMap_at, Ledger.values, List.flatMap_map, List.filter_flatMap]
  refine List.flatMap_congr fun entry listed => ?_
  have stored := (Ledger.find?_eq_some_iff index.files entry.1 entry.2).mpr listed
  have named (ref : ImportRef) (imported : ref ∈ entry.2.imports) : ref.source = entry.1 :=
    labelled.imported entry.1 entry.2 stored ref imported
  split
  · next same =>
    refine List.filter_congr fun ref imported => ?_
    simp [named ref imported, same]
  · next other =>
    refine List.filter_eq_nil_iff.mpr fun ref imported => ?_
    simp [named ref imported, other]

/-- A file imports a symbol of another, by its name or with all others. -/
def UsedBy (index : SourceIndex) (path name user : String) : Prop :=
  ∃ importer, index.file? user = some importer ∧
    ∃ ref ∈ importer.imports, ref.target = some path ∧ (ref.name = name ∨ ref.name = "*")

/-- No other symbol of an index has the qualified name of this one. -/
def IsAlone (index : SourceIndex) (path name : String) : Prop :=
  ∀ other file, index.file? other = some file → ∀ symbol ∈ file.exports,
    symbol.qualified = path ++ "#" ++ name → other = path ∧ symbol.name = name

/-- The recorded uses of a symbol are its imports. -/
theorem mem_uses_ofIndex (labelled : index.Labelled) {path : String} {file : SourceFile}
    (known : index.file? path = some file) {symbol : Symbol} (exported : symbol ∈ file.exports)
    (alone : IsAlone index path symbol.name) (user : String) :
    (path ++ "#" ++ symbol.name, user) ∈ (ofIndex index).uses ↔
      UsedBy index path symbol.name user := by
  have own {place : String} {found : SourceFile} (stored : index.file? place = some found) :
      ∀ symbol ∈ found.exports, symbol.file = found.path := by
    intro symbol listed
    rw [labelled.exported place found stored symbol listed, labelled.keyed place found stored]
  have start : (index.files.values.foldl addSource empty).uses = [] := by
    rw [uses_foldl_addSource]
    rfl
  simp only [ofIndex, mem_uses_foldl_addImport, start, List.not_mem_nil, false_or,
    List.mem_flatMap, mem_values_iff]
  constructor
  · rintro ⟨ref, ⟨importer, ⟨place, stored⟩, listed⟩, same, target, found, led, -, goal, used⟩
    obtain rfl : place = user :=
      (labelled.imported place importer stored ref listed).symm.trans same
    obtain ⟨other, present, qualified, named⟩ := (mem_usedSymbols (own goal)).mp used
    obtain ⟨rfl, spelled⟩ := alone target found goal other present qualified
    exact ⟨importer, stored, ref, listed, led, named.imp_left (·.trans spelled)⟩
  · rintro ⟨importer, stored, ref, listed, led, named⟩
    have qualified : symbol.qualified = path ++ "#" ++ symbol.name := by
      rw [Symbol.qualified, labelled.exported path file known symbol exported]
    exact ⟨ref, ⟨importer, ⟨user, stored⟩, listed⟩,
      labelled.imported user importer stored ref listed, path, file, led,
      labelled.apart path file known, known,
      (mem_usedSymbols (own known)).mpr ⟨symbol, exported, qualified, named⟩⟩

/-- What the usage graph of an index has to record. -/
structure Records (index : SourceIndex) (graph : UsageGraph) : Prop where
  /-- The nodes are the indexed files. -/
  nodes : ∀ path, path ∈ graph.files ↔ ∃ file, index.file? path = some file
  /-- The edges are the imports that lead to indexed files. -/
  edges : ∀ source target, target ∈ graph.successors source ↔ Imports index source target
  /-- No edge is stored twice. -/
  once : ∀ source, (graph.successors source).Nodup
  /-- Of the imports of a file, those into excluded folders are recorded apart, in their order. -/
  boundary : ∀ source file, index.file? source = some file →
    graph.boundaryRefs source = file.imports.filter (leadsOut index)
  /-- Nothing is recorded for other files. -/
  outside : ∀ source, index.file? source = none → graph.boundaryRefs source = []
  /-- The users of an exported symbol are the files that import it, each once and in order. -/
  users : ∀ path file, index.file? path = some file → ∀ symbol ∈ file.exports,
    IsAlone index path symbol.name →
      (graph.usersOf (path ++ "#" ++ symbol.name)).Pairwise (· < ·) ∧
        ∀ user, user ∈ graph.usersOf (path ++ "#" ++ symbol.name) ↔
          UsedBy index path symbol.name user

/-- The usage graph of a labelled index records what the index says. -/
theorem ofIndex_records (labelled : index.Labelled) : Records index (ofIndex index) := by
  have recorded (source : String) : (ofIndex index).boundaryRefs source =
      ((index.file? source).map fun file => file.imports.filter (leadsOut index)).getD [] := by
    rw [← filter_imports labelled, ofIndex, boundaryRefs_foldl_addImport,
      boundaryRefs_foldl_addSource]
    rfl
  constructor
  case nodes => exact mem_files_ofIndex labelled
  case edges => exact mem_successors_ofIndex labelled
  case once => exact (ofIndex_built index).successors_nodup
  case boundary =>
    intro source file known
    rw [recorded, known, Option.map_some, Option.getD_some]
  case outside =>
    intro source unknown
    rw [recorded, unknown, Option.map_none, Option.getD_none]
  case users =>
    intro path file known symbol exported alone
    refine ⟨usersOf_increasing _ _, fun user => ?_⟩
    rw [mem_usersOf, mem_uses_ofIndex labelled known exported alone]

/-- A component with its properties. -/
def cardFile : SourceFile where
  path := "parts/Card.tsx"
  kind := .component
  exports := [⟨"Card", "parts/Card.tsx", .component, none⟩,
    ⟨"CardProps", "parts/Card.tsx", .type, none⟩]
  imports := []
  content := some ""

/-- A page that imports the component twice, a package, a file in an excluded folder and one that is
not there. -/
def homePage : SourceFile where
  path := "pages/Home.tsx"
  kind := .page
  exports := []
  imports := [
    ⟨"pages/Home.tsx", "*", "../parts/Card", 1, ⟨8, 21⟩, some "parts/Card.tsx", false⟩,
    ⟨"pages/Home.tsx", "Card", "../parts/Card", 2, ⟨40, 53⟩, some "parts/Card.tsx", false⟩,
    ⟨"pages/Home.tsx", "useState", "react", 3, ⟨70, 75⟩, none, false⟩,
    ⟨"pages/Home.tsx", "Old", "../legacy/Old", 4, ⟨90, 103⟩, some "legacy/Old.tsx", false⟩,
    ⟨"pages/Home.tsx", "gone", "./gone", 5, ⟨120, 126⟩, some "pages/gone.ts", false⟩]
  content := some ""

/-- A page that imports the component only. -/
def listPage : SourceFile where
  path := "pages/List.tsx"
  kind := .page
  exports := []
  imports := [⟨"pages/List.tsx", "Card", "../parts/Card", 1, ⟨8, 21⟩, some "parts/Card.tsx", false⟩]
  content := some ""

/-- The pages and the component. -/
def pagesAndCard : SourceIndex where
  files := Ledger.ofList [("parts/Card.tsx", cardFile), ("pages/Home.tsx", homePage),
    ("pages/List.tsx", listPage)]
  excluded := ["legacy/Old.tsx"]
  errors := []

theorem ofIndex_records_pagesAndCard :
    pagesAndCard.Labelled ∧ IsAlone pagesAndCard "parts/Card.tsx" "CardProps" ∧
      (ofIndex pagesAndCard).boundaryRefs "pages/Home.tsx" =
        [⟨"pages/Home.tsx", "Old", "../legacy/Old", 4, ⟨90, 103⟩, some "legacy/Old.tsx", false⟩] ∧
      ∀ user, user ∈ (ofIndex pagesAndCard).usersOf "parts/Card.tsx#CardProps" ↔
        user = "pages/Home.tsx" := by
  have three (path : String) (file : SourceFile) (found : pagesAndCard.file? path = some file) :
      (path = "parts/Card.tsx" ∧ file = cardFile) ∨ (path = "pages/Home.tsx" ∧ file = homePage) ∨
        (path = "pages/List.tsx" ∧ file = listPage) := by
    simpa using (Ledger.find?_ofList_eq_some_iff _ (by decide) path file).mp found
  have labelled : pagesAndCard.Labelled := by
    constructor
    all_goals
      intro path file found
      rcases three path file found with ⟨rfl, rfl⟩ | ⟨rfl, rfl⟩ | ⟨rfl, rfl⟩
      all_goals decide
  have alone : IsAlone pagesAndCard "parts/Card.tsx" "CardProps" := by
    intro other file found
    rcases three other file found with ⟨rfl, rfl⟩ | ⟨rfl, rfl⟩ | ⟨rfl, rfl⟩
    all_goals decide
  have records := ofIndex_records labelled
  refine ⟨labelled, alone, records.boundary "pages/Home.tsx" homePage (by decide), fun user => ?_⟩
  have users := (records.users "parts/Card.tsx" cardFile (by decide)
    ⟨"CardProps", "parts/Card.tsx", .type, none⟩ (by decide) alone).2 user
  refine users.trans ⟨?_, ?_⟩
  · rintro ⟨importer, found, used⟩
    rcases three user importer found with ⟨rfl, rfl⟩ | ⟨rfl, rfl⟩ | ⟨rfl, rfl⟩
    · exact absurd used (by decide)
    · rfl
    · exact absurd used (by decide)
  · rintro rfl
    exact ⟨homePage, by decide, by decide⟩

end Exact

end UsageGraph

end FeatureLayout
