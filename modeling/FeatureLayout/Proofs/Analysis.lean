import FeatureLayout.Migration
import FeatureLayout.Proofs.Classification.Exact
import FeatureLayout.Proofs.Disk.Outcome
import FeatureLayout.Proofs.Index.Consistent
import FeatureLayout.Proofs.Layout

/-!
# What becomes of the files of a source tree

Analysing a source tree reads the files below its root and does nothing else, so the analysis is a
function of what is there. No file is lost on the way: a file in scope is indexed, unless a finding
says that it could not be read, and an indexed file is either planned or reported as unreached, once
and never both. Excluded files are none of these.
-/

namespace FeatureLayout

open Text DiskM

/-- A finding about a source file that could not be read: it names the file, and not one of its
imports. -/
structure Diagnostic.IsUnread (path : String) (problem : Diagnostic) : Prop where
  code : problem.code = .parse
  paths : problem.paths = [path]
  whole : ∀ specifier line, problem ≠ .unresolved path specifier line

namespace SourceIndex

variable {scope : Scope} {paths : List String} {read : String → Except ReadProblem String}
  {index : SourceIndex} {path : String} {problem : Diagnostic}

/-- An index depends on what is read of the source files in scope and on nothing else. -/
theorem ofTree_congr {first second : String → Except ReadProblem String}
    (same : ∀ path ∈ (Discovery.ofPaths scope paths).sources, first path = second path) :
    ofTree scope paths first = ofTree scope paths second := by
  have attempts : (Discovery.ofPaths scope paths).sources.map (readFile first) =
      (Discovery.ofPaths scope paths).sources.map (readFile second) :=
    List.map_congr_left fun path listed => by rw [readFile, readFile, same path listed]
  rw [ofTree, ofTree, attempts]

/-- A source file that cannot be read is reported as such. -/
theorem isUnread_of_readFile (failed : readFile read path = .error problem) :
    problem.IsUnread path := by
  unfold readFile at failed
  split at failed
  · obtain rfl := Except.error.inj failed
    exact ⟨rfl, rfl, by simp⟩
  · split at failed
    · obtain rfl := Except.error.inj failed
      exact ⟨rfl, rfl, by simp⟩
    · exact absurd failed (by simp)

/-- An import that leads nowhere does not make a file unread. -/
theorem not_isUnread_of_unresolvedOf {shorthand : String} {known : List String} {file : ReadFile}
    (listed : problem ∈ unresolvedOf shorthand known file) : ¬ problem.IsUnread path := by
  obtain ⟨found, -, rfl⟩ := List.mem_map.mp listed
  intro unread
  obtain rfl : file.path = path := by simpa [Diagnostic.paths] using unread.paths
  exact unread.whole _ _ rfl

/-- The files that are reported as unread are the source files that could not be read. -/
theorem exists_isUnread_iff (built : ofTree scope paths read = .ok index) :
    (∃ problem ∈ index.errors, problem.IsUnread path) ↔
      path ∈ (Discovery.ofPaths scope paths).sources ∧
        ∃ problem, readFile read path = .error problem := by
  constructor
  · rintro ⟨problem, listed, unread⟩
    rcases (mem_errors_ofTree built).mp listed with ⟨named, discovered, failed⟩ | ⟨_, -, unresolved⟩
    · obtain rfl : named = path := by
        simpa [(isUnread_of_readFile failed).paths] using unread.paths
      exact ⟨discovered, problem, failed⟩
    · exact absurd unread (not_isUnread_of_unresolvedOf unresolved)
  · rintro ⟨discovered, problem, failed⟩
    exact ⟨problem, (mem_errors_ofTree built).mpr (Or.inl ⟨path, discovered, failed⟩),
      isUnread_of_readFile failed⟩

/-- Whatever is said about an index is a parse error. -/
theorem code_of_mem_errors (built : ofTree scope paths read = .ok index)
    (listed : problem ∈ index.errors) : problem.code = .parse := by
  rcases (mem_errors_ofTree built).mp listed with ⟨path, -, failed⟩ | ⟨file, -, unresolved⟩
  · exact (isUnread_of_readFile failed).code
  · obtain ⟨found, -, rfl⟩ := List.mem_map.mp unresolved
    rfl

/-- A file in scope is indexed exactly when it is not reported as unread. -/
theorem file?_isSome_iff_of_inScope (built : ofTree scope paths read = .ok index)
    (plain : Path.IsPlain path) (listed : path ∈ (Discovery.ofPaths scope paths).inScope) :
    (index.file? path).isSome ↔ ¬ ∃ problem ∈ index.errors, problem.IsUnread path := by
  rw [file?_isSome_iff built, exists_isUnread_iff built]
  constructor
  · rintro (⟨-, file, readable⟩ | asset) ⟨source, problem, failed⟩
    · rw [readable] at failed
      cases failed
    · exact Discovery.not_mem_assets plain source asset
  · intro silent
    rcases Discovery.mem_sources_or_assets plain listed with source | asset
    · cases attempt : readFile read path with
      | ok file => exact Or.inl ⟨source, file, rfl⟩
      | error problem => exact absurd ⟨source, problem, attempt⟩ silent
    · exact Or.inr asset

end SourceIndex

namespace Analysis

/-- What becomes of the files of a source tree in an analysis. -/
structure Accounted (discovery : Discovery) (analysis : Analysis) : Prop where
  /-- A file in scope is indexed, or else it is reported as unread. -/
  read : ∀ path ∈ discovery.inScope,
    (analysis.index.file? path).isSome ↔ ¬ ∃ problem ∈ analysis.errors, problem.IsUnread path
  /-- An indexed file is either planned or unreached, and it is that once. -/
  placed : ∀ path, (analysis.index.file? path).isSome →
    (analysis.layout.moves.values.map (·.source)).count path +
      analysis.classification.unreached.count path = 1
  /-- What is planned or unreached is an indexed file in scope. -/
  found : ∀ path, path ∈ analysis.layout.moves.values.map (·.source) ∨
    path ∈ analysis.classification.unreached →
      path ∈ discovery.inScope ∧ (analysis.index.file? path).isSome
  /-- The unreached files are those that are reported as dead code. -/
  reported : ∀ path, path ∈ analysis.classification.unreached ↔
    ∃ problem ∈ analysis.errors, problem.code = .deadCode ∧ problem.paths = [path]
  /-- What is recorded as excluded is not indexed, so it is neither planned nor unreached. -/
  excluded : analysis.index.excluded = discovery.excluded ∧
    ∀ path ∈ analysis.index.excluded, analysis.index.file? path = none ∧
      path ∉ analysis.layout.moves.values.map (·.source) ∧
      path ∉ analysis.classification.unreached

variable {scope : Scope} {paths : List String} {read : String → Except ReadProblem String}
  {index : SourceIndex} {analysis : Analysis}

/-- What is said about a classification: an entry point is missing, a file is unreached, or a file
uses one that is excluded. -/
theorem code_of_classification {graph : UsageGraph} {problem : Diagnostic}
    (listed : problem ∈ (Classification.ofGraph scope graph).errors) :
    problem.code = .missingEntryPoint ∨
      (∃ path ∈ (Classification.ofGraph scope graph).unreached, problem = .unreached path) ∨
      problem.code = .boundary := by
  rcases List.mem_append.mp listed with first | boundary
  · rcases List.mem_append.mp first with missing | unreached
    · obtain ⟨feature, -, entries⟩ := List.mem_flatMap.mp missing
      obtain ⟨entry, -, rfl⟩ := List.mem_map.mp entries
      exact Or.inl rfl
    · obtain ⟨path, unowned, rfl⟩ := List.mem_map.mp unreached
      exact Or.inr (Or.inl ⟨path, unowned, rfl⟩)
  · obtain ⟨path, -, refs⟩ := List.mem_flatMap.mp boundary
    obtain ⟨ref, -, rfl⟩ := List.mem_map.mp refs
    exact Or.inr (Or.inr rfl)

/-- What is said about a layout: several files are planned to one place. -/
theorem code_of_layout {owners : Ledger String Owner} {problem : Diagnostic}
    (listed : problem ∈ (Layout.ofOwners scope index owners).errors) :
    problem.code = .planConflict := by
  obtain ⟨claim, -, rfl⟩ := List.mem_map.mp listed
  rfl

/-- What is said about a classification or a layout is not about reading files, and what it calls
dead code is unreached. -/
theorem said_cases {graph : UsageGraph} {owners : Ledger String Owner} {problem : Diagnostic}
    (said : problem ∈ index.errors ++ (Classification.ofGraph scope graph).errors ++
      (Layout.ofOwners scope index owners).errors) :
    problem ∈ index.errors ∨ problem.code ≠ .parse ∧ (problem.code = .deadCode →
      ∃ path ∈ (Classification.ofGraph scope graph).unreached, problem = .unreached path) := by
  rcases List.mem_append.mp said with early | planned
  · rcases List.mem_append.mp early with indexed | classified
    · exact Or.inl indexed
    · rcases code_of_classification classified with code | ⟨path, unowned, rfl⟩ | code
      · exact Or.inr (by simp [code])
      · exact Or.inr ⟨by simp [Diagnostic.code], fun _ => ⟨path, unowned, rfl⟩⟩
      · exact Or.inr (by simp [code])
  · exact Or.inr (by simp [code_of_layout planned])

/-- The sources of the moves are the owned files of the index. -/
theorem mem_sources_ofOwners (owners : Ledger String Owner) (path : String) :
    path ∈ (Layout.ofOwners scope index owners).moves.values.map (·.source) ↔
      path ∈ owners.keys ∧ (index.file? path).isSome := by
  have keyed := Layout.ofOwners_keyed scope index owners
  rw [List.mem_map, Ledger.mem_keys_iff, Option.isSome_iff_exists]
  constructor
  · rintro ⟨move, listed, rfl⟩
    obtain ⟨owner, file, owned, found, -⟩ :=
      (Layout.move?_ofOwners scope index owners _ move).mp ((keyed.mem_values_iff move).mp listed)
    exact ⟨⟨owner, owned⟩, file, found⟩
  · rintro ⟨⟨owner, owned⟩, file, found⟩
    refine ⟨Layout.moveOf scope file path owner, (keyed.mem_values_iff _).mpr ?_, rfl⟩
    exact (Layout.move?_ofOwners scope index owners path _).mpr ⟨owner, file, owned, found, rfl⟩

/-- An analysis of an index of a tree accounts for all files of the tree. -/
theorem accounted_ofIndex (plain : ∀ path ∈ paths, Path.IsPlain path)
    (built : SourceIndex.ofTree scope paths read = .ok index)
    (analysed : ofIndex scope index = .ok analysis) :
    Accounted (Discovery.ofPaths scope paths) analysis := by
  obtain ⟨classification, decided, same⟩ := bind_eq_ok.mp analysed
  obtain rfl := Except.ok.inj same
  let graph := UsageGraph.ofIndex index
  obtain rfl : classification = Classification.ofGraph scope graph :=
    Classification.eq_of_decided decided
  have consistent := SourceIndex.consistent_ofTree built
  have nodes (path : String) : path ∈ graph.files ↔ (index.file? path).isSome := by
    rw [UsageGraph.mem_files_ofIndex consistent.labelled, Option.isSome_iff_exists]
  let owners := (Classification.ofGraph scope graph).owners
  let unreached := (Classification.ofGraph scope graph).unreached
  have partition : (owners.keys ++ unreached).Perm graph.files :=
    Classification.partition_ofGraph scope graph
  let sources := (Layout.ofOwners scope index owners).moves.values.map (·.source)
  have planned (path : String) : path ∈ sources ↔ path ∈ owners.keys := by
    refine (mem_sources_ofOwners owners path).trans (and_iff_left_of_imp fun owned => ?_)
    exact (nodes path).mp (partition.subset (List.mem_append_left _ owned))
  have indexed (path : String) (either : path ∈ sources ∨ path ∈ unreached) :
      (index.file? path).isSome := by
    rw [planned, ← List.mem_append] at either
    exact (nodes path).mp (partition.subset either)
  constructor
  case read =>
    intro path listed
    have proper := plain path (Discovery.mem_inScope.mp listed).1.1
    refine (SourceIndex.file?_isSome_iff_of_inScope built proper listed).trans (not_congr ?_)
    constructor
    · rintro ⟨problem, said, unread⟩
      exact ⟨problem, List.mem_append_left _ (List.mem_append_left _ said), unread⟩
    · rintro ⟨problem, said, unread⟩
      rcases said_cases said with indexed | ⟨other, -⟩
      · exact ⟨problem, indexed, unread⟩
      · exact absurd unread.code other
  case placed =>
    intro path found
    have once : sources.count path = owners.keys.count path := by
      have distinct : sources.Nodup := (Layout.ofOwners_keyed scope index owners).sources_nodup
      have alsoDistinct : owners.keys.Nodup := owners.distinct
      rw [distinct.count, alsoDistinct.count, if_congr (planned path) rfl rfl]
    calc sources.count path + unreached.count path
        = (owners.keys ++ unreached).count path := by rw [once, List.count_append]
      _ = graph.files.count path := partition.count_eq path
      _ = 1 := List.count_eq_one_of_mem graph.files_nodup ((nodes path).mpr found)
  case found =>
    intro path either
    obtain ⟨file, stored⟩ := Option.isSome_iff_exists.mp (indexed path either)
    exact ⟨SourceIndex.mem_inScope_of_file? built stored, indexed path either⟩
  case reported =>
    intro path
    constructor
    · intro unowned
      refine ⟨.unreached path, List.mem_append_left _ (List.mem_append_right _ ?_), rfl, rfl⟩
      exact List.mem_append_left _ (List.mem_append_right _ (List.mem_map_of_mem unowned))
    · rintro ⟨problem, said, dead, names⟩
      rcases said_cases said with indexed | ⟨-, unreached⟩
      · rw [SourceIndex.code_of_mem_errors built indexed] at dead
        cases dead
      · obtain ⟨named, unowned, rfl⟩ := unreached dead
        obtain rfl : named = path := by simpa [Diagnostic.paths] using names
        exact unowned
  case excluded =>
    refine ⟨SourceIndex.excluded_ofTree built, fun path out => ?_⟩
    have absent : index.file? path = none := by
      cases found : index.file? path with
      | none => rfl
      | some file => exact absurd out (consistent.apart path file found)
    refine ⟨absent, fun moved => ?_, fun unowned => ?_⟩
    · have present := indexed path (Or.inl moved)
      simp [absent] at present
    · have present := indexed path (Or.inr unowned)
      simp [absent] at present

end Analysis

namespace Migration

section Reading

variable (scope : Scope) (start : Disk)

/-- The text of a file on a disk. -/
def textAt (place : Location) : Except Fault String := do
  match String.fromUTF8? (← (start.read place).mapError Fault.disk) with
  | some text => .ok text
  | none => .error (.disk .notText)

/-- The text of a source file on a disk, or the reason why there is none. -/
def sourceText (path : String) : Except ReadProblem String :=
  (textAt start (scope.root.follow path)).mapError readProblem

/-- The index of the source tree on a disk. -/
def indexOf : Except SettingProblem SourceIndex :=
  SourceIndex.ofTree scope (start.filesBelow scope.root) (sourceText scope start)

/-- The analysis of the source tree on a disk. -/
def analysisOf : Except SettingProblem Analysis := indexOf scope start >>= Analysis.ofIndex scope

theorem answers_orThrow {α : Type} (attempt : Except Fault α) :
    Answers start (orThrow attempt) attempt := by
  cases attempt with
  | ok answer => exact answers_pure answer
  | error problem => exact answers_throw problem

/-- Reading a text gives the text of the file. -/
theorem answers_readText (place : Location) :
    Answers start (FileSystem.readText place) (textAt start place) := by
  refine (answers_look (·.read place)).bind _ fun content _ => ?_
  cases String.fromUTF8? content with
  | some text => exact answers_pure text
  | none => exact answers_throw _

/-- Reading a source file answers with its text, or with the reason why there is none. -/
theorem answers_readSource (path : String) :
    Answers start (readSource scope path) (.ok (path, sourceText scope start path)) := by
  let answer (text : String) : String × Except ReadProblem String := (path, .ok text)
  let excuse (problem : Fault) : String × Except ReadProblem String :=
    (path, .error (readProblem problem))
  have answered := ((answers_readText start (scope.root.follow path)).bind
    (fun text => .ok (answer text)) fun text _ => answers_pure _).catching
      (fun problem => .ok (excuse problem)) fun problem _ => answers_pure _
  have outcome : tryCatch (textAt start (scope.root.follow path) >>= fun text => .ok (answer text))
      (fun problem => .ok (excuse problem)) = Except.ok (path, sourceText scope start path) := by
    unfold sourceText
    cases textAt start (scope.root.follow path) <;> rfl
  exact outcome ▸ answered

/-- Indexing a source tree gives the index of what is there. -/
theorem answers_index :
    Answers start (index scope) ((indexOf scope start).mapError Fault.setting) := by
  refine (answers_look fun disk => .ok (disk.filesBelow scope.root)).bind
    (fun _ => (indexOf scope start).mapError Fault.setting) fun paths same => ?_
  obtain rfl : start.filesBelow scope.root = paths := Except.ok.inj same
  let sources := (Discovery.ofPaths scope (start.filesBelow scope.root)).sources
  refine (answers_mapM sources (answers_readSource scope start)).bind
    (fun _ => (indexOf scope start).mapError Fault.setting) fun contents same => ?_
  obtain rfl := Except.ok.inj same
  have texts : ∀ path ∈ sources,
      (((sources.map fun path => (path, sourceText scope start path)).find? (·.1 == path)).map
        (·.2)).getD (.error .missing) = sourceText scope start path := by
    intro path listed
    have found : sources.find? (· == path) = some path := by
      cases found : sources.find? (· == path) with
      | none => simpa using List.find?_eq_none.mp found path listed
      | some other =>
        have same := List.find?_some found
        rw [beq_iff_eq.mp same]
    rw [List.find?_map]
    change (((sources.find? (· == path)).map _).map _).getD _ = _
    rw [found]
    rfl
  rw [indexOf, ← SourceIndex.ofTree_congr texts]
  exact answers_orThrow start _

/-- Analysing a source tree gives the analysis of what is there. -/
theorem answers_analyze :
    Answers start (analyze scope) ((analysisOf scope start).mapError Fault.setting) := by
  have analysed := (answers_index scope start).bind
    (fun index => (Analysis.ofIndex scope index).mapError Fault.setting)
    fun index _ => answers_orThrow start _
  unfold analysisOf
  cases found : indexOf scope start with
  | ok index =>
    rw [found] at analysed
    exact analysed
  | error problem =>
    rw [found] at analysed
    exact analysed

/-- The analysis depends on nothing but the files below the root. -/
theorem analysisOf_congr {scope : Scope} {start other : Disk} (proper : start.Proper)
    (same : ∀ rest, other.file? (scope.root ++ rest) = start.file? (scope.root ++ rest)) :
    analysisOf scope other = analysisOf scope start := by
  have paths := Disk.filesBelow_perm same
  have texts : ∀ path ∈ (Discovery.ofPaths scope (start.filesBelow scope.root)).sources,
      sourceText scope other path = sourceText scope start path := by
    intro path listed
    have inside := (Discovery.mem_inScope.mp (List.mem_filter.mp listed).1).1.1
    obtain ⟨plain, present⟩ := proper.mem_filesBelow inside
    obtain ⟨content, found⟩ := Option.isSome_iff_exists.mp present
    have also := same (fieldsOf '/' path)
    rw [← plain.follow, found] at also
    rw [sourceText, sourceText, textAt, textAt, (start.read_eq_ok_iff _ _).mpr found,
      (other.read_eq_ok_iff _ _).mpr also]
  have indexed : indexOf scope other = indexOf scope start := by
    rw [indexOf, indexOf, ← SourceIndex.ofTree_congr texts, SourceIndex.ofTree, SourceIndex.ofTree,
      Discovery.ofPaths_perm scope paths]
  rw [analysisOf, analysisOf, indexed]

/-- An indexed file has a plain path, and it is there below the root. -/
theorem exists_of_indexed {scope : Scope} {start : Disk} (proper : start.Proper)
    {read : String → Except ReadProblem String} {index : SourceIndex}
    (built : SourceIndex.ofTree scope (start.filesBelow scope.root) read = .ok index)
    {path : String} {file : SourceFile} (found : index.file? path = some file) :
    Path.IsPlain path ∧ (start.file? (scope.root.follow path)).isSome :=
  proper.mem_filesBelow (SourceIndex.mem_paths_of_file? built found)

end Reading

/-- Analysing fails only on a setting that is meant to be a text and is none. -/
theorem misfit_of_analysisOf {scope : Scope} {start : Disk} {problem : SettingProblem}
    (failed : analysisOf scope start = .error problem) :
    scope.sourceAlias.isMisfit = true ∨ ∃ glob ∈ scope.retain, glob.isText = false := by
  cases indexed : indexOf scope start with
  | error refused =>
    unfold indexOf SourceIndex.ofTree SourceIndex.resolved at indexed
    dsimp only at indexed
    split at indexed
    · next misfit => exact Or.inl (Bool.and_eq_true_iff.mp misfit).1
    · exact absurd indexed (by simp)
  | ok index =>
    rw [analysisOf, indexed] at failed
    refine Or.inr ?_
    rcases Classification.decided_cases scope (UsageGraph.ofIndex index) with
      same | ⟨_, -, _, -, -, unusable⟩
    · simp [bind, Except.bind, Analysis.ofIndex, same, pure, Except.pure] at failed
    · exact unusable

/-- An analysis accounts for all files of the source tree and leaves the disk as it is. It can fail
only on a setting that is meant to be a text and is none. -/
theorem analyze_accounts {disk : Disk} (proper : disk.Proper) (scope : Scope) :
    (∃ analysis, runOn (analyze scope) disk = (.ok analysis, disk) ∧
      Analysis.Accounted (Discovery.ofPaths scope (disk.filesBelow scope.root)) analysis) ∨
    ∃ problem, runOn (analyze scope) disk = (.error (.setting problem), disk) ∧
      (scope.sourceAlias.isMisfit = true ∨ ∃ glob ∈ scope.retain, glob.isText = false) := by
  have ran := (answers_analyze scope disk).runOn
  cases found : analysisOf scope disk with
  | ok analysis =>
    obtain ⟨index, built, analysed⟩ := bind_eq_ok.mp found
    rw [found] at ran
    refine Or.inl ⟨analysis, ran, Analysis.accounted_ofIndex (fun path listed => ?_) built analysed⟩
    exact (proper.mem_filesBelow listed).1
  | error problem =>
    rw [found] at ran
    exact Or.inr ⟨problem, ran, misfit_of_analysisOf found⟩

/-- A page that uses a style sheet, a file that nobody uses, one with a comment that never ends and
one in a folder that stays out. -/
def untidyPages : Disk :=
  ⟨.ofList [(["src"], .folder), (["src", "old"], .folder),
    (["src", "old", "Shop.tsx"], .file "export const Shop = 1;\n".toUTF8),
    (["src", "Home.tsx"], .file "import './home.css';\nexport const Home = 1;\n".toUTF8),
    (["src", "home.css"], .file "a".toUTF8),
    (["src", "unused.ts"], .file "export const unused = 1;\n".toUTF8),
    (["src", "broken.ts"], .file "/* never closed".toUTF8)]⟩

/-- The scope of one feature that enters the page. -/
def untidyScope : Scope where
  root := ["src"]
  features := [⟨"home", ["Home.tsx"], []⟩]
  excluded := ["old"]
  retain := []
  sourceAlias := .text "@/"
  targetAlias := .text "@/"
  bucket kind := .text kind.usualBucket
  storage := .usual
  contract := []
  jobs := 4
  configFile := none

/-- The page refers to its style sheet, if that is known. -/
theorem targets_refsOf_untidyHome {known : List String} {source : SourceIndex.ReadFile}
    (path : source.path = "Home.tsx")
    (imported : source.found.imports = [⟨"./home.css", ["*"], 1, ⟨8, 18⟩, false, false⟩])
    (style : "home.css" ∈ known) :
    (SourceIndex.refsOf "@/" known source).map (·.target) = [some "home.css"] := by
  have leads : SourceIndex.targetOf "@/" known "Home.tsx"
      ⟨"./home.css", ["*"], 1, ⟨8, 18⟩, false, false⟩ = some "home.css" :=
    List.find?_cons_of_pos (List.contains_iff_mem.mpr style)
  rw [SourceIndex.refsOf, imported, path]
  simp only [List.flatMap_cons, List.flatMap_nil, List.map_cons, List.map_nil, List.append_nil,
    leads]

section Untidy

variable {index : SourceIndex} (built : indexOf untidyScope untidyPages = .ok index)

include built

/-- The page, its style sheet and the file that nobody uses are indexed. -/
theorem isSome_untidy {path : String} (listed : path ∈ ["Home.tsx", "home.css", "unused.ts"]) :
    (index.file? path).isSome := by
  have kept : (Code.isSource path ∧
        (SourceIndex.readFile (sourceText untidyScope untidyPages) path).toOption.isSome) ∨
      Discovery.endsInOneOf assetExtensions path := by
    revert path
    decide +kernel
  have discovered : path ∈ (Discovery.ofPaths untidyScope
      (untidyPages.filesBelow untidyScope.root)).inScope := by
    refine Discovery.mem_inScope.mpr ?_
    clear kept
    revert path
    decide +kernel
  refine (SourceIndex.file?_isSome_iff built path).mpr
    (kept.imp (fun ⟨source, readable⟩ => ?_) fun asset => List.mem_filter.mpr ⟨discovered, asset⟩)
  obtain ⟨file, same⟩ := Option.isSome_iff_exists.mp readable
  exact ⟨List.mem_filter.mpr ⟨discovered, source⟩, file, eq_ok_of_toOption same⟩

/-- The only target of the page is its style sheet. -/
theorem exists_untidyHome : ∃ file, index.file? "Home.tsx" = some file ∧
    file.imports.map (·.target) = [some "home.css"] := by
  have text : ((SourceIndex.readFile (sourceText untidyScope untidyPages) "Home.tsx").toOption.map
      (·.found.imports)) = some [⟨"./home.css", ["*"], 1, ⟨8, 18⟩, false, false⟩] := by
    decide +kernel
  obtain ⟨source, readable, imported⟩ := Option.map_eq_some_iff.mp text
  obtain ⟨file, found⟩ := Option.isSome_iff_exists.mp
    (isSome_untidy built (by decide : "Home.tsx" ∈ _))
  obtain ⟨other, -, same, rfl⟩ := (SourceIndex.file?_ofTree built found).resolve_right
    fun asset => absurd (List.mem_filter.mp asset.1).2 (by decide)
  obtain rfl := Except.ok.inj ((eq_ok_of_toOption readable).symm.trans same)
  have style : "home.css" ∈ SourceIndex.knownPaths untidyScope
      (untidyPages.filesBelow untidyScope.root) (sourceText untidyScope untidyPages) := by
    refine List.mem_append_left _ (List.mem_append_right _ (List.mem_filter.mpr ⟨?_, by decide⟩))
    exact Discovery.mem_inScope.mpr (by decide +kernel)
  exact ⟨_, found,
    targets_refsOf_untidyHome (SourceIndex.readFile_ok same).1 imported style⟩

/-- The page imports its style sheet and nothing else. -/
theorem imports_untidyHome_iff (target : String) :
    UsageGraph.Imports index "Home.tsx" target ↔ target = "home.css" := by
  obtain ⟨file, found, targets⟩ := exists_untidyHome built
  have leads : (∃ ref ∈ file.imports, ref.target = some target) ↔ target = "home.css" := by
    rw [← List.mem_map, targets, List.mem_singleton, Option.some.injEq]
  constructor
  · rintro ⟨_, again, ref, listed, led, -⟩
    obtain rfl := Option.some.inj (found.symm.trans again)
    exact leads.mp ⟨ref, listed, led⟩
  · intro same
    obtain ⟨ref, listed, led⟩ := leads.mpr same
    refine ⟨file, found, ref, listed, led, Option.isSome_iff_exists.mp (isSome_untidy built ?_)⟩
    rw [same]
    decide

/-- The style sheet imports nothing. -/
theorem not_imports_untidyStyle (target : String) :
    ¬ UsageGraph.Imports index "home.css" target := by
  rintro ⟨file, found, ref, listed, -⟩
  rcases SourceIndex.file?_ofTree built found with ⟨_, source, -⟩ | ⟨-, rfl⟩
  · exact absurd (List.mem_filter.mp source).2 (by decide)
  · exact absurd listed List.not_mem_nil

/-- The feature reaches the page and its style sheet. -/
theorem reachedBy_untidy_iff (path name : String) :
    Classification.ReachedBy untidyScope (.ofIndex index) path name ↔
      name = "home" ∧ path ∈ ["Home.tsx", "home.css"] := by
  have consistent := SourceIndex.consistent_ofTree built
  have edges := UsageGraph.mem_successors_ofIndex consistent.labelled
  constructor
  · rintro ⟨feature, declared, rfl, entry, entered, -, route⟩
    obtain rfl := List.mem_singleton.mp declared
    obtain rfl := List.mem_singleton.mp entered
    refine ⟨rfl, ComponentSearch.leads_within _ (fun path listed successor adjacent => ?_)
      List.mem_cons_self route⟩
    rw [edges] at adjacent
    rcases List.mem_pair.mp listed with rfl | rfl
    · rw [(imports_untidyHome_iff built successor).mp adjacent]
      decide
    · exact absurd adjacent (not_imports_untidyStyle built successor)
  · rintro ⟨rfl, listed⟩
    refine ⟨_, List.mem_singleton_self _, rfl, "Home.tsx", List.mem_singleton_self _, ?_, ?_⟩
    · exact (UsageGraph.mem_files_ofIndex consistent.labelled _).mpr
        (Option.isSome_iff_exists.mp (isSome_untidy built (by decide)))
    · rcases List.mem_pair.mp listed with rfl | rfl
      · exact Relation.ReflTransGen.refl
      · exact UsageGraph.reaches_of_import consistent ((imports_untidyHome_iff built _).mpr rfl)

/-- Of the indexed files those are unreached that the feature does not reach. -/
theorem mem_unreached_untidy_iff {path : String}
    (listed : path ∈ ["Home.tsx", "home.css", "unused.ts"]) :
    path ∈ (Classification.ofGraph untidyScope (.ofIndex index)).unreached ↔
      path ∉ ["Home.tsx", "home.css"] := by
  have graph := UsageGraph.ofIndex_built index
  have inside := (UsageGraph.mem_files_ofIndex (SourceIndex.consistent_ofTree built).labelled
    path).mpr (Option.isSome_iff_exists.mp (isSome_untidy built listed))
  have kept : path ∉ (Classification.ofGraph untidyScope (.ofIndex index)).retained := by
    rw [Classification.mem_retained _ graph]
    rintro ⟨-, -, root, -, -, keeps, -⟩
    cases keeps
  have reached (name : String) :
      name ∈ (Classification.ofGraph untidyScope (.ofIndex index)).reachingOf path ↔
        name = "home" ∧ path ∈ ["Home.tsx", "home.css"] :=
    (Classification.mem_reachingIn untidyScope graph inside name).trans
      (reachedBy_untidy_iff built path name)
  rw [Classification.mem_unreached, and_iff_right inside, and_iff_right kept,
    List.eq_nil_iff_forall_not_mem]
  simp only [reached, not_and]
  exact ⟨fun apart => apart "home" rfl, fun apart _ _ => apart⟩

end Untidy

/-- The page and its style sheet are planned, the file that nobody uses is unreached, the one that
cannot be read is reported, and the one in the excluded folder is recorded. -/
theorem analyze_accounts_untidyPages :
    Scope.ofValue ["src"] (.table [
        ("features", .table [
          ("home", .table [("entry_points", .list [.text "Home.tsx"])])]),
        ("excluded", .list [.text "old"])]) = .ok untidyScope ∧
      untidyPages.Proper ∧
      ∃ analysis, runOn (analyze untidyScope) untidyPages = (.ok analysis, untidyPages) ∧
        Analysis.Accounted (Discovery.ofPaths untidyScope (untidyPages.filesBelow ["src"]))
          analysis ∧
        "Home.tsx" ∈ analysis.layout.moves.values.map (·.source) ∧
        "home.css" ∈ analysis.layout.moves.values.map (·.source) ∧
        "unused.ts" ∈ analysis.classification.unreached ∧
        (∃ problem ∈ analysis.errors, problem.IsUnread "broken.ts") ∧
        "old/Shop.tsx" ∈ analysis.index.excluded := by
  have proper : untidyPages.Proper := Disk.proper_of_keys (by decide)
  obtain ⟨analysis, ran, accounted⟩ := (analyze_accounts proper untidyScope).resolve_right
    fun ⟨_, _, misfit⟩ => misfit.elim (by decide) fun ⟨_, listed, _⟩ => List.not_mem_nil listed
  have analysed : analysisOf untidyScope untidyPages = .ok analysis := by
    have answered := (answers_analyze untidyScope untidyPages).runOn
    rw [ran] at answered
    exact eq_ok_of_mapError (Prod.mk.inj answered).1.symm
  obtain ⟨index, built, same⟩ := bind_eq_ok.mp analysed
  obtain ⟨classification, decided, same⟩ := bind_eq_ok.mp same
  obtain rfl := Classification.eq_of_decided decided
  obtain rfl := Except.ok.inj same
  have planned {path : String} (listed : path ∈ ["Home.tsx", "home.css"]) :
      path ∈ (Layout.ofOwners untidyScope index
        (Classification.ofGraph untidyScope (.ofIndex index)).owners).moves.values.map
          (·.source) := by
    have indexed : path ∈ ["Home.tsx", "home.css", "unused.ts"] :=
      List.mem_append_left ["unused.ts"] listed
    have once := accounted.placed path (isSome_untidy built indexed)
    have reached : path ∉ (Classification.ofGraph untidyScope (.ofIndex index)).unreached :=
      fun unowned => (mem_unreached_untidy_iff built indexed).mp unowned listed
    dsimp only at once
    rw [List.count_eq_zero.mpr reached, Nat.add_zero] at once
    exact List.count_pos_iff.mp (by rw [once]; exact Nat.one_pos)
  refine ⟨rfl, proper, _, ran, accounted, planned (by decide), planned (by decide),
    (mem_unreached_untidy_iff built (by decide)).mpr (by decide), ?_, ?_⟩
  · have broken : "broken.ts" ∈ (Discovery.ofPaths untidyScope
        (untidyPages.filesBelow untidyScope.root)).sources :=
      List.mem_filter.mpr ⟨Discovery.mem_inScope.mpr (by decide +kernel), by decide⟩
    obtain ⟨problem, failed⟩ : ∃ problem, SourceIndex.readFile
        (sourceText untidyScope untidyPages) "broken.ts" = .error problem := ⟨_, rfl⟩
    obtain ⟨said, listed, unread⟩ :=
      (SourceIndex.exists_isUnread_iff built).mpr ⟨broken, problem, failed⟩
    exact ⟨said, List.mem_append_left _ (List.mem_append_left _ listed), unread⟩
  · rw [accounted.excluded.1]
    exact Discovery.mem_excluded.mpr (by decide +kernel)

end Migration

end FeatureLayout
