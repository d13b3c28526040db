import FeatureLayout.Index.Build
import FeatureLayout.Proofs.Basic
import FeatureLayout.Proofs.Ledger
import FeatureLayout.Proofs.Path
import FeatureLayout.Proofs.Text.Sorted
import Mathlib.Data.List.TakeWhile

/-!
# What an index of a tree holds

Every indexed file is one of the files of the tree: a source file with its text, or an asset without
one. Which of the two it is can be told from its path alone.
-/

namespace FeatureLayout

open Text

/-- An extension of source files is a dot and some letters. -/
theorem Code.exists_letters {ending : String} (listed : ending ∈ Code.sourceExtensions) :
    ∃ letters, ending = String.ofList ('.' :: letters) ∧ letters ≠ [] ∧ '.' ∉ letters ∧
      '/' ∉ letters := by
  have shape : ∀ ending ∈ Code.sourceExtensions,
      ending = String.ofList ('.' :: ending.toList.tail) ∧ ending.toList.tail ≠ [] ∧
        '.' ∉ ending.toList.tail ∧ '/' ∉ ending.toList.tail := by
    decide
  exact ⟨_, shape ending listed⟩

namespace Discovery

variable {scope : Scope} {paths : List String} {path : String}

/-- The order of a walk is one for all ways to list the files of a tree. -/
theorem walkOrder_perm {others : List String} (same : paths.Perm others) :
    walkOrder paths = walkOrder others := by
  refine (sorts_listAtMost.on (fieldsOf '/')).mergeSort_congr same ?_
  intro first _ second _ before after
  exact Path.eq_of_fieldsOf (tellsApart_listAtMost _ _ before after)

/-- What is discovered does not depend on the order in which the files of a tree are listed. -/
theorem ofPaths_perm (scope : Scope) {others : List String} (same : paths.Perm others) :
    ofPaths scope paths = ofPaths scope others := by
  rw [ofPaths, ofPaths, walkOrder_perm same]

/-- The files of a tree that are kept. -/
theorem mem_inScope : path ∈ (ofPaths scope paths).inScope ↔
    (path ∈ paths ∧ isSkipped path = false) ∧ scope.isExcluded path = false ∧
      endsInOneOf (Code.sourceExtensions ++ assetExtensions) path = true := by
  simp only [ofPaths, walkOrder, List.mem_filter, (List.mergeSort_perm _ _).mem_iff]
  simp [and_assoc]

/-- The files of a tree that are only remembered. -/
theorem mem_excluded : path ∈ (ofPaths scope paths).excluded ↔
    (path ∈ paths ∧ isSkipped path = false) ∧ scope.isExcluded path = true := by
  simp only [ofPaths, walkOrder, List.mem_filter, (List.mergeSort_perm _ _).mem_iff]
  simp

/-- The name of a file that is not skipped does not start with a dot. -/
theorem startsWith_baseName (kept : isSkipped path = false) :
    startsWith (Path.baseName path) "." = false := by
  have last : Path.baseName path ∈ fieldsOf '/' path := by
    rw [Path.fieldsOf_eq_dropLast_append path]
    exact List.mem_append_right _ List.mem_cons_self
  have plain := List.any_eq_false.mp kept _ last
  rw [Bool.or_eq_true, not_or] at plain
  exact Bool.eq_false_iff.mpr plain.1

/-- No asset has the extension of a source file. -/
theorem not_isSource_of_asset (plain : Path.IsPlain path)
    (ends : endsInOneOf assetExtensions path = true) : Code.isSource path = false := by
  obtain ⟨extension, listed, suffix⟩ := List.any_eq_true.mp ends
  have apart : ∀ extension ∈ assetExtensions,
      extension.toList.head? = some '.' ∧ '.' ∉ extension.toList.tail ∧
        extension ∉ Code.sourceExtensions ∧ "" ∉ Code.sourceExtensions := by
    decide
  obtain ⟨dot, single, other, empty⟩ := apart extension listed
  obtain ⟨front, whole⟩ := List.isSuffixOf_iff_suffix.mp suffix
  obtain ⟨letters, shape⟩ := List.head?_eq_some_iff.mp dot
  rw [shape, List.tail_cons] at single
  have ending : Path.ending path.toList = letters := by
    rw [← whole, shape, Path.ending_append _ List.mem_cons_self, Path.ending, List.reverse_cons,
      List.takeWhile_append]
    have all : letters.reverse.takeWhile (· != '.') = letters.reverse := by
      refine List.takeWhile_eq_self_iff.mpr fun c present => ?_
      have differ : c ≠ '.' := by
        rintro rfl
        exact single (List.mem_reverse.mp present)
      simpa using differ
    simp [all]
  have same : String.ofList ('.' :: letters) = extension := by
    rw [← shape, String.ofList_toList]
  rw [Code.isSource, List.contains_eq_mem, decide_eq_false_iff_not]
  rcases plain.extension with none | found
  · rwa [none]
  · rwa [found, ending, same]

/-- A file that is not hidden and ends in an extension of source files has that extension. -/
theorem isSource_of_ending (plain : Path.IsPlain path)
    (visible : startsWith (Path.baseName path) "." = false)
    (ends : endsInOneOf Code.sourceExtensions path = true) : Code.isSource path = true := by
  obtain ⟨extension, listed, suffix⟩ := List.any_eq_true.mp ends
  obtain ⟨letters, rfl, some, single, apart⟩ := Code.exists_letters listed
  have slashes : '/' ∉ '.' :: letters := by simp [apart]
  have trailing : '.' :: letters <:+ path.toList := by
    simpa using List.isSuffixOf_iff_suffix.mp suffix
  obtain ⟨front, whole⟩ := Path.suffix_baseName slashes trailing
  have filled : front ≠ [] := by
    rintro rfl
    rw [startsWith, ← whole] at visible
    exact absurd visible (by simp)
  rw [Code.isSource, Path.extension, plain.fileName, ← whole, Path.cutName_append filled some single]
  exact List.contains_iff_mem.mpr listed

/-- A kept file is a source file or an asset. -/
theorem mem_sources_or_assets (plain : Path.IsPlain path)
    (listed : path ∈ (ofPaths scope paths).inScope) :
    path ∈ (ofPaths scope paths).sources ∨ path ∈ (ofPaths scope paths).assets := by
  obtain ⟨⟨-, kept⟩, -, ends⟩ := mem_inScope.mp listed
  rw [endsInOneOf, List.any_append, Bool.or_eq_true] at ends
  refine ends.imp (fun source => List.mem_filter.mpr ⟨listed, ?_⟩)
    fun asset => List.mem_filter.mpr ⟨listed, asset⟩
  exact isSource_of_ending plain (startsWith_baseName kept) source

/-- No source file is an asset. -/
theorem not_mem_assets (plain : Path.IsPlain path) (listed : path ∈ (ofPaths scope paths).sources) :
    path ∉ (ofPaths scope paths).assets := by
  intro also
  have source := (List.mem_filter.mp listed).2
  rw [not_isSource_of_asset plain (List.mem_filter.mp also).2] at source
  exact absurd source (by simp)

end Discovery

namespace SymbolKind

/-- The folder of a file never makes it an asset. -/
theorem ofFolder?_ne_asset (folder : String) : ofFolder? folder ≠ some .asset := by
  unfold ofFolder?
  split <;> simp

/-- The declaration of a symbol never makes it an asset. -/
theorem infer_ne_asset (name declaration path : String) : infer name declaration path ≠ .asset := by
  unfold infer
  dsimp only
  split_ifs <;> decide

/-- The strongest of some kinds is one of them. -/
theorem strongest_mem (best : SymbolKind) (kinds : List SymbolKind) :
    strongest best kinds = best ∨ strongest best kinds ∈ kinds := by
  induction kinds generalizing best with
  | nil => exact Or.inl rfl
  | cons kind rest inductionHypothesis =>
    unfold strongest
    split
    · exact Or.inr (List.mem_cons.mpr (inductionHypothesis kind))
    · exact (inductionHypothesis best).imp_right (List.mem_cons_of_mem kind)

/-- A file whose exports are no assets is no asset. -/
theorem ofFile_ne_asset {exported : List (String × SymbolKind)}
    (symbols : ∀ symbol ∈ exported, symbol.2 ≠ .asset) (path : String) :
    ofFile exported path ≠ .asset := by
  unfold ofFile
  split
  · next name kind found => exact symbols _ (List.mem_of_find?_eq_some found)
  · next name first rest absent =>
    rcases strongest_mem first (rest.map Prod.snd) with same | listed
    · rw [same]
      exact symbols (name, first) List.mem_cons_self
    · obtain ⟨symbol, present, same⟩ := List.mem_map.mp listed
      rw [← same]
      exact symbols symbol (List.mem_cons_of_mem _ present)
  · cases found : (Path.folders path).reverse.findSome? ofFolder? with
    | none =>
      rw [Option.getD_none]
      exact infer_ne_asset _ _ _
    | some kind =>
      obtain ⟨folder, -, stands⟩ := List.exists_of_findSome?_eq_some found
      rw [Option.getD_some]
      rintro rfl
      exact ofFolder?_ne_asset folder stands

end SymbolKind

/-- A module that is read off a text is no asset. -/
theorem Code.Module.kind_ne_asset {text : List Char} {path : String} {found : Code.Module}
    (read : Code.Module.ofText text path = .ok found) : found.kind ≠ .asset := by
  obtain ⟨masked, -, same⟩ := bind_eq_ok.mp read
  obtain rfl := Except.ok.inj same
  refine SymbolKind.ofFile_ne_asset ?_ path
  intro symbol listed
  obtain ⟨exported, present, rfl⟩ := List.mem_map.mp listed
  obtain ⟨candidate, -, rfl⟩ := List.mem_map.mp present
  exact SymbolKind.infer_ne_asset _ _ _

namespace SourceIndex

variable {scope : Scope} {paths : List String} {read : String → Except ReadProblem String}
  {index : SourceIndex}

/-- A source file that was read. -/
theorem readFile_ok {path : String} {file : ReadFile} (found : readFile read path = .ok file) :
    file.path = path ∧ read path = .ok file.content ∧
      Code.Module.ofText file.content.toList path = .ok file.found := by
  unfold readFile at found
  split at found
  · exact absurd found (by simp)
  · next content opened =>
    split at found
    · exact absurd found (by simp)
    · next module scanned =>
      obtain rfl := Except.ok.inj found
      exact ⟨rfl, opened, scanned⟩

/-- A source file without comments and exports is read off its text. -/
theorem readFile_of_imports {path content : String} {imports : List Code.Import}
    (opened : read path = .ok content)
    (plain : Code.maskComments content.toList = .ok content.toList)
    (silent : Code.Export.ofText content.toList path = [])
    (imported : Code.Import.ofText content.toList = imports) :
    readFile read path = .ok ⟨path, content, ⟨[], imports, .ofFile [] path⟩⟩ := by
  have parsed : Code.Module.ofText content.toList path = .ok ⟨[], imports, .ofFile [] path⟩ := by
    rw [Code.Module.ofText, plain, ← imported]
    simp only [bind, Except.bind, silent]
    rfl
  rw [readFile, opened]
  dsimp only
  rw [parsed]

/-- The source files of a tree that could be read. -/
def readFiles (scope : Scope) (paths : List String) (read : String → Except ReadProblem String) :
    List ReadFile :=
  sortedBy ReadFile.path
    (((Discovery.ofPaths scope paths).sources.map (readFile read)).filterMap success?)

/-- All paths that specifiers may lead to. -/
def knownPaths (scope : Scope) (paths : List String) (read : String → Except ReadProblem String) :
    List String :=
  (readFiles scope paths read).map (·.path) ++ (Discovery.ofPaths scope paths).assets ++
    (Discovery.ofPaths scope paths).excluded

theorem mem_readFiles {file : ReadFile} :
    file ∈ readFiles scope paths read ↔
      ∃ path ∈ (Discovery.ofPaths scope paths).sources, readFile read path = .ok file := by
  have succeeded (attempt : Except Diagnostic ReadFile) :
      success? attempt = some file ↔ attempt = .ok file := by
    cases attempt <;> simp [success?]
  simp [readFiles, (sortedBy_perm _ _).mem_iff, List.mem_filterMap, succeeded]

/-- The index of a tree without assets whose source files could all be read and whose imports all
lead somewhere, when everything comes in the order of its paths. -/
theorem ofTree_eq_of_read {discovery : Discovery} {opened : List ReadFile}
    {indexed : List SourceFile} {known : List String}
    (isText : scope.sourceAlias.isMisfit = false)
    (discovered : Discovery.ofPaths scope paths = discovery) (silent : discovery.assets = [])
    (readable : discovery.sources.map (readFile read) = opened.map .ok)
    (all : opened.map (·.path) ++ discovery.excluded = known)
    (resolved : opened.map (sourceFileOf scope.sourceAlias.content known) = indexed)
    (nothing : opened.flatMap (unresolvedOf scope.sourceAlias.content known) = [])
    (ordered : opened.Pairwise fun first second => atMost first.path second.path = true)
    (alsoOrdered : indexed.Pairwise fun first second => atMost first.path second.path = true) :
    ofTree scope paths read =
      .ok ⟨Ledger.ofList (indexed.map fun file => (file.path, file)), discovery.excluded, []⟩ := by
  let attempts : List (Except Diagnostic ReadFile) := opened.map .ok
  have succeeded : attempts.filterMap success? = opened := by
    simp [attempts, List.filterMap_map, Function.comp_def, success?]
  have failed : attempts.filterMap failure? = [] := by
    simp [attempts, List.filterMap_map, Function.comp_def, failure?]
  have sorted : sortedBy ReadFile.path opened = opened := List.mergeSort_of_pairwise ordered
  have alsoSorted : sortedBy SourceFile.path indexed = indexed :=
    List.mergeSort_of_pairwise alsoOrdered
  have attempted : ofAttempts scope discovery attempts =
      ⟨Ledger.ofList (indexed.map fun file => (file.path, file)), discovery.excluded, []⟩ := by
    simp only [ofAttempts, succeeded, failed, sorted, silent, List.append_nil,
      List.map_nil, all, resolved, nothing, alsoSorted]
  rw [ofTree, discovered, readable, SourceIndex.resolved, isText, Bool.false_and,
    if_neg Bool.false_ne_true]
  exact congrArg Except.ok attempted

/-- The indexed files are the source files that could be read, and the assets. -/
theorem file?_isSome_iff (built : ofTree scope paths read = .ok index) (path : String) :
    (index.file? path).isSome ↔
      (path ∈ (Discovery.ofPaths scope paths).sources ∧ ∃ file, readFile read path = .ok file) ∨
        path ∈ (Discovery.ofPaths scope paths).assets := by
  unfold ofTree resolved at built
  dsimp only at built
  split at built
  · exact absurd built (by simp)
  obtain rfl := Except.ok.inj built
  have listed := Ledger.contains_iff (ofAttempts scope (Discovery.ofPaths scope paths)
    ((Discovery.ofPaths scope paths).sources.map (readFile read))).files path
  refine listed.trans ?_
  simp only [ofAttempts, Ledger.mem_keys_ofList, List.map_map, Function.comp_def, List.mem_map,
    (sortedBy_perm _ _).mem_iff, List.mem_append, or_and_right, exists_or]
  refine or_congr ?_ (by simp [SourceFile.ofAsset])
  constructor
  · rintro ⟨_, ⟨file, opened, rfl⟩, rfl⟩
    obtain ⟨path, discovered, readable⟩ := mem_readFiles.mp ((sortedBy_perm _ _).mem_iff.mpr opened)
    obtain rfl := (readFile_ok readable).1
    exact ⟨discovered, file, readable⟩
  · rintro ⟨discovered, file, readable⟩
    exact ⟨_, ⟨file, (sortedBy_perm _ _).mem_iff.mp (mem_readFiles.mpr ⟨path, discovered, readable⟩),
      rfl⟩, (readFile_ok readable).1⟩

/-- What is said about an index names source files that could not be read, and imports that lead
nowhere. -/
theorem mem_errors_ofTree (built : ofTree scope paths read = .ok index) {problem : Diagnostic} :
    problem ∈ index.errors ↔
      (∃ path ∈ (Discovery.ofPaths scope paths).sources, readFile read path = .error problem) ∨
        ∃ file ∈ readFiles scope paths read,
          problem ∈ unresolvedOf scope.sourceAlias.content (knownPaths scope paths read) file := by
  unfold ofTree resolved at built
  dsimp only at built
  split at built
  · exact absurd built (by simp)
  obtain rfl := Except.ok.inj built
  have failed (attempt : Except Diagnostic ReadFile) :
      failure? attempt = some problem ↔ attempt = .error problem := by
    cases attempt <;> simp [failure?]
  simp only [ofAttempts, List.mem_append, List.mem_filterMap, List.mem_map, failed,
    exists_exists_and_eq_and, List.mem_flatMap]
  rfl

/-- An indexed file is a source file that was read, or an asset. -/
theorem file?_ofTree (built : ofTree scope paths read = .ok index) {path : String}
    {file : SourceFile} (found : index.file? path = some file) :
    (∃ source, path ∈ (Discovery.ofPaths scope paths).sources ∧
      readFile read path = .ok source ∧
      file = sourceFileOf scope.sourceAlias.content (knownPaths scope paths read) source) ∨
    (path ∈ (Discovery.ofPaths scope paths).assets ∧ file = .ofAsset path) := by
  unfold ofTree resolved at built
  dsimp only at built
  split at built
  · exact absurd built (by simp)
  obtain rfl := Except.ok.inj built
  have listed := Ledger.mem_of_find?_ofList found
  obtain ⟨stored, present, same⟩ := List.mem_map.mp listed
  obtain ⟨rfl, rfl⟩ := Prod.mk.inj same
  rw [(sortedBy_perm _ _).mem_iff, List.mem_append] at present
  rcases present with text | asset
  · obtain ⟨source, opened, rfl⟩ := List.mem_map.mp text
    obtain ⟨path, discovered, readable⟩ := mem_readFiles.mp opened
    obtain rfl := (readFile_ok readable).1
    exact Or.inl ⟨source, discovered, readable, rfl⟩
  · obtain ⟨path, discovered, rfl⟩ := List.mem_map.mp asset
    exact Or.inr ⟨discovered, rfl⟩

/-- Indexed files are in scope. -/
theorem mem_inScope_of_file? (built : ofTree scope paths read = .ok index) {path : String}
    {file : SourceFile} (found : index.file? path = some file) :
    path ∈ (Discovery.ofPaths scope paths).inScope := by
  rcases file?_ofTree built found with ⟨_, listed, -⟩ | ⟨listed, -⟩
  · exact (List.mem_filter.mp listed).1
  · exact (List.mem_filter.mp listed).1

/-- Indexed files are files of the tree. -/
theorem mem_paths_of_file? (built : ofTree scope paths read = .ok index) {path : String}
    {file : SourceFile} (found : index.file? path = some file) : path ∈ paths :=
  (Discovery.mem_inScope.mp (mem_inScope_of_file? built found)).1.1

/-- Indexed files are not hidden. -/
theorem startsWith_baseName (built : ofTree scope paths read = .ok index) {path : String}
    {file : SourceFile} (found : index.file? path = some file) :
    startsWith (Path.baseName path) "." = false := by
  exact Discovery.startsWith_baseName (Discovery.mem_inScope.mp (mem_inScope_of_file? built found)).1.2

/-- The path of an indexed file tells whether it is an asset. -/
theorem isAsset_iff (built : ofTree scope paths read = .ok index) {path : String}
    (plain : Path.IsPlain path) {file : SourceFile} (found : index.file? path = some file) :
    file.isAsset = !Code.isSource path := by
  rcases file?_ofTree built found with ⟨source, listed, readable, rfl⟩ | ⟨listed, rfl⟩
  · have other := Code.Module.kind_ne_asset (readFile_ok readable).2.2
    rw [(List.mem_filter.mp listed).2]
    simpa [SourceFile.isAsset, sourceFileOf] using other
  · rw [Discovery.not_isSource_of_asset plain (List.mem_filter.mp listed).2]
    rfl

/-- Exactly the assets have no text. -/
theorem content_eq_none_iff (built : ofTree scope paths read = .ok index) {path : String}
    {file : SourceFile} (found : index.file? path = some file) :
    file.content = none ↔ file.isAsset = true := by
  rcases file?_ofTree built found with ⟨source, listed, readable, rfl⟩ | ⟨listed, rfl⟩
  · have other := Code.Module.kind_ne_asset (readFile_ok readable).2.2
    simpa [SourceFile.isAsset, sourceFileOf] using other
  · simp [SourceFile.isAsset, SourceFile.ofAsset]

end SourceIndex

end FeatureLayout
