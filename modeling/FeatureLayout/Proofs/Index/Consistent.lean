import FeatureLayout.Proofs.Code.Import
import FeatureLayout.Proofs.Graph.Usage
import FeatureLayout.Proofs.Index.Build

/-!
# Indexes of trees are consistent

The imports of a module are those of its text without comments. Two imports with one span have one
specifier, because a span covers its specifier, so they lead to one file.
-/

namespace FeatureLayout

open Text

/-- Imported names that stem from the imports of a text, where each import has some. -/
structure ImportRef.Mirrors (refs : List ImportRef) (imports : List Code.Import) : Prop where
  forth : ∀ ref ∈ refs, ∃ found ∈ imports, ref.span = found.span ∧ ref.specifier = found.specifier
  back : ∀ found ∈ imports, ∃ ref ∈ refs, ref.span = found.span ∧ ref.specifier = found.specifier

namespace SourceIndex

section Refs

variable {shorthand : String} {known : List String} {file : ReadFile} {ref : ImportRef}

/-- Every imported name stems from an import of the text. -/
theorem exists_of_mem_refsOf (listed : ref ∈ refsOf shorthand known file) :
    ∃ found ∈ file.found.imports, ref.source = file.path ∧ ref.span = found.span ∧
      ref.specifier = found.specifier ∧ ref.target = targetOf shorthand known file.path found := by
  obtain ⟨found, inside, listed⟩ := List.mem_flatMap.mp listed
  obtain ⟨name, -, rfl⟩ := List.mem_map.mp listed
  exact ⟨found, inside, rfl, rfl, rfl, rfl⟩

/-- The imported names of a source file stem from the imports of its text. -/
theorem mirrors_refsOf (names : ∀ found ∈ file.found.imports, found.names ≠ []) :
    ImportRef.Mirrors (refsOf shorthand known file) file.found.imports := by
  constructor
  case forth =>
    intro ref listed
    obtain ⟨found, inside, -, span, specifier, -⟩ := exists_of_mem_refsOf listed
    exact ⟨found, inside, span, specifier⟩
  case back =>
    intro found inside
    obtain ⟨name, listed⟩ := List.exists_mem_of_ne_nil _ (names found inside)
    exact ⟨_, List.mem_flatMap.mpr ⟨found, inside, List.mem_map.mpr ⟨name, listed, rfl⟩⟩, rfl, rfl⟩

end Refs

variable {scope : Scope} {paths : List String} {read : String → Except ReadProblem String}
  {index : SourceIndex}

/-- The excluded files of an index are those of the tree. -/
theorem excluded_ofTree (built : ofTree scope paths read = .ok index) :
    index.excluded = (Discovery.ofPaths scope paths).excluded := by
  unfold ofTree resolved at built
  dsimp only at built
  split at built
  · exact absurd built (by simp)
  · obtain rfl := Except.ok.inj built
    rfl

/-- The index of a tree is consistent. -/
theorem consistent_ofTree (built : ofTree scope paths read = .ok index) : index.Consistent := by
  constructor
  case keyed =>
    intro path file found
    rcases file?_ofTree built found with ⟨source, -, readable, rfl⟩ | ⟨-, rfl⟩
    · exact (readFile_ok readable).1
    · rfl
  case exported =>
    intro path file found symbol listed
    rcases file?_ofTree built found with ⟨source, -, readable, rfl⟩ | ⟨-, rfl⟩
    · obtain ⟨exported, -, rfl⟩ := List.mem_map.mp listed
      exact (readFile_ok readable).1
    · exact absurd listed List.not_mem_nil
  case imported =>
    intro path file found ref listed
    rcases file?_ofTree built found with ⟨source, -, readable, rfl⟩ | ⟨-, rfl⟩
    · obtain ⟨-, -, same, -⟩ := exists_of_mem_refsOf listed
      exact same.trans (readFile_ok readable).1
    · exact absurd listed List.not_mem_nil
  case coherent =>
    intro path file found first listed second also same
    rcases file?_ofTree built found with ⟨source, -, readable, rfl⟩ | ⟨-, rfl⟩
    · obtain ⟨masked, -, imports⟩ :=
        Code.Module.exists_ofText_iff.mp ⟨source.found, (readFile_ok readable).2.2, rfl⟩
      obtain ⟨one, inside, -, span, -, target⟩ := exists_of_mem_refsOf listed
      obtain ⟨other, there, -, span', -, target'⟩ := exists_of_mem_refsOf also
      rw [← imports] at inside there
      have specifiers : one.specifier = other.specifier := by
        refine String.toList_inj.mp ?_
        rw [← (Code.Import.quoted_of_mem_ofText inside).of_eq,
          ← (Code.Import.quoted_of_mem_ofText there).of_eq, ← span, ← span', same]
      rw [target, target', targetOf, targetOf, specifiers]
    · exact absurd listed List.not_mem_nil
  case silent =>
    intro path file found asset
    rcases file?_ofTree built found with ⟨source, -, readable, rfl⟩ | ⟨-, rfl⟩
    · have other := Code.Module.kind_ne_asset (readFile_ok readable).2.2
      exact absurd (beq_iff_eq.mp asset) other
    · rfl
  case apart =>
    intro path file found excluded
    rw [excluded_ofTree built, Discovery.mem_excluded] at excluded
    have kept : scope.isExcluded path = false := by
      rcases file?_ofTree built found with ⟨-, listed, -⟩ | ⟨listed, -⟩
      · exact (Discovery.mem_inScope.mp (List.mem_filter.mp listed).1).2.1
      · exact (Discovery.mem_inScope.mp (List.mem_filter.mp listed).1).2.1
    rw [kept] at excluded
    exact absurd excluded.2 (by simp)

/-- The imported names of a file with a text stem from the imports of the text. -/
theorem exists_mirrors (built : ofTree scope paths read = .ok index) {path : String}
    {file : SourceFile} (found : index.file? path = some file) {content : String}
    (text : file.content = some content) :
    ∃ masked, Code.maskComments content.toList = .ok masked ∧
      ImportRef.Mirrors file.imports (Code.Import.ofText masked) := by
  rcases file?_ofTree built found with ⟨source, -, readable, rfl⟩ | ⟨-, rfl⟩
  · obtain ⟨masked, blanked, imports⟩ :=
      Code.Module.exists_ofText_iff.mp ⟨source.found, (readFile_ok readable).2.2, rfl⟩
    have same : source.content = content := Option.some.inj text
    refine ⟨masked, same ▸ blanked, ?_⟩
    rw [imports]
    refine mirrors_refsOf fun found listed => ?_
    rw [← imports] at listed
    exact Code.Import.names_ne_nil listed
  · exact absurd text (by simp [SourceFile.ofAsset])

end SourceIndex

end FeatureLayout
