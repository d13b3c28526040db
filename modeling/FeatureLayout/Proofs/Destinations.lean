import FeatureLayout.Proofs.Classification.Exact
import FeatureLayout.Proofs.Index.Build
import FeatureLayout.Proofs.Layout

/-!
# Where files are planned to

When the folders of the kinds are plain, every destination is a plain path in a folder, and it ends
in the name of its source. Since that name tells assets from source files, two moves with one
destination also have one module path; without conflicts, different moves have different
destinations.
-/

namespace FeatureLayout

open Text

/-- The name of a feature can be the name of a folder. -/
theorem Scope.isName_of_isFeatureName {name : String} (named : isFeatureName name = true) :
    Path.IsName name := by
  obtain ⟨first, rest, letters, lower, apart⟩ :
      ∃ first rest, name.toList = first :: rest ∧ 'a' ≤ first ∧ '/' ∉ rest := by
    have core (text : List Char) (plain : isPlainName text = true) :
        ∃ first rest, text = first :: rest ∧ 'a' ≤ first ∧ '/' ∉ rest := by
      cases text with
      | nil => exact absurd plain (by simp [isPlainName])
      | cons first rest =>
        simp only [isPlainName, Bool.and_eq_true, decide_eq_true_eq, List.all_eq_true] at plain
        refine ⟨first, rest, rfl, plain.1.1, fun slash => ?_⟩
        exact absurd (plain.2 '/' slash) (by decide)
    unfold isFeatureName at named
    dsimp only at named
    split at named
    · next broken =>
      obtain ⟨first, rest, letters, lower, apart⟩ := core _ named
      have whole := List.dropLast_append_getLast? '\n' broken
      rw [letters] at whole
      exact ⟨first, rest ++ ['\n'], whole.symm, lower, by simp [apart]⟩
    · exact core _ named
  have other (c : Char) (low : ¬ 'a' ≤ c) : first ≠ c := by
    rintro rfl
    exact low lower
  refine ⟨?_, ?_, ?_, ?_⟩
  · rintro rfl
    simp at letters
  · rintro rfl
    exact other '.' (by decide) (List.cons.inj letters).1.symm
  · rintro rfl
    exact other '.' (by decide) (List.cons.inj letters).1.symm
  · rw [letters, List.mem_cons, not_or]
    exact ⟨fun same => other '/' (by decide) same.symm, apart⟩

/-- An owner that a classification for a scope can give to a file. -/
def Scope.CanOwn (scope : Scope) (owner : Owner) : Prop :=
  ∃ graph classification path, UsageGraph.Built graph ∧
    Classification.decided scope graph = .ok classification ∧
    classification.owner? path = some owner

/-- A feature that can own a file is named as a folder can be. -/
theorem Scope.CanOwn.isName {base : Location} {config : Value} {scope : Scope}
    (accepted : Scope.ofValue base config = .ok scope) {name : String}
    (owns : scope.CanOwn (.feature name)) : Path.IsName name := by
  obtain ⟨graph, classification, path, built, decided, owned⟩ := owns
  obtain rfl := Classification.eq_of_decided decided
  obtain ⟨feature, declared, rfl⟩ := Classification.exists_feature_of_owner? scope built owned
  exact Scope.isName_of_isFeatureName (Scope.ofValue_admitted accepted feature declared).named

namespace Layout

variable {scope origin : Scope} {index : SourceIndex} {owners : Ledger String Owner}

/-- A destination lies in a folder. -/
theorem exists_folder (scope : Scope) (source : String) (owner : Owner) (kind : SymbolKind) :
    ∃ folder, destinationOf scope source owner kind = folder ++ "/" ++ Path.baseName source := by
  unfold destinationOf
  cases owner with
  | shared => exact ⟨_, rfl⟩
  | feature name =>
    refine ⟨featuresFolder ++ "/" ++ name ++ "/" ++ (scope.bucket kind).display, ?_⟩
    simp only [String.append_assoc]

/-- The destinations of owners with proper names are plain. -/
theorem isPlain_destinationOf (buckets : ∀ kind, Path.IsPlain (scope.bucket kind).display)
    {source : String} (plain : Path.IsPlain source) {owner : Owner}
    (named : ∀ name, owner = .feature name → Path.IsName name) (kind : SymbolKind) :
    Path.IsPlain (destinationOf scope source owner kind) := by
  have place := (buckets kind).append plain.baseName.isPlain
  unfold destinationOf
  cases owner with
  | shared => exact place
  | feature name =>
    have outer : Path.IsName featuresFolder := by decide
    exact (outer.isPlain.append (named name rfl).isPlain).append place

/-- A destination has several pieces. -/
theorem fieldsOf_destinationOf_ne (source : String) (owner : Owner) (kind : SymbolKind)
    (name : String) : fieldsOf '/' (destinationOf scope source owner kind) ≠ [name] := by
  obtain ⟨folder, same⟩ := exists_folder scope source owner kind
  rw [same, fieldsOf_slash]
  intro single
  have lengths := congrArg List.length single
  have front := List.length_pos_iff.mpr (fieldsOf_ne_nil '/' folder)
  have back := List.length_pos_iff.mpr (fieldsOf_ne_nil '/' (Path.baseName source))
  simp only [List.length_append, List.length_singleton] at lengths
  omega

/-- The base name of a source tells whether it is a source file. -/
theorem isSource_congr {first second : String} (plain : Path.IsPlain first)
    (also : Path.IsPlain second) (same : Path.baseName first = Path.baseName second) :
    Code.isSource first = Code.isSource second := by
  simp only [Code.isSource, Path.extension, plain.fileName, also.fileName, same]

/-- A planned move with the file that it moves. -/
theorem exists_file_of_mem {move : Move}
    (listed : move ∈ (ofOwners scope index owners).moves.values) :
    ∃ owner file, owners.find? move.source = some owner ∧ index.file? move.source = some file ∧
      move = moveOf scope file move.source owner := by
  have found := ((ofOwners_keyed scope index owners).mem_values_iff move).mp listed
  obtain ⟨owner, file, owned, indexed, same⟩ := (move?_ofOwners scope index owners _ _).mp found
  exact ⟨owner, file, owned, indexed, same.symm⟩

/-- What the planned move of a file of a tree looks like. -/
structure Placed (move : Move) : Prop where
  source : Path.IsPlain move.source
  /-- Hidden files are not planned. -/
  visible : startsWith (Path.baseName move.source) "." = false
  folder : ∃ folder, move.destination = folder ++ "/" ++ Path.baseName move.source
  path : move.modulePath = modulePathOf move.destination (!Code.isSource move.source)

/-- Every planned move of a tree looks like that. -/
theorem placed_of_mem {paths : List String} {read : String → Except ReadProblem String}
    (built : SourceIndex.ofTree origin paths read = .ok index)
    (plain : ∀ path ∈ paths, Path.IsPlain path) {move : Move}
    (listed : move ∈ (ofOwners scope index owners).moves.values) : Placed move := by
  obtain ⟨owner, file, -, found, same⟩ := exists_file_of_mem listed
  have proper := plain _ (SourceIndex.mem_paths_of_file? built found)
  constructor
  case source => exact proper
  case visible => exact SourceIndex.startsWith_baseName built found
  case folder =>
    obtain ⟨folder, within⟩ := exists_folder scope move.source owner file.kind
    refine ⟨folder, ?_⟩
    rw [← within, same]
    rfl
  case path =>
    rw [← SourceIndex.isAsset_iff built proper found, same]
    rfl

/-- A destination ends in the name of its source. -/
theorem Placed.baseName {move : Move} (placed : Placed move) :
    Path.baseName move.destination = Path.baseName move.source := by
  obtain ⟨folder, within⟩ := placed.folder
  rw [within, Path.baseName_append folder placed.source.baseName]

/-- Moves without conflicts have different destinations. -/
theorem destinations_nodup {paths : List String} {read : String → Except ReadProblem String}
    (built : SourceIndex.ofTree origin paths read = .ok index)
    (plain : ∀ path ∈ paths, Path.IsPlain path)
    (distinct : ((ofOwners scope index owners).moves.values.map (·.modulePath)).Nodup) :
    ((ofOwners scope index owners).moves.values.map (·.destination)).Nodup := by
  refine List.Nodup.map_on ?_ (List.Nodup.of_map _ distinct)
  intro first listed second also same
  refine List.inj_on_of_nodup_map distinct listed also ?_
  have one := placed_of_mem built plain listed
  have two := placed_of_mem built plain also
  have names : Path.baseName first.source = Path.baseName second.source := by
    rw [← one.baseName, ← two.baseName, same]
  rw [one.path, two.path, same, isSource_congr one.source two.source names]

/-- The planned destinations of a tree are plain. -/
theorem isPlain_of_mem {paths : List String} {read : String → Except ReadProblem String}
    (built : SourceIndex.ofTree origin paths read = .ok index)
    (plain : ∀ path ∈ paths, Path.IsPlain path)
    (buckets : ∀ kind, Path.IsPlain (scope.bucket kind).display)
    (named : ∀ path name, owners.find? path = some (.feature name) → Path.IsName name)
    {move : Move} (listed : move ∈ (ofOwners scope index owners).moves.values) :
    Path.IsPlain move.destination := by
  obtain ⟨owner, file, owned, found, same⟩ := exists_file_of_mem listed
  have proper := plain _ (SourceIndex.mem_paths_of_file? built found)
  rw [same]
  exact isPlain_destinationOf buckets proper (fun name ofFeature => named _ name (ofFeature ▸ owned))
    file.kind

end Layout

end FeatureLayout
