import FeatureLayout.Proofs.Destinations
import FeatureLayout.Proofs.Index.Followed
import FeatureLayout.Rewrite.Imports
import Mathlib.Data.List.Permutation

/-!
# Where rewritten specifiers lead

A rewritten specifier is the alias of the target tree and the planned module path of a file. In the
target tree it leads to the planned destination of that file, unless another file is planned to the
module path itself, or the module path starts with two dots. Neither is a conflict of the layout:
`foo.ts` and `foo.ts.ts` are planned to different module paths, but the module path of the second
is the destination of the first.
-/

namespace FeatureLayout

open Text

namespace Layout

/-- A name in front of an extension: something that no slash is in and that is not hidden. -/
structure Front (front : List Char) : Prop where
  apart : '/' ∉ front
  visible : ∃ c rest, front = c :: rest ∧ c ≠ '.'

/-- A name in front of an extension is a name. -/
theorem Front.isName {front : List Char} (shape : Front front) :
    Path.IsName (String.ofList front) := by
  obtain ⟨c, rest, rfl, other⟩ := shape.visible
  have first : ∀ name : String, String.ofList (c :: rest) = name → name.toList.head? = some c := by
    rintro name rfl
    rw [String.toList_ofList, List.head?_cons]
  refine ⟨?_, ?_, ?_, ?_⟩
  · intro same
    cases first _ same
  · intro same
    exact other (Option.some.inj (first _ same)).symm
  · intro same
    exact other (Option.some.inj (first _ same)).symm
  · rw [String.toList_ofList]
    exact shape.apart

/-- A path in a folder with an extension of source files is cut in front of it. -/
theorem Front.withoutExtension {front : List Char} (shape : Front front) (folder : String)
    {ending : String} (listed : ending ∈ Code.sourceExtensions) :
    Path.withoutExtension (folder ++ "/" ++ (String.ofList front ++ ending)) =
      folder ++ "/" ++ String.ofList front := by
  obtain ⟨letters, rfl, -, dots, slashes⟩ := Code.exists_letters listed
  obtain ⟨c, rest, rfl, other⟩ := shape.visible
  rw [← String.ofList_append]
  exact Path.withoutExtension_append folder shape.apart ⟨c, List.mem_cons_self, other⟩
    ⟨dots, slashes⟩

section Placed

variable {move : Move}

/-- A planned source file has an extension behind its module path. -/
theorem Placed.exists_front (placed : Placed move) (source : Code.isSource move.source = true) :
    ∃ folder front ending, Front front ∧ ending ∈ Code.sourceExtensions ∧
      move.destination = folder ++ "/" ++ (String.ofList front ++ ending) ∧
      move.modulePath = folder ++ "/" ++ String.ofList front := by
  have extension : Path.extension move.source ∈ Code.sourceExtensions :=
    List.contains_iff_mem.mp source
  unfold Path.extension at extension
  rw [placed.source.fileName] at extension
  split at extension
  · next front ending cut =>
    obtain ⟨whole, filled⟩ := Path.append_of_cutName cut
    obtain ⟨folder, within⟩ := placed.folder
    have name : Path.baseName move.source = String.ofList front ++ String.ofList ending := by
      rw [← String.ofList_append, ← whole, String.ofList_toList]
    have shape : Front front := by
      constructor
      · intro slash
        apply placed.source.baseName.2.2.2
        rw [whole]
        exact List.mem_append_left _ slash
      · cases front with
        | nil => exact absurd rfl filled
        | cons c rest =>
          refine ⟨c, rest, rfl, ?_⟩
          rintro rfl
          have hidden := placed.visible
          rw [startsWith, whole] at hidden
          exact absurd hidden (by simp)
    refine ⟨folder, front, String.ofList ending, shape, extension, by rw [within, name], ?_⟩
    rw [placed.path, source, within, name]
    exact shape.withoutExtension folder extension
  · exact absurd extension (by decide)

/-- What is planned to a module path with an extension behind it has that module path. -/
theorem Placed.modulePath_eq (placed : Placed move) {folder : String} {front : List Char}
    (shape : Front front) {ending : String} (listed : ending ∈ Code.sourceExtensions)
    (same : move.destination = folder ++ "/" ++ (String.ofList front ++ ending)) :
    move.modulePath = folder ++ "/" ++ String.ofList front := by
  have source : Code.isSource move.source = true := by
    obtain ⟨letters, rfl, some, dots, slashes⟩ := Code.exists_letters listed
    have apart : '/' ∉ (String.ofList front ++ String.ofList ('.' :: letters)).toList := by
      simp [shape.apart, slashes]
    have name : Path.baseName move.source = String.ofList (front ++ '.' :: letters) := by
      rw [← placed.baseName, same, Path.baseName_folder folder apart, String.ofList_append]
    obtain ⟨c, rest, rfl, -⟩ := shape.visible
    have cut := Path.cutName_append (List.cons_ne_nil c rest) some dots
    rw [Code.isSource, Path.extension, placed.source.fileName, name, String.toList_ofList, cut]
    exact List.contains_iff_mem.mpr listed
  rw [placed.path, source, same]
  exact shape.withoutExtension folder listed

end Placed

end Layout

namespace Layout

/-- The planned destinations. -/
def destinations (layout : Layout) : List String := layout.moves.values.map (·.destination)

/-- The module path of an asset is its destination. -/
theorem Placed.modulePath_asset {move : Move} (placed : Placed move)
    (asset : Code.isSource move.source = false) : move.modulePath = move.destination := by
  rw [placed.path, asset]
  rfl

/-- The module path of a plain destination is plain. -/
theorem Placed.isPlain_modulePath {move : Move} (placed : Placed move)
    (plain : Path.IsPlain move.destination) : Path.IsPlain move.modulePath := by
  cases source : Code.isSource move.source with
  | false => exact placed.modulePath_asset source ▸ plain
  | true =>
    obtain ⟨folder, front, ending, shape, -, within, path⟩ := placed.exists_front source
    rw [within] at plain
    rw [path]
    exact plain.folder.append shape.isName.isPlain

end Layout

namespace ImportRewrite

section Resolved

variable {scope : Scope} {index : SourceIndex} {owners : Ledger String Owner} {paths : List String}
  {read : String → Except ReadProblem String} {move : Move}

/-- Among the planned files that a module path with an extension stands for, there is only the one
with this module path. -/
theorem find?_extended (built : SourceIndex.ofTree scope paths read = .ok index)
    (plain : ∀ path ∈ paths, Path.IsPlain path)
    (distinct : ((Layout.ofOwners scope index owners).moves.values.map (·.modulePath)).Nodup)
    (listed : move ∈ (Layout.ofOwners scope index owners).moves.values)
    (source : Code.isSource move.source = true) :
    (Code.sourceExtensions.map (move.modulePath ++ ·)).find?
      (Layout.ofOwners scope index owners).destinations.contains = some move.destination := by
  have placed := Layout.placed_of_mem built plain listed
  obtain ⟨folder, front, ending, shape, extension, within, path⟩ := placed.exists_front source
  have only : ∀ candidate ∈ Code.sourceExtensions.map (move.modulePath ++ ·),
      (Layout.ofOwners scope index owners).destinations.contains candidate = true →
        candidate = move.destination := by
    intro candidate tried known
    obtain ⟨other, also, goal⟩ := List.mem_map.mp (List.contains_iff_mem.mp known)
    obtain ⟨extended, listedExtension, rfl⟩ := List.mem_map.mp tried
    rw [path, String.append_assoc] at goal
    have same : other.modulePath = move.modulePath := by
      rw [path]
      exact (Layout.placed_of_mem built plain also).modulePath_eq shape listedExtension goal
    obtain rfl := List.inj_on_of_nodup_map distinct also listed same
    rw [path, String.append_assoc, goal]
  have tried : move.destination ∈ Code.sourceExtensions.map (move.modulePath ++ ·) := by
    refine List.mem_map.mpr ⟨ending, extension, ?_⟩
    rw [path, within, String.append_assoc]
  have known : (Layout.ofOwners scope index owners).destinations.contains move.destination = true :=
    List.contains_iff_mem.mpr (List.mem_map.mpr ⟨move, listed, rfl⟩)
  cases found : (Code.sourceExtensions.map (move.modulePath ++ ·)).find?
      (Layout.ofOwners scope index owners).destinations.contains with
  | none => exact absurd known (List.find?_eq_none.mp found _ tried)
  | some candidate =>
    exact congrArg some (only candidate (List.mem_of_find?_eq_some found) (List.find?_some found))

variable {shorthand : String}

/-- A specifier that is put in leads to the file that is planned to the module path itself, and else
to the planned file that it was made for. -/
theorem resolve_specifierOf_eq (built : SourceIndex.ofTree scope paths read = .ok index)
    (plain : ∀ path ∈ paths, Path.IsPlain path)
    (buckets : ∀ kind, Path.IsPlain (scope.bucket kind).display)
    (named : ∀ path name, owners.find? path = some (.feature name) → Path.IsName name)
    (distinct : ((Layout.ofOwners scope index owners).moves.values.map (·.modulePath)).Nodup)
    (isText : scope.targetAlias = .text shorthand) (nonempty : shorthand ≠ "")
    (absolute : startsWith shorthand "." = false)
    (listed : move ∈ (Layout.ofOwners scope index owners).moves.values) (importer : String) :
    Specifier.resolve (specifierOf scope move.modulePath) importer
        (Layout.ofOwners scope index owners).destinations.contains shorthand =
      if startsWith move.modulePath ".." then none
      else if (Layout.ofOwners scope index owners).destinations.contains move.modulePath then
        some move.modulePath
      else some move.destination := by
  have placed := Layout.placed_of_mem built plain listed
  have proper : Path.IsPlain move.modulePath :=
    placed.isPlain_modulePath (Layout.isPlain_of_mem built plain buckets named listed)
  have base : Specifier.base? (specifierOf scope move.modulePath) importer shorthand =
      some move.modulePath := by
    rw [specifierOf, isText]
    exact (Specifier.base?_aliased nonempty absolute _ importer).trans
      (congrArg some proper.normal)
  have below : (move.modulePath == ".") = false := by
    rw [beq_eq_false_iff_ne]
    intro here
    rw [here] at proper
    exact absurd proper (by decide)
  rw [Specifier.resolve, base]
  simp only [below, Bool.or_false, Specifier.candidates, List.cons_append, List.find?_cons]
  by_cases above : startsWith move.modulePath ".." = true
  · rw [if_pos above, if_pos above]
  · rw [if_neg above, if_neg above]
    cases known : (Layout.ofOwners scope index owners).destinations.contains move.modulePath with
    | true => rfl
    | false =>
      have source : Code.isSource move.source = true := by
        by_contra asset
        have present : move.destination ∈ (Layout.ofOwners scope index owners).destinations :=
          List.mem_map.mpr ⟨move, listed, rfl⟩
        rw [placed.modulePath_asset (Bool.eq_false_iff.mpr asset), Bool.eq_false_iff] at known
        exact known (List.contains_iff_mem.mpr present)
      rw [List.find?_append, find?_extended built plain distinct listed source]
      rfl

/-- A specifier that is put in leads to the planned file that it was made for, unless its module path
starts with two dots or another file is planned to the module path itself. -/
theorem resolve_specifierOf (built : SourceIndex.ofTree scope paths read = .ok index)
    (plain : ∀ path ∈ paths, Path.IsPlain path)
    (buckets : ∀ kind, Path.IsPlain (scope.bucket kind).display)
    (named : ∀ path name, owners.find? path = some (.feature name) → Path.IsName name)
    (clear : (Layout.ofOwners scope index owners).errors = [])
    (isText : scope.targetAlias = .text shorthand) (nonempty : shorthand ≠ "")
    (absolute : startsWith shorthand "." = false)
    (listed : move ∈ (Layout.ofOwners scope index owners).moves.values) (importer : String) :
    Specifier.resolve (specifierOf scope move.modulePath) importer
        (Layout.ofOwners scope index owners).destinations.contains shorthand =
          some move.destination ↔
      startsWith move.modulePath ".." = false ∧
        ∀ other ∈ (Layout.ofOwners scope index owners).moves.values,
          other.destination = move.modulePath → other = move := by
  have distinct := (Layout.conflicts_eq_nil_iff _).mp clear
  have apart := Layout.destinations_nodup built plain distinct
  rw [resolve_specifierOf_eq built plain buckets named distinct isText nonempty absolute listed]
  cases startsWith move.modulePath ".." with
  | true => simp
  | false =>
    rw [if_neg Bool.false_ne_true]
    constructor
    · intro leads
      refine ⟨rfl, fun other also goal => ?_⟩
      have known : (Layout.ofOwners scope index owners).destinations.contains move.modulePath =
          true := List.contains_iff_mem.mpr (List.mem_map.mpr ⟨other, also, goal⟩)
      rw [if_pos known] at leads
      exact List.inj_on_of_nodup_map apart also listed (goal.trans (Option.some.inj leads))
    · rintro ⟨-, only⟩
      split
      · next known =>
        obtain ⟨other, also, goal⟩ := List.mem_map.mp (List.contains_iff_mem.mp known)
        obtain rfl := only other also goal
        rw [goal]
      · rfl

end Resolved

section Doubled

/-- Reads a file of a tree of empty files. -/
def emptyRead (_ : String) : Except ReadProblem String := .ok ""

/-- A scope of one feature whose files have one and two extensions. -/
def doubledScope : Scope where
  root := []
  features := [⟨"one", ["foo.ts", "foo.ts.ts"], []⟩]
  excluded := []
  retain := []
  sourceAlias := .text "@/"
  targetAlias := .text "@/"
  bucket kind := .text kind.usualBucket
  storage := .usual
  contract := []
  jobs := 1
  configFile := none

/-- The index of the tree. -/
def doubledIndex : SourceIndex where
  files := Ledger.ofList [("foo.ts", ⟨"foo.ts", .util, [], [], some ""⟩),
    ("foo.ts.ts", ⟨"foo.ts.ts", .util, [], [], some ""⟩)]
  excluded := []
  errors := []

/-- Both files belong to the feature. -/
def doubledOwners : Ledger String Owner :=
  Ledger.ofList [("foo.ts", .feature "one"), ("foo.ts.ts", .feature "one")]

/-- The planned moves. -/
def doubledLayout : Layout := .ofOwners doubledScope doubledIndex doubledOwners

/-- The move of the file with one extension. -/
def plainMove : Move :=
  ⟨"foo.ts", "features/one/utils/foo.ts", "features/one/utils/foo", .feature "one", .util⟩

/-- The move of the file with two extensions. -/
def doubledMove : Move :=
  ⟨"foo.ts.ts", "features/one/utils/foo.ts.ts", "features/one/utils/foo.ts", .feature "one", .util⟩

theorem ofTree_doubled :
    SourceIndex.ofTree doubledScope ["foo.ts", "foo.ts.ts"] emptyRead = .ok doubledIndex := by
  let opened : List SourceIndex.ReadFile :=
    [⟨"foo.ts", "", ⟨[], [], .util⟩⟩, ⟨"foo.ts.ts", "", ⟨[], [], .util⟩⟩]
  have discovered : Discovery.ofPaths doubledScope ["foo.ts", "foo.ts.ts"] =
      ⟨["foo.ts", "foo.ts.ts"], []⟩ := by
    cbv
  have sources : Discovery.sources ⟨["foo.ts", "foo.ts.ts"], []⟩ = ["foo.ts", "foo.ts.ts"] := by
    decide
  have first : SourceIndex.readFile emptyRead "foo.ts" = .ok opened[0] :=
    SourceIndex.readFile_of_imports (by cbv) rfl (by cbv) (by cbv)
  have second : SourceIndex.readFile emptyRead "foo.ts.ts" = .ok opened[1] :=
    SourceIndex.readFile_of_imports (by cbv) rfl (by cbv) (by cbv)
  have readable : ["foo.ts", "foo.ts.ts"].map (SourceIndex.readFile emptyRead) =
      opened.map .ok := by
    rw [List.map_cons, List.map_cons, first, second]
    rfl
  exact SourceIndex.ofTree_eq_of_read rfl discovered (by decide) (by rw [sources, readable])
    rfl rfl rfl (by decide) (by decide)

theorem moves_doubled : doubledLayout.moves.values = [plainMove, doubledMove] := by
  decide

theorem errors_doubled : doubledLayout.errors = [] := by
  refine (Layout.conflicts_eq_nil_iff _).mpr ?_
  exact (congrArg (List.map (·.modulePath)) moves_doubled) ▸ (by decide)

theorem isPlain_doubled : ∀ path ∈ ["foo.ts", "foo.ts.ts"], Path.IsPlain path := by
  decide

theorem isPlain_usualBucket (kind : SymbolKind) : Path.IsPlain (doubledScope.bucket kind).display := by
  cases kind <;> decide

theorem isName_doubled (path name : String)
    (owned : doubledOwners.find? path = some (.feature name)) : Path.IsName name := by
  have stored := (Ledger.find?_ofList_eq_some_iff _ (by decide) path _).mp owned
  simp only [List.mem_cons, Prod.mk.injEq, Owner.feature.injEq, List.not_mem_nil, or_false]
    at stored
  rcases stored with ⟨-, rfl⟩ | ⟨-, rfl⟩
  all_goals decide

theorem resolve_specifierOf_plain :
    Specifier.resolve (specifierOf doubledScope plainMove.modulePath) doubledMove.destination
      doubledLayout.destinations.contains "@/" = some plainMove.destination := by
  have listed : plainMove ∈ doubledLayout.moves.values := by
    rw [moves_doubled]
    exact List.mem_cons_self
  refine (resolve_specifierOf ofTree_doubled isPlain_doubled isPlain_usualBucket isName_doubled
    errors_doubled rfl (by decide) (by decide) listed _).mpr ⟨by decide, ?_⟩
  intro other also goal
  have among : other ∈ [plainMove, doubledMove] := moves_doubled ▸ also
  rcases List.mem_pair.mp among with rfl | rfl
  · rfl
  · exact absurd goal (by decide)

/-- The specifier of a file with two extensions leads to the file that is planned to its module
path, although the layout has no conflicts. -/
theorem resolve_specifierOf_doubled :
    SourceIndex.ofTree doubledScope ["foo.ts", "foo.ts.ts"] emptyRead = .ok doubledIndex ∧
      doubledLayout.errors = [] ∧ doubledMove ∈ doubledLayout.moves.values ∧
      Specifier.resolve (specifierOf doubledScope doubledMove.modulePath) "features/one/utils/foo.ts"
        doubledLayout.destinations.contains "@/" = some plainMove.destination ∧
      plainMove.destination ≠ doubledMove.destination := by
  refine ⟨ofTree_doubled, errors_doubled, ?_, ?_, by decide⟩
  · rw [moves_doubled]
    exact List.mem_cons_of_mem _ List.mem_cons_self
  · rw [Layout.destinations, moves_doubled]
    decide

end Doubled

end ImportRewrite

end FeatureLayout
