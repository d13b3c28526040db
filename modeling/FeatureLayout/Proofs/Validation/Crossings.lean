import FeatureLayout.Proofs.Validation.Edges

/-!
# Which crossing imports are reported

The validation looks up what stands behind the alias of the target tree among the planned module
paths. An import of a feature's file is reported exactly when its specifier is that alias and the
module path of a file of another feature, so when nothing fatal is found, no import that is written
in this way crosses.

A specifier may also lead to a planned file in another form: with its extension, as a folder with an
index file, or relative to the importing file. The look-up misses all of these.
-/

namespace FeatureLayout

open Text

namespace Validation

section Lookup

variable {layout : Layout}

/-- A specifier names the planned file whose module path stands behind the alias. -/
theorem named?_eq_some_iff (keyed : layout.Keyed)
    (distinct : (layout.moves.values.map (·.modulePath)).Nodup) (shorthand specifier : String)
    (target : String) :
    named? shorthand layout.byModulePath specifier = some target ↔
      ∃ move, layout.move? target = some move ∧ specifier = shorthand ++ move.modulePath := by
  unfold named?
  constructor
  · intro named
    split at named
    · next starts =>
      obtain ⟨rest, whole⟩ := List.isPrefixOf_iff_prefix.mp starts
      obtain ⟨move, planned, path⟩ := (Layout.find?_byModulePath keyed distinct _ _).mp named
      refine ⟨move, planned, String.toList_inj.mp ?_⟩
      rw [path, ← whole, ← String.length_toList, List.drop_left, String.toList_append,
        String.toList_ofList, whole]
    · cases named
  · rintro ⟨move, planned, rfl⟩
    have starts : startsWith (shorthand ++ move.modulePath) shorthand = true := by
      rw [startsWith, String.toList_append]
      exact List.isPrefixOf_iff_prefix.mpr (List.prefix_append _ _)
    rw [if_pos starts, String.toList_append, ← String.length_toList, List.drop_left,
      String.ofList_toList]
    exact (Layout.find?_byModulePath keyed distinct _ _).mpr ⟨move, planned, rfl⟩

end Lookup

section Reported

variable {scope : Scope} {classification : Classification} {layout : Layout}
  {staged : Ledger String String} {validation : Validation}

/-- A crossing is an edge between files of different features. -/
theorem mem_crossings {edges : Ledger String (List String)} {problem : Diagnostic} :
    problem ∈ crossings classification edges ↔
      ∃ source feature target other, problem = .remainingCrossImport source feature target other ∧
        classification.featureOf source = some feature ∧
        classification.featureOf target = some other ∧ other ≠ feature ∧
        ∃ targets, edges.find? source = some targets ∧ target ∈ targets := by
  simp only [crossings, List.mem_flatMap]
  constructor
  · rintro ⟨⟨source, targets⟩, listed, reported⟩
    dsimp only at reported
    split at reported
    · exact absurd reported List.not_mem_nil
    · next feature owned =>
      obtain ⟨target, among, crosses⟩ := List.mem_filterMap.mp reported
      split at crosses
      · cases crosses
      · next other goal =>
        split_ifs at crosses with differs
        obtain rfl := Option.some.inj crosses
        exact ⟨source, feature, target, other, rfl, owned, goal, differs, targets,
          (Ledger.find?_eq_some_iff edges source targets).mpr listed, among⟩
  · rintro ⟨source, feature, target, other, rfl, owned, goal, differs, targets, found, among⟩
    refine ⟨(source, targets), (Ledger.find?_eq_some_iff edges source targets).mp found, ?_⟩
    dsimp only
    rw [owned]
    refine List.mem_filterMap.mpr ⟨target, among, ?_⟩
    rw [goal]
    exact if_pos differs

/-- What is found of storage objects is nothing else. -/
theorem eq_residual_of_mem_residues {found : List Diagnostic}
    (searched : residues scope layout staged = .ok found) {problem : Diagnostic}
    (listed : problem ∈ found) :
    ∃ destination source line identifier,
      problem = .residual destination source line identifier := by
  unfold residues at searched
  split at searched
  · obtain rfl := Except.ok.inj searched
    exact absurd listed List.not_mem_nil
  · next pattern _ =>
    obtain ⟨results, each, rfl⟩ := map_eq_ok.mp searched
    obtain ⟨result, among, inside⟩ := List.mem_flatten.mp listed
    obtain ⟨move, -, came⟩ := exists_of_rel_mem (mapM_eq_ok.mp each).flip among
    split at came
    · obtain ⟨checked, -, same⟩ := bind_eq_ok.mp came
      obtain rfl := Except.ok.inj same
      obtain ⟨matched, -, rfl⟩ := List.mem_map.mp inside
      exact ⟨_, _, _, _, rfl⟩
    · obtain rfl := Except.ok.inj came
      exact absurd inside List.not_mem_nil

/-- What is found while the texts are read is nothing but unreadable texts. -/
theorem eq_unscannable_of_mem_edgesOf {problem : Diagnostic}
    (listed : problem ∈ (edgesOf scope layout staged).errors) :
    ∃ source trouble, problem = .unscannable source trouble := by
  have read (shorthand : String) (byModulePath : Ledger String String)
      (texts : List (String × String)) (start : Validation)
      (known : ∀ problem ∈ start.errors, ∃ source trouble, problem = .unscannable source trouble) :
      ∀ problem ∈ (texts.foldl (addText shorthand byModulePath) start).errors,
        ∃ source trouble, problem = .unscannable source trouble := by
    induction texts generalizing start with
    | nil => exact known
    | cons text rest inductionHypothesis =>
      apply inductionHypothesis
      unfold addText
      split
      · next trouble _ =>
        intro problem listed
        rcases List.mem_append.mp listed with old | new
        · exact known problem old
        · exact ⟨text.1, trouble, List.mem_singleton.mp new⟩
      · exact known
  exact read _ _ _ ⟨.empty, []⟩ (fun _ absent => absurd absent List.not_mem_nil) problem listed

/-- What a validation that runs finds. -/
theorem errors_of_ofStaged (ran : ofStaged scope classification layout staged = .ok validation) :
    ∃ left, residues scope layout staged = .ok left ∧
      validation.edges = (edgesOf scope layout staged).edges ∧
      validation.errors = (edgesOf scope layout staged).errors ++
        crossings classification (edgesOf scope layout staged).edges ++ left ++
          missingPages scope layout (edgesOf scope layout staged).edges ++
            unreferenced layout (edgesOf scope layout staged).edges := by
  unfold ofStaged at ran
  dsimp only at ran
  split at ran
  · cases ran
  · obtain ⟨left, searched, same⟩ := bind_eq_ok.mp ran
    obtain rfl := Except.ok.inj same
    exact ⟨left, searched, rfl, rfl⟩

/-- What the check reports that reports diagnostics of a sort, given the storage objects that are
left. -/
def sameSort (scope : Scope) (classification : Classification) (layout : Layout)
    (staged : Ledger String String) (left : List Diagnostic) : Diagnostic → List Diagnostic
  | .unscannable .. => (edgesOf scope layout staged).errors
  | .remainingCrossImport .. => crossings classification (edgesOf scope layout staged).edges
  | .residual .. => left
  | .missingPage .. => missingPages scope layout (edgesOf scope layout staged).edges
  | .unreferencedShared .. => unreferenced layout (edgesOf scope layout staged).edges
  | _ => []

/-- Each check reports diagnostics of a sort of its own. -/
theorem mem_errors_iff (ran : ofStaged scope classification layout staged = .ok validation)
    {left : List Diagnostic} (searched : residues scope layout staged = .ok left)
    {problem : Diagnostic} : problem ∈ validation.errors ↔
      problem ∈ sameSort scope classification layout staged left problem := by
  obtain ⟨also, again, -, errors⟩ := errors_of_ofStaged ran
  obtain rfl := Except.ok.inj (searched.symm.trans again)
  rw [errors]
  simp only [List.mem_append]
  constructor
  · rintro ((((read | crossing) | residual) | page) | shared)
    · obtain ⟨source, trouble, rfl⟩ := eq_unscannable_of_mem_edgesOf read
      exact read
    · obtain ⟨source, feature, target, other, rfl, -⟩ := mem_crossings.mp crossing
      exact crossing
    · obtain ⟨destination, source, line, identifier, rfl⟩ :=
        eq_residual_of_mem_residues searched residual
      exact residual
    · obtain ⟨feature, -, rfl⟩ := List.mem_map.mp page
      exact page
    · obtain ⟨move, -, rfl⟩ := List.mem_map.mp shared
      exact shared
  · intro listed
    cases problem with
    | unscannable => exact Or.inl (Or.inl (Or.inl (Or.inl listed)))
    | remainingCrossImport => exact Or.inl (Or.inl (Or.inl (Or.inr listed)))
    | residual => exact Or.inl (Or.inl (Or.inr listed))
    | missingPage => exact Or.inl (Or.inr listed)
    | unreferencedShared => exact Or.inr listed
    | _ => exact absurd listed List.not_mem_nil

/-- A crossing import is reported exactly when it is found among the edges. -/
theorem remainingCrossImport_mem_errors_iff
    (ran : ofStaged scope classification layout staged = .ok validation)
    {source feature target other : String} :
    .remainingCrossImport source feature target other ∈ validation.errors ↔
      .remainingCrossImport source feature target other ∈
        crossings classification (edgesOf scope layout staged).edges := by
  obtain ⟨left, searched, -⟩ := errors_of_ofStaged ran
  exact mem_errors_iff ran searched

/-- A staged text imports a planned file by the alias of the target tree and its module path. -/
def ImportsByAlias (scope : Scope) (layout : Layout) (staged : Ledger String String)
    (source target : String) : Prop :=
  ∃ text found imported move, staged.find? source = some text ∧
    Code.Module.ofText text.toList source = .ok found ∧ imported ∈ found.imports ∧
    layout.move? target = some move ∧
    imported.specifier = scope.targetAlias.content ++ move.modulePath

/-- The edges of a file are what its staged text imports by alias and module path. -/
theorem importsByAlias_iff (keyed : layout.Keyed)
    (distinct : (layout.moves.values.map (·.modulePath)).Nodup) {source target : String} :
    (∃ targets, (edgesOf scope layout staged).edges.find? source = some targets ∧
      target ∈ targets) ↔ ImportsByAlias scope layout staged source target := by
  rw [find?_edgesOf_eq]
  constructor
  · rintro ⟨targets, read, listed⟩
    obtain ⟨text, holds, read⟩ := Option.bind_eq_some_iff.mp read
    unfold readTargets at read
    split at read
    · cases read
    · next found parsed =>
      obtain rfl := Option.some.inj read
      obtain ⟨imported, inside, named⟩ := mem_targetsOf.mp listed
      obtain ⟨move, planned, same⟩ := (named?_eq_some_iff keyed distinct _ _ _).mp named
      exact ⟨text, found, imported, move, holds, parsed, inside, planned, same⟩
  · rintro ⟨text, found, imported, move, holds, parsed, inside, planned, same⟩
    rw [holds, Option.bind_some, readTargets, parsed]
    refine ⟨_, rfl, mem_targetsOf.mpr ⟨imported, inside, ?_⟩⟩
    exact (named?_eq_some_iff keyed distinct _ _ _).mpr ⟨move, planned, same⟩

/-- Crossing imports are reported exactly when they are written as alias and module path. So when
nothing fatal is found, a feature's file imports in this way only its own feature's files and those
that no feature owns alone. -/
theorem crossings_exact (ran : ofStaged scope classification layout staged = .ok validation)
    (keyed : layout.Keyed) (distinct : (layout.moves.values.map (·.modulePath)).Nodup) :
    (∀ source feature target other,
      .remainingCrossImport source feature target other ∈ validation.errors ↔
        classification.featureOf source = some feature ∧
        classification.featureOf target = some other ∧ other ≠ feature ∧
        ImportsByAlias scope layout staged source target) ∧
    (validation.passed = true → ∀ source feature target,
      classification.featureOf source = some feature →
        ImportsByAlias scope layout staged source target →
          classification.featureOf target = some feature ∨
            classification.featureOf target = none) := by
  have exact (source feature target other : String) :
      .remainingCrossImport source feature target other ∈ validation.errors ↔
        classification.featureOf source = some feature ∧
        classification.featureOf target = some other ∧ other ≠ feature ∧
        ImportsByAlias scope layout staged source target := by
    rw [remainingCrossImport_mem_errors_iff ran, mem_crossings]
    constructor
    · rintro ⟨_, _, _, _, same, owned, goal, differs, edge⟩
      obtain ⟨rfl, rfl, rfl, rfl⟩ := Diagnostic.remainingCrossImport.inj same
      exact ⟨owned, goal, differs, (importsByAlias_iff keyed distinct).mp edge⟩
    · rintro ⟨owned, goal, differs, imports⟩
      exact ⟨source, feature, target, other, rfl, owned, goal, differs,
        (importsByAlias_iff keyed distinct).mpr imports⟩
  refine ⟨exact, fun passed source feature target owned imports => ?_⟩
  cases goal : classification.featureOf target with
  | none => exact Or.inr rfl
  | some other =>
    by_cases same : other = feature
    · exact Or.inl (congrArg some same)
    · have reported := (exact source feature target other).mpr ⟨owned, goal, same, imports⟩
      have clear : validation.errors.any Diagnostic.isFatal = false := by
        simpa [Validation.passed] using passed
      have fatal := List.any_eq_false.mp clear _ reported
      exact absurd rfl fatal

end Reported

section Spelled

/-- A file whose staged text has no storage object in its code has no residues. -/
theorem residuesOf_eq_nil {scope : Scope} {pattern : Pattern Unit} {move : Move} {content : String}
    {checked : List Char} (masked : checkedText scope move.source content.toList = .ok checked)
    (none : pattern.search checked = []) : residuesOf scope pattern move content = .ok [] := by
  rw [residuesOf, masked]
  simp only [bind, Except.bind, none]
  rfl

/-- A scope of two features with one page each. -/
def spelledScope : Scope where
  root := []
  features := [⟨"one", ["pages/OnePage.tsx"], []⟩, ⟨"two", ["pages/TwoPage.tsx"], []⟩]
  excluded := []
  retain := []
  sourceAlias := .text "~/"
  targetAlias := .text "@/"
  bucket kind := .text kind.usualBucket
  storage :=
    { StorageInterface.usual with calls := Ledger.ofList [("localStorage.getItem", .read)] }
  contract := []
  jobs := 1
  configFile := none

/-- The text of a page that imports the other one with its extension. -/
def spelledText : String := "import '@/features/two/pages/TwoPage.tsx'"

/-- The index of the two pages. To the alias of the source tree, the specifier names a package. -/
def spelledIndex : SourceIndex where
  files := Ledger.ofList [
    ("pages/OnePage.tsx", ⟨"pages/OnePage.tsx", .page, [],
      [⟨"pages/OnePage.tsx", "*", "@/features/two/pages/TwoPage.tsx", 1, ⟨8, 40⟩, none, false⟩],
      some spelledText⟩),
    ("pages/TwoPage.tsx", ⟨"pages/TwoPage.tsx", .page, [], [], some ""⟩)]
  excluded := []
  errors := []

/-- Each page belongs to its feature. -/
def spelledClassification : Classification where
  owners :=
    Ledger.ofList [("pages/OnePage.tsx", .feature "one"), ("pages/TwoPage.tsx", .feature "two")]
  reaching := .empty
  unreached := []
  retained := []
  cycles := []
  errors := []

/-- The planned moves of the pages. -/
def spelledLayout : Layout := .ofOwners spelledScope spelledIndex spelledClassification.owners

/-- The move of the first page. -/
def spelledMove : Move :=
  ⟨"pages/OnePage.tsx", "features/one/pages/OnePage.tsx", "features/one/pages/OnePage",
    .feature "one", .page⟩

/-- The move of the second page. -/
def otherMove : Move :=
  ⟨"pages/TwoPage.tsx", "features/two/pages/TwoPage.tsx", "features/two/pages/TwoPage",
    .feature "two", .page⟩

/-- The staged texts: no specifier is edited. -/
def spelledStaged : Ledger String String :=
  Ledger.ofList [("pages/OnePage.tsx", spelledText), ("pages/TwoPage.tsx", "")]

/-- The staged texts when the first page has some text. -/
def pagesStaged (text : String) : Ledger String String :=
  Ledger.ofList [("pages/OnePage.tsx", text), ("pages/TwoPage.tsx", "")]

/-- The text of a page that imports itself by its module path. -/
def ownText : String := "import '@/features/one/pages/OnePage'"

/-- The text of a page that imports the other one by its module path. -/
def otherText : String := "import '@/features/two/pages/TwoPage'"

/-- The import of the second page. -/
def spelledImport : Code.Import :=
  ⟨"@/features/two/pages/TwoPage.tsx", ["*"], 1, ⟨8, 40⟩, false, false⟩

/-- The import of the first page by its module path. -/
def ownImport : Code.Import :=
  ⟨"@/features/one/pages/OnePage", ["*"], 1, ⟨8, 36⟩, false, false⟩

/-- The import of the second page by its module path. -/
def otherImport : Code.Import :=
  ⟨"@/features/two/pages/TwoPage", ["*"], 1, ⟨8, 36⟩, false, false⟩

/-- What is found in the pages when the first one imports some files. -/
def pagesEdges (targets : List String) : Ledger String (List String) :=
  Ledger.ofList [("pages/OnePage.tsx", targets), ("pages/TwoPage.tsx", [])]

/-- No edges are found. -/
def spelledEdges : Ledger String (List String) :=
  Ledger.ofList [("pages/OnePage.tsx", []), ("pages/TwoPage.tsx", [])]

theorem moves_spelled : spelledLayout.moves.values = [spelledMove, otherMove] := by
  decide

theorem exists_ofText_spelled : ∃ found,
    Code.Module.ofText spelledText.toList "pages/OnePage.tsx" = .ok found ∧
      found.imports = [spelledImport] :=
  Code.Module.exists_ofText_iff.mpr ⟨spelledText.toList, by cbv, by cbv⟩

/-- The edges of the first page are the targets of its imports. -/
theorem edgesOf_pages {text : String} {one : Code.Module} {targets : List String}
    (parsed : Code.Module.ofText text.toList "pages/OnePage.tsx" = .ok one)
    (named : targetsOf "@/" spelledLayout.byModulePath one = targets) :
    edgesOf spelledScope spelledLayout (pagesStaged text) = ⟨pagesEdges targets, []⟩ := by
  obtain ⟨two, second, none⟩ : ∃ found,
      Code.Module.ofText "".toList "pages/TwoPage.tsx" = .ok found ∧ found.imports = [] :=
    Code.Module.exists_ofText_iff.mpr ⟨[], by cbv, by cbv⟩
  have order : sortedBy Prod.fst (pagesStaged text).entries =
      [("pages/OnePage.tsx", text), ("pages/TwoPage.tsx", "")] :=
    List.mergeSort_of_pairwise
      (List.pairwise_pair.mpr (by decide : atMost "pages/OnePage.tsx" "pages/TwoPage.tsx" = true))
  have nothing : targetsOf "@/" spelledLayout.byModulePath two = [] := by
    rw [targetsOf, none]
    rfl
  have shorthand : spelledScope.targetAlias.content = "@/" := rfl
  rw [edgesOf, order, shorthand, List.foldl_cons, List.foldl_cons, List.foldl_nil]
  simp only [addText, parsed, second, named, nothing]
  rfl

/-- A first page without storage objects in its code leaves no residues. -/
theorem residues_pages {text : String} {checked : List Char}
    (masked : checkedText spelledScope "pages/OnePage.tsx" text.toList = .ok checked)
    (none : (Pattern.sequence [.notAfter isNameChar, .exactly "localStorage", .wordEdge] :
      Pattern Unit).search checked = []) :
    residues spelledScope spelledLayout (pagesStaged text) = .ok [] := by
  let pattern : Pattern Unit :=
    .sequence [.notAfter isNameChar, .exactly "localStorage", .wordEdge]
  have known : storagePattern? spelledScope.storage = some pattern := by
    have names : sorted spelledScope.storage.identifiers = ["localStorage"] := by cbv
    rw [storagePattern?, names]
    rfl
  rw [residues, known, moves_spelled]
  refine map_eq_ok.mpr ⟨[[], []], mapM_eq_ok.mpr (.cons ?one (.cons ?two .nil)), rfl⟩
  case one => exact residuesOf_eq_nil masked none
  case two =>
    have checked : checkedText spelledScope "pages/TwoPage.tsx" "".toList = .ok [] := by cbv
    exact residuesOf_eq_nil checked rfl

/-- The pages are validated whatever text the first one has, as long as it can be read and no storage
object is left in its code. -/
theorem ofStaged_pages {text : String} {one : Code.Module} {checked : List Char}
    {targets : List String}
    (parsed : Code.Module.ofText text.toList "pages/OnePage.tsx" = .ok one)
    (named : targetsOf "@/" spelledLayout.byModulePath one = targets)
    (masked : checkedText spelledScope "pages/OnePage.tsx" text.toList = .ok checked)
    (none : (Pattern.sequence [.notAfter isNameChar, .exactly "localStorage", .wordEdge] :
      Pattern Unit).search checked = []) :
    ofStaged spelledScope spelledClassification spelledLayout (pagesStaged text) =
      .ok ⟨pagesEdges targets, crossings spelledClassification (pagesEdges targets) ++
        missingPages spelledScope spelledLayout (pagesEdges targets) ++
          unreferenced spelledLayout (pagesEdges targets)⟩ := by
  have isText : aliasProblem? spelledScope (pagesStaged text) = Option.none := rfl
  rw [ofStaged, isText, edgesOf_pages parsed named, residues_pages masked none]
  simp only [bind, Except.bind, pure, Except.pure, List.append_nil, List.nil_append]

theorem ofStaged_spelled : ofStaged spelledScope spelledClassification spelledLayout spelledStaged =
    .ok ⟨spelledEdges, []⟩ := by
  obtain ⟨one, parsed, imports⟩ := exists_ofText_spelled
  have missed : targetsOf "@/" spelledLayout.byModulePath one = [] := by
    rw [targetsOf, imports]
    decide
  have masked : checkedText spelledScope "pages/OnePage.tsx" spelledText.toList =
      .ok "import '                                '".toList := by
    cbv
  have ran := ofStaged_pages parsed missed masked (by decide)
  have accepted : crossings spelledClassification (pagesEdges []) = [] := by cbv
  have missing : missingPages spelledScope spelledLayout (pagesEdges []) = [] := by cbv
  have shared : unreferenced spelledLayout (pagesEdges []) = [] := rfl
  rw [accepted, missing, shared] at ran
  exact ran

theorem distinct_spelled : (spelledLayout.moves.values.map (·.modulePath)).Nodup := by
  rw [moves_spelled]
  decide

/-- A page that imports itself by its module path is accepted, and one that imports the page of the
other feature in this way is reported. -/
theorem crossings_exact_spelled :
    (∃ validation, ofStaged spelledScope spelledClassification spelledLayout (pagesStaged ownText) =
        .ok validation ∧ validation.passed = true ∧
      ImportsByAlias spelledScope spelledLayout (pagesStaged ownText) "pages/OnePage.tsx"
        "pages/OnePage.tsx" ∧
      ∀ target, ImportsByAlias spelledScope spelledLayout (pagesStaged ownText) "pages/OnePage.tsx"
          target →
        spelledClassification.featureOf target = some "one" ∨
          spelledClassification.featureOf target = none) ∧
      ∃ validation, ofStaged spelledScope spelledClassification spelledLayout
          (pagesStaged otherText) = .ok validation ∧
        .remainingCrossImport "pages/OnePage.tsx" "one" "pages/TwoPage.tsx" "two" ∈
          validation.errors := by
  have keyed := Layout.ofOwners_keyed spelledScope spelledIndex spelledClassification.owners
  constructor
  case left =>
    obtain ⟨found, parsed, imports⟩ : ∃ found,
        Code.Module.ofText ownText.toList "pages/OnePage.tsx" = .ok found ∧
          found.imports = [ownImport] :=
      Code.Module.exists_ofText_iff.mpr ⟨ownText.toList, by cbv, by cbv⟩
    have named : targetsOf "@/" spelledLayout.byModulePath found = ["pages/OnePage.tsx"] := by
      rw [targetsOf, imports]
      decide
    have masked : checkedText spelledScope "pages/OnePage.tsx" ownText.toList =
        .ok "import '                            '".toList := by
      cbv
    have ran := ofStaged_pages parsed named masked (by decide)
    have accepted : crossings spelledClassification (pagesEdges ["pages/OnePage.tsx"]) = [] := by
      cbv
    have missing : missingPages spelledScope spelledLayout (pagesEdges ["pages/OnePage.tsx"]) =
        [] := by
      cbv
    have shared : unreferenced spelledLayout (pagesEdges ["pages/OnePage.tsx"]) = [] := rfl
    rw [accepted, missing, shared] at ran
    refine ⟨_, ran, rfl, ?_, fun target =>
      (crossings_exact ran keyed distinct_spelled).2 rfl "pages/OnePage.tsx" "one" target rfl⟩
    refine ⟨ownText, found, ownImport, spelledMove, rfl, parsed, ?_, by decide, by decide⟩
    rw [imports]
    exact List.mem_cons_self
  case right =>
    obtain ⟨found, parsed, imports⟩ : ∃ found,
        Code.Module.ofText otherText.toList "pages/OnePage.tsx" = .ok found ∧
          found.imports = [otherImport] :=
      Code.Module.exists_ofText_iff.mpr ⟨otherText.toList, by cbv, by cbv⟩
    have masked : checkedText spelledScope "pages/OnePage.tsx" otherText.toList =
        .ok "import '                            '".toList := by
      cbv
    have ran := ofStaged_pages parsed rfl masked (by decide)
    refine ⟨_, ran, ((crossings_exact ran keyed distinct_spelled).1 _ _ _ _).mpr
      ⟨rfl, rfl, by decide, otherText, found, otherImport, otherMove, rfl, parsed, ?_, by decide,
        by decide⟩⟩
    rw [imports]
    exact List.mem_cons_self

/-- An import that names another feature's file with its extension leads there, and the validation
does not report it. -/
theorem crossings_spelledOut :
    ofStaged spelledScope spelledClassification spelledLayout spelledStaged =
        .ok ⟨spelledEdges, []⟩ ∧
      (⟨spelledEdges, []⟩ : Validation).passed = true ∧ spelledLayout.errors = [] ∧
      spelledStaged.find? "pages/OnePage.tsx" = some spelledText ∧
      (∃ found, Code.Module.ofText spelledText.toList "pages/OnePage.tsx" = .ok found ∧
        spelledImport ∈ found.imports) ∧
      spelledLayout.move? "pages/OnePage.tsx" = some spelledMove ∧
      spelledLayout.move? "pages/TwoPage.tsx" = some otherMove ∧
      Specifier.resolve spelledImport.specifier spelledMove.destination
          (spelledLayout.moves.values.map (·.destination)).contains "@/" =
        some otherMove.destination ∧
      spelledClassification.featureOf "pages/OnePage.tsx" = some "one" ∧
      spelledClassification.featureOf "pages/TwoPage.tsx" = some "two" := by
  have clear : spelledLayout.errors = [] := (Layout.conflicts_eq_nil_iff _).mpr distinct_spelled
  have leads : Specifier.resolve spelledImport.specifier spelledMove.destination
      (spelledLayout.moves.values.map (·.destination)).contains "@/" =
        some otherMove.destination := by
    rw [moves_spelled]
    decide
  obtain ⟨found, parsed, imports⟩ := exists_ofText_spelled
  refine ⟨ofStaged_spelled, rfl, clear, rfl, ⟨found, parsed, ?_⟩, ?_, ?_, leads, rfl, rfl⟩
  · rw [imports]
    exact List.mem_cons_self
  · decide
  · decide

end Spelled

end Validation

end FeatureLayout
