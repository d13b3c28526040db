import FeatureLayout.Proofs.Code.Edited
import FeatureLayout.Proofs.Edit.Applied
import FeatureLayout.Proofs.Index.Consistent
import FeatureLayout.Proofs.Rewrite.Imports

/-!
# Edits of imports are apart

The forms of imports are searched for one by one, and where statements are crowded or broken the
matches may lie in each other: a list between braces may hold whole statements, and the specifier
that ends them may be found by two forms. All that the forms share is that they capture a specifier
between quotes, and this is enough: a stretch that stands between quotes and holds none is the same
as another one or apart from it. As one edit is kept for each stretch, the edits of a file are apart
and can be applied to its text.
-/

namespace FeatureLayout

open Text

namespace Code.Module

/-- Two imports that are read off a text have the same specifier or two that are apart, with
something in between. -/
theorem span_apart {text : List Char} {path : String} {found : Module}
    (read : Module.ofText text path = .ok found) {first second : Import}
    (listed : first ∈ found.imports) (also : second ∈ found.imports) :
    first.span = second.span ∨ first.span.stop < second.span.start ∨
      second.span.stop < first.span.start := by
  obtain ⟨masked, -, imports⟩ := exists_ofText_iff.mp ⟨found, read, rfl⟩
  rw [← imports] at listed also
  exact (Import.quoted_of_mem_ofText listed).apart (Import.quoted_of_mem_ofText also)

end Code.Module

namespace ImportRewrite

section Own

variable (scope : Scope) (index : SourceIndex) (classification : Classification) (layout : Layout)

/-- What is recorded for a file, if anything, are its own edits in order. -/
def RecordsOwn (rewrite : ImportRewrite) : Prop :=
  ∀ source, rewrite.editsFor source = [] ∨
    ∃ file, index.file? source = some file ∧
      rewrite.editsFor source = Edit.ordered (editsOf scope layout file)

/-- A planned file adds its own edits. -/
theorem RecordsOwn.addMove {rewrite : ImportRewrite} (own : RecordsOwn scope index layout rewrite)
    (move : Move) :
    RecordsOwn scope index layout (addMove scope index classification layout rewrite move) := by
  intro source
  unfold ImportRewrite.addMove
  split
  · exact own source
  · next file known =>
    split
    · exact own source
    · by_cases nothing : editsOf scope layout file = []
      · simpa [addFile, editsFor, nothing] using own source
      · simp only [addFile, editsFor, List.isEmpty_iff, nothing, if_false, Ledger.find?_put]
        split
        · next same => exact Or.inr ⟨file, same ▸ known, rfl⟩
        · exact own source

/-- Planned files add their own edits one after another. -/
theorem RecordsOwn.foldl {rewrite : ImportRewrite} (own : RecordsOwn scope index layout rewrite)
    (moves : List Move) :
    RecordsOwn scope index layout
      (moves.foldl (ImportRewrite.addMove scope index classification layout) rewrite) := by
  induction moves generalizing rewrite with
  | nil => exact own
  | cons move rest inductionHypothesis =>
    exact inductionHypothesis (own.addMove scope index classification layout move)

/-- Whatever the layout, every file has its own edits or none. -/
theorem recordsOwn_ofLayout :
    RecordsOwn scope index layout (ofLayout scope index classification layout) :=
  RecordsOwn.foldl scope index classification layout (fun _ => Or.inl rfl) layout.moves.values

end Own

section Specifiers

variable {file : SourceFile} {masked : List Char}
  (mirrors : ImportRef.Mirrors file.imports (Code.Import.ofText masked))

include mirrors

/-- The edits of a file replace specifiers that stand between quotes. -/
theorem exists_quoted_of_mem_editsOf (scope : Scope) (layout : Layout) {edit : Edit}
    (listed : edit ∈ editsOf scope layout file) :
    ∃ inner, Specifier.Quoted masked edit.span inner := by
  obtain ⟨pair, kept, rfl⟩ := List.mem_map.mp listed
  have candidate := (kept_planned layout file.imports).from_candidates pair kept
  obtain ⟨found, there, span, -⟩ := mirrors.forth pair.1 ((mem_led layout).mp candidate).1
  exact ⟨_, span ▸ Code.Import.quoted_of_mem_ofText there⟩

/-- The edits of a file are apart. -/
theorem apart_editsOf (scope : Scope) (layout : Layout) :
    Edit.Apart (Edit.ordered (editsOf scope layout file)) :=
  Code.Import.apart_of_quoted
    (fun _ listed => exists_quoted_of_mem_editsOf mirrors scope layout listed)
    (spans_editsOf_nodup scope layout file)

end Specifiers

/-- The specifiers of two imports of a text are the same one or apart, whatever forms found them. So
the edits of imports in a text of an index, for whatever classification and layout, are apart, and
they are applied: each specifier that leads to a planned file gives way to its replacement. -/
theorem ofLayout_apart :
    (∀ text path found, Code.Module.ofText text path = .ok found →
      ∀ first ∈ found.imports, ∀ second ∈ found.imports,
        first.span = second.span ∨ first.span.stop < second.span.start ∨
          second.span.stop < first.span.start) ∧
    ∀ tree paths read index, SourceIndex.ofTree tree paths read = .ok index →
      ∀ scope classification layout source file content,
        index.file? source = some file → file.content = some content →
        let edits := (ofLayout scope index classification layout).editsFor source
        Edit.Apart edits ∧
          Edit.applyAll edits content.toList = .ok (Edit.spliced content.toList 0 edits) := by
  refine ⟨fun text path found read first listed second also =>
    Code.Module.span_apart read listed also, ?_⟩
  intro tree paths read index built scope classification layout source file content known text
  dsimp only
  obtain none | ⟨other, same, own⟩ := recordsOwn_ofLayout scope index classification layout source
  · rw [none]
    refine ⟨.nil, ?_⟩
    simp [Edit.applyAll, Edit.ordered, Edit.overlap?, Edit.spliced]
  · obtain rfl := Option.some.inj (known.symm.trans same)
    obtain ⟨masked, blanked, mirrors⟩ := SourceIndex.exists_mirrors built known text
    have within : ∀ edit ∈ Edit.ordered (editsOf scope layout file),
        edit.Within content.toList := by
      intro edit listed
      obtain ⟨inner, quoted⟩ := exists_quoted_of_mem_editsOf mirrors scope layout
        ((Edit.ordered_perm _).mem_iff.mp listed)
      exact Code.Import.within_of_quoted blanked quoted
    have apart := apart_editsOf mirrors scope layout
    rw [own]
    refine ⟨apart, ?_⟩
    have applied := Edit.applyAll_eq_ok within (by rw [Edit.ordered_ordered]; exact apart.inRow)
    rwa [Edit.ordered_ordered] at applied

section Crowded

/-- A statement in the list of another one, and a specifier that ends two of them. -/
def crowdedText : String := "import \x7bimport './a'; export \x7bx\x7d from './b'"

/-- The texts of a tree with the crowded statements. -/
def crowdedTexts : Ledger String String :=
  Ledger.ofList [("a.ts", ""), ("b.ts", ""), ("c.ts", crowdedText)]

/-- Reads a file of the tree. -/
def crowdedRead (path : String) : Except ReadProblem String :=
  .ok ((crowdedTexts.find? path).getD "")

/-- The scope of the tree. -/
def crowdedScope : Scope where
  root := []
  features := [⟨"one", ["c.ts"], []⟩]
  excluded := []
  retain := []
  sourceAlias := .text "@/"
  targetAlias := .text "@/"
  bucket kind := .text kind.usualBucket
  storage := .usual
  contract := []
  jobs := 1
  configFile := none

/-- The imports of the crowded statements. Two of them share a specifier. -/
def crowdedImports : List Code.Import :=
  [⟨"./a", ["*"], 1, ⟨16, 19⟩, false, false⟩, ⟨"./b", ["import"], 1, ⟨39, 42⟩, false, false⟩,
    ⟨"./b", ["x"], 1, ⟨39, 42⟩, true, false⟩]

/-- The file with the crowded statements. -/
def crowdedFile : SourceFile where
  path := "c.ts"
  kind := .util
  exports := []
  imports := [⟨"c.ts", "*", "./a", 1, ⟨16, 19⟩, some "a.ts", false⟩,
    ⟨"c.ts", "import", "./b", 1, ⟨39, 42⟩, some "b.ts", false⟩,
    ⟨"c.ts", "x", "./b", 1, ⟨39, 42⟩, some "b.ts", false⟩]
  content := some crowdedText

/-- The index of the tree. -/
def crowdedIndex : SourceIndex where
  files := Ledger.ofList [("a.ts", ⟨"a.ts", .util, [], [], some ""⟩),
    ("b.ts", ⟨"b.ts", .util, [], [], some ""⟩), ("c.ts", crowdedFile)]
  excluded := []
  errors := []

/-- The layout of the tree when one feature owns all files. -/
def crowdedLayout : Layout :=
  .ofOwners crowdedScope crowdedIndex
    (Ledger.ofList [("a.ts", .feature "one"), ("b.ts", .feature "one"), ("c.ts", .feature "one")])

theorem readFile_crowded : SourceIndex.readFile crowdedRead "c.ts" =
    .ok ⟨"c.ts", crowdedText, ⟨[], crowdedImports, .util⟩⟩ :=
  SourceIndex.readFile_of_imports (by cbv) (by cbv) (by cbv) (by cbv)

theorem ofTree_crowded :
    SourceIndex.ofTree crowdedScope crowdedTexts.keys crowdedRead = .ok crowdedIndex := by
  let opened : List SourceIndex.ReadFile :=
    [⟨"a.ts", "", ⟨[], [], .util⟩⟩, ⟨"b.ts", "", ⟨[], [], .util⟩⟩,
      ⟨"c.ts", crowdedText, ⟨[], crowdedImports, .util⟩⟩]
  have discovered : Discovery.ofPaths crowdedScope crowdedTexts.keys =
      ⟨["a.ts", "b.ts", "c.ts"], []⟩ := by
    cbv
  have sources : Discovery.sources ⟨["a.ts", "b.ts", "c.ts"], []⟩ = ["a.ts", "b.ts", "c.ts"] := by
    decide
  have first : SourceIndex.readFile crowdedRead "a.ts" = .ok opened[0] :=
    SourceIndex.readFile_of_imports (by cbv) rfl (by cbv) (by cbv)
  have second : SourceIndex.readFile crowdedRead "b.ts" = .ok opened[1] :=
    SourceIndex.readFile_of_imports (by cbv) rfl (by cbv) (by cbv)
  have readable : ["a.ts", "b.ts", "c.ts"].map (SourceIndex.readFile crowdedRead) =
      opened.map .ok := by
    rw [List.map_cons, List.map_cons, List.map_cons, first, second, readFile_crowded]
    rfl
  have known : opened.map (·.path) ++ [] = ["a.ts", "b.ts", "c.ts"] := rfl
  have indexed : opened.map (SourceIndex.sourceFileOf crowdedScope.sourceAlias.content
      ["a.ts", "b.ts", "c.ts"]) =
        [⟨"a.ts", .util, [], [], some ""⟩, ⟨"b.ts", .util, [], [], some ""⟩, crowdedFile] := by
    decide
  exact SourceIndex.ofTree_eq_of_read rfl discovered (by decide) (by rw [sources, readable])
    known indexed (by decide) (by decide) (by decide)

/-- The edits of the tree. -/
def crowdedRewrite : ImportRewrite :=
  .ofLayout crowdedScope crowdedIndex (.ofGraph crowdedScope (.ofIndex crowdedIndex)) crowdedLayout

theorem editsFor_crowded : crowdedRewrite.editsFor "c.ts" =
    [⟨⟨16, 19⟩, "@/features/one/utils/a"⟩, ⟨⟨39, 42⟩, "@/features/one/utils/b"⟩] := by
  cbv

theorem ofLayout_apart_crowded :
    Code.Module.ofText crowdedText.toList "c.ts" = .ok ⟨[], crowdedImports, .util⟩ ∧
      (∀ first ∈ crowdedImports, ∀ second ∈ crowdedImports,
        first.span = second.span ∨ first.span.stop < second.span.start ∨
          second.span.stop < first.span.start) ∧
      Edit.applyAll (crowdedRewrite.editsFor "c.ts") crowdedText.toList =
        .ok ("import \x7bimport '@/features/one/utils/a'; " ++
          "export \x7bx\x7d from '@/features/one/utils/b'").toList := by
  have parsed := (SourceIndex.readFile_ok readFile_crowded).2.2
  obtain ⟨-, applied⟩ := ofLayout_apart.2 _ _ _ _ ofTree_crowded crowdedScope
    (.ofGraph crowdedScope (.ofIndex crowdedIndex)) crowdedLayout "c.ts" crowdedFile crowdedText
    rfl rfl
  refine ⟨parsed, ofLayout_apart.1 _ _ _ parsed, applied.trans ?_⟩
  have edits := editsFor_crowded
  rw [crowdedRewrite] at edits
  rw [edits]
  decide

end Crowded

end ImportRewrite

end FeatureLayout
