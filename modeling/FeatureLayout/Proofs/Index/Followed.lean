import FeatureLayout.Index.Resolve
import FeatureLayout.Proofs.Path
import Mathlib.Data.List.TakeWhile
import Mathlib.Tactic.SplitIfs

/-!
# Specifiers followed segment by segment

A relative specifier is followed from the folder of the importing file and an aliased one from the
root. A single dot stays, two dots go up, and a name goes down. Where the segments climb above the
root, the specifier leads nowhere; otherwise it leads to the first known file that the place which
they reach may stand for. The root itself is the exception: it is taken to stand for no file, although
it may have an index file like any other folder.
-/

namespace FeatureLayout

open Text

namespace Path

/-- Whether a path is relative and made of names that are not hidden. -/
def IsVisible (path : String) : Prop :=
  ∀ segment ∈ fieldsOf '/' path, segment ≠ "" ∧ startsWith segment "." = false

instance : DecidablePred IsVisible := fun path =>
  inferInstanceAs (Decidable (∀ segment ∈ fieldsOf '/' path,
    segment ≠ "" ∧ startsWith segment "." = false))

/-- A path starts with a dot when its first character is one. -/
theorem startsWith_dot_iff {path : String} :
    startsWith path "." = true ↔ ∃ rest, path.toList = '.' :: rest := by
  have dot : ".".toList = ['.'] := rfl
  rw [startsWith, dot]
  cases path.toList with
  | nil => simp
  | cons c rest =>
    rw [List.isPrefixOf_cons_cons, List.isPrefixOf_nil_left, Bool.and_true, beq_iff_eq]
    constructor
    · rintro rfl
      exact ⟨rest, rfl⟩
    · rintro ⟨_, same⟩
      exact (List.cons.inj same).1.symm

/-- The pieces of a path have no slashes. -/
theorem not_mem_of_mem_fieldsOf {path segment : String} (listed : segment ∈ fieldsOf '/' path) :
    '/' ∉ segment.toList := by
  have apart (letters : List Char) : ∀ piece ∈ fields '/' letters, '/' ∉ piece := by
    induction letters with
    | nil => simp [fields]
    | cons c rest inductionHypothesis =>
      unfold fields
      split_ifs with same
      · simpa using inductionHypothesis
      · have other : ¬ '/' = c := fun equal => same (by rw [equal, BEq.rfl])
        cases pieces : fields '/' rest with
        | nil => simpa using other
        | cons first others =>
          rw [pieces] at inductionHypothesis
          obtain ⟨head, tail⟩ := List.forall_mem_cons.mp inductionHypothesis
          exact List.forall_mem_cons.mpr ⟨by simp [other, head], tail⟩
  obtain ⟨piece, cut, rfl⟩ := List.mem_map.mp listed
  rw [String.toList_ofList]
  exact apart _ piece cut

/-- A visible path is plain. -/
theorem IsVisible.isPlain {path : String} (visible : IsVisible path) : IsPlain path := by
  intro segment listed
  obtain ⟨full, shown⟩ := visible segment listed
  refine ⟨full, ?_, ?_, not_mem_of_mem_fieldsOf listed⟩
  · rintro rfl
    exact absurd shown (by decide)
  · rintro rfl
    exact absurd shown (by decide)

/-- A visible path does not start with a dot. -/
theorem IsVisible.undotted {path : String} (visible : IsVisible path) :
    startsWith path "." = false := by
  rw [Bool.eq_false_iff, Ne, startsWith_dot_iff]
  rintro ⟨rest, letters⟩
  obtain ⟨segment, listed, first⟩ :
      ∃ segment ∈ fieldsOf '/' path, startsWith segment "." = true := by
    obtain ⟨piece, cut⟩ : ∃ piece, '.' :: piece ∈ fields '/' ('.' :: rest) := by
      rw [fields, if_neg (by decide)]
      split
      · exact ⟨[], List.mem_cons_self⟩
      · exact ⟨_, List.mem_cons_self⟩
    refine ⟨String.ofList ('.' :: piece), ?_, startsWith_dot_iff.mpr ⟨piece, by simp⟩⟩
    rw [fieldsOf, letters]
    exact List.mem_map.mpr ⟨_, cut, rfl⟩
  rw [(visible segment listed).2] at first
  cases first

/-- What stands in front of the last slash of a path is its folder. -/
theorem parent_append {folder name : String} (filled : folder ≠ "")
    (ends : folder.toList.getLast? ≠ some '/') (apart : '/' ∉ name.toList) :
    parent (folder ++ "/" ++ name) = folder := by
  have slash : "/".toList = ['/'] := rfl
  have passed : ∀ c ∈ name.toList.reverse, (c != '/') = true := by
    intro c listed
    rw [bne_iff_ne]
    rintro rfl
    exact apart (List.mem_reverse.mp listed)
  have front : (folder ++ "/" ++ name).toList.reverse.dropWhile (· != '/') =
      '/' :: folder.toList.reverse := by
    rw [String.toList_append, String.toList_append, slash, List.append_assoc, List.reverse_append,
      List.singleton_append, List.reverse_cons, List.append_assoc,
      List.dropWhile_append_of_pos passed, List.singleton_append,
      List.dropWhile_cons_of_neg (by simp)]
  obtain ⟨c, rest, letters⟩ : ∃ c rest, folder.toList.reverse = c :: rest :=
    List.exists_cons_of_ne_nil fun none =>
      filled (String.toList_injective (List.reverse_eq_nil_iff.mp none))
  have other : ¬ c = '/' := by
    rintro rfl
    rw [← List.head?_reverse, letters] at ends
    exact ends rfl
  rw [parent, front, letters, if_neg (by simp [other]), List.dropWhile_cons_of_pos (by simp),
    List.dropWhile_cons_of_neg (by simpa using other), ← letters, List.reverse_reverse,
    String.ofList_toList]

/-- A name without slashes has no folder. -/
theorem parent_eq_empty {name : String} (apart : '/' ∉ name.toList) : parent name = "" := by
  have none : name.toList.reverse.dropWhile (· != '/') = [] := by
    refine List.dropWhile_eq_nil_iff.mpr fun c listed => ?_
    rw [bne_iff_ne]
    rintro rfl
    exact apart (List.mem_reverse.mp listed)
  rw [parent, none]
  rfl

/-- A plain path does not end with a slash. -/
theorem IsPlain.getLast?_ne {path : String} (plain : IsPlain path) :
    path.toList.getLast? ≠ some '/' := by
  intro last
  obtain ⟨front, letters⟩ := List.getLast?_eq_some_iff.mp last
  have cut : path = String.ofList front ++ String.singleton '/' ++ "" := by
    apply String.toList_injective
    simp [letters]
  apply (plain "" _).1 rfl
  rw [cut, fieldsOf_append]
  exact List.mem_append_right _ (by decide)

/-- The folder of a plain path is made of its folders. -/
theorem IsPlain.parent {path : String} (plain : IsPlain path) :
    parent path = joinWith "/" (folders path) := by
  rw [folders, plain.segments]
  have pieces := fieldsOf_eq_dropLast_append path
  have proper := plain.baseName
  generalize (fieldsOf '/' path).dropLast = outer at pieces ⊢
  cases outer with
  | nil =>
    have single : path = Path.baseName path := by
      have joined := joinWith_fieldsOf path
      rw [pieces] at joined
      exact joined.symm
    rw [parent_eq_empty (single ▸ proper.2.2.2)]
    rfl
  | cons first others =>
    have names : ∀ name ∈ first :: others, IsName name := fun name listed =>
      plain name (pieces ▸ List.mem_append_left _ listed)
    have folder := isPlain_joinWith (List.cons_ne_nil first others) names
    have whole : path = joinWith "/" (first :: others) ++ "/" ++ Path.baseName path := by
      apply eq_of_fieldsOf
      rw [fieldsOf_folder _ proper.2.2.2, fieldsOf_joinWith (List.cons_ne_nil first others)
        fun name listed => (names name listed).2.2.2, ← pieces]
    rw [whole]
    exact parent_append folder.ne_empty folder.getLast?_ne proper.2.2.2

end Path

namespace Specifier

/-- Follows one piece of a path from a folder of the tree, whose names are given last first; none
when it climbs above the root. -/
def step? (above : List String) (piece : String) : Option (List String) :=
  if piece = "" ∨ piece = "." then some above
  else if piece = ".." then above.tail?
  else some (piece :: above)

/-- Follows pieces of a path from a folder of the tree. -/
def follow? (above pieces : List String) : Option (List String) := pieces.foldlM step? above

/-- The files that a place of the tree may stand for: the path itself, the path with each extension
of source files, and the index files of the folder. The root has index files only. -/
def filesAt : List String → List String
  | [] => Code.sourceExtensions.map ("index" ++ ·)
  | above => candidates (joinWith "/" above.reverse)

/-- Where a specifier is followed from, and the pieces that are followed. -/
inductive Leads (importer shorthand : String) : String → List String → List String → Prop
  | relative (specifier : String) (dotted : startsWith specifier "." = true) :
    Leads importer shorthand specifier (Path.folders importer).reverse (fieldsOf '/' specifier)
  | aliased (path : String) (relative : Path.isAbsolute path = false) :
    Leads importer shorthand (shorthand ++ path) [] (fieldsOf '/' path)

section Follow

variable {above reached pieces : List String}

/-- Above the root, everything stays above the root. -/
theorem getLast?_foldl_climb (outside : above.getLast? = some "..") (segments : List String) :
    (segments.foldl (Path.climb false) above).getLast? = some ".." := by
  induction segments generalizing above with
  | nil => exact outside
  | cons segment rest inductionHypothesis =>
    refine inductionHypothesis ?_
    obtain ⟨last, outer, rfl⟩ : ∃ last outer, above = last :: outer :=
      List.exists_cons_of_ne_nil (by rintro rfl; cases outside)
    unfold Path.climb
    split
    · simpa using outside
    · dsimp only
      split
      · simpa using outside
      · next name =>
        cases outer with
        | nil =>
          rw [List.getLast?_singleton, Option.some.injEq] at outside
          exact absurd outside (by simpa using name)
        | cons second others => simpa using outside

/-- The pieces of a path that lead somewhere. -/
def moving (pieces : List String) : List String :=
  pieces.filter fun piece => piece != "" && piece != "."

theorem moving_cons (piece : String) (rest : List String) :
    moving (piece :: rest) = moving [piece] ++ moving rest :=
  List.filter_append [piece] rest

/-- A step climbs as normalizing a path does, and leads over names. -/
theorem climb_of_step? {piece : String} (names : ∀ name ∈ above, Path.IsName name)
    (apart : '/' ∉ piece.toList) (stepped : step? above piece = some reached) :
    (moving [piece]).foldl (Path.climb false) above = reached ∧
      ∀ name ∈ reached, Path.IsName name := by
  unfold step? at stepped
  split_ifs at stepped with stays up
  · obtain rfl := Option.some.inj stepped
    rcases stays with rfl | rfl <;> exact ⟨rfl, names⟩
  · subst up
    cases above with
    | nil => cases stepped
    | cons last outer =>
      obtain rfl : outer = reached := Option.some.inj stepped
      obtain ⟨proper, others⟩ := List.forall_mem_cons.mp names
      exact ⟨by simp [moving, Path.climb, proper.2.2.1], others⟩
  · obtain rfl := Option.some.inj stepped
    obtain ⟨full, dot⟩ := not_or.mp stays
    exact ⟨by simp [moving, Path.climb, full, dot, up],
      List.forall_mem_cons.mpr ⟨⟨full, dot, up, apart⟩, names⟩⟩

/-- A step above the root is kept by normalizing. -/
theorem climb_of_step?_eq_none {piece : String} (climbed : step? above piece = none) :
    (moving [piece]).foldl (Path.climb false) above = [".."] := by
  unfold step? at climbed
  split_ifs at climbed with stays up
  subst up
  cases above with
  | nil => rfl
  | cons last outer => cases climbed

/-- Following pieces climbs as normalizing a path does, and leads over names. -/
theorem climb_of_follow? (names : ∀ name ∈ above, Path.IsName name)
    (apart : ∀ piece ∈ pieces, '/' ∉ piece.toList) (followed : follow? above pieces = some reached) :
    (moving pieces).foldl (Path.climb false) above = reached ∧
      ∀ name ∈ reached, Path.IsName name := by
  induction pieces generalizing above with
  | nil =>
    obtain rfl := Option.some.inj followed
    exact ⟨rfl, names⟩
  | cons piece rest inductionHypothesis =>
    obtain ⟨here, later⟩ := List.forall_mem_cons.mp apart
    rw [follow?, List.foldlM_cons] at followed
    obtain ⟨next, stepped, onwards⟩ := Option.bind_eq_some_iff.mp followed
    obtain ⟨climbs, also⟩ := climb_of_step? names here stepped
    rw [moving_cons, List.foldl_append, climbs]
    exact inductionHypothesis also later onwards

/-- Where the pieces climb above the root, so does the normalized path. -/
theorem getLast?_of_follow?_eq_none (names : ∀ name ∈ above, Path.IsName name)
    (apart : ∀ piece ∈ pieces, '/' ∉ piece.toList) (climbed : follow? above pieces = none) :
    ((moving pieces).foldl (Path.climb false) above).getLast? = some ".." := by
  induction pieces generalizing above with
  | nil => cases climbed
  | cons piece rest inductionHypothesis =>
    obtain ⟨here, later⟩ := List.forall_mem_cons.mp apart
    rw [follow?, List.foldlM_cons] at climbed
    rw [moving_cons, List.foldl_append]
    cases stepped : step? above piece with
    | none =>
      rw [climb_of_step?_eq_none stepped]
      exact getLast?_foldl_climb rfl _
    | some next =>
      obtain ⟨climbs, also⟩ := climb_of_step? names here stepped
      rw [stepped] at climbed
      rw [climbs]
      exact inductionHypothesis also later climbed

end Follow

section Resolve

variable {specifier importer shorthand path : String} {above pieces : List String}
  {isKnown : String → Bool}

/-- Joined pieces start with the first one. -/
theorem startsWith_joinWith (first : String) (rest : List String) :
    startsWith (joinWith "/" (first :: rest)) first = true := by
  rw [startsWith, List.isPrefixOf_iff_prefix]
  cases rest with
  | nil => simp [joinWith]
  | cons second others => simp [joinWith, String.intercalate_cons_cons]

/-- Nothing that is known starts with a dot. -/
theorem find?_candidates_eq_none (known : ∀ path, isKnown path = true → Path.IsVisible path)
    {base : String} (outside : startsWith base ".." = true) :
    (candidates base).find? isKnown = none := by
  have dots : "..".toList = ['.', '.'] := rfl
  rw [startsWith, List.isPrefixOf_iff_prefix, dots] at outside
  obtain ⟨rest, letters⟩ := outside
  refine List.find?_eq_none.mpr fun candidate tried found => ?_
  obtain ⟨more, rfl⟩ : ∃ more, candidate = base ++ more := by
    simp only [candidates, List.cons_append, List.mem_cons, List.mem_append, List.mem_map] at tried
    rcases tried with rfl | ⟨ending, -, rfl⟩ | ⟨ending, -, rfl⟩
    · exact ⟨"", by simp⟩
    · exact ⟨ending, rfl⟩
    · exact ⟨"/index" ++ ending, String.append_assoc⟩
  have shown := (known _ found).undotted
  rw [Bool.eq_false_iff, Ne, Path.startsWith_dot_iff] at shown
  exact shown ⟨'.' :: rest ++ more.toList, by simp [← letters]⟩

/-- Where a specifier leads that stands for a path from the root. -/
theorem resolve_normal (base : base? specifier importer shorthand = some (Path.normal path))
    (relative : Path.isAbsolute path = false)
    (climbs : (Path.segments path).foldl (Path.climb false) [] =
      (moving pieces).foldl (Path.climb false) above)
    (names : ∀ name ∈ above, Path.IsName name) (apart : ∀ piece ∈ pieces, '/' ∉ piece.toList)
    (known : ∀ path, isKnown path = true → Path.IsVisible path) :
    ((follow? above pieces = none ∨ follow? above pieces = some []) →
      resolve specifier importer isKnown shorthand = none) ∧
    ∀ name outer, follow? above pieces = some (name :: outer) →
      resolve specifier importer isKnown shorthand = (filesAt (name :: outer)).find? isKnown := by
  have normal : Path.normal path =
      if joinWith "/" ((moving pieces).foldl (Path.climb false) above).reverse == "" then "."
      else joinWith "/" ((moving pieces).foldl (Path.climb false) above).reverse := by
    rw [Path.normal, relative, climbs, Path.rootMark_eq_empty relative]
    simp only [String.empty_append]
  rw [resolve, base]
  dsimp only
  refine ⟨fun nowhere => ?nowhere, fun name outer followed => ?somewhere⟩
  case nowhere =>
    rcases nowhere with climbed | root
    · have last := getLast?_of_follow?_eq_none names apart climbed
      rw [← List.head?_reverse] at last
      obtain ⟨rest, shape⟩ := List.head?_eq_some_iff.mp last
      have outside := startsWith_joinWith ".." rest
      rw [shape] at normal
      have full : (joinWith "/" (".." :: rest) == "") = false := by
        rw [beq_eq_false_iff_ne]
        intro empty
        rw [empty] at outside
        cases outside
      rw [normal, full, if_neg Bool.false_ne_true, outside]
      rfl
    · rw [(climb_of_follow? names apart root).1] at normal
      rw [normal]
      rfl
  case somewhere =>
    obtain ⟨reached, proper⟩ := climb_of_follow? names apart followed
    have plain : Path.IsPlain (joinWith "/" (name :: outer).reverse) :=
      Path.isPlain_joinWith (by simp) fun other listed => proper other (List.mem_reverse.mp listed)
    have full : (joinWith "/" (name :: outer).reverse == "") = false :=
      beq_eq_false_iff_ne.mpr plain.ne_empty
    have inside : (joinWith "/" (name :: outer).reverse == ".") = false := by
      rw [beq_eq_false_iff_ne]
      intro here
      rw [here] at plain
      exact absurd plain (by decide)
    rw [normal, reached, full, if_neg Bool.false_ne_true, inside, Bool.or_false, filesAt]
    · split
      · next outside => exact (find?_candidates_eq_none known outside).symm
      · rfl
    · exact List.cons_ne_nil name outer

/-- The folders of a plain path are names. -/
theorem isName_of_mem_folders (plain : Path.IsPlain path) :
    ∀ name ∈ Path.folders path, Path.IsName name := by
  intro name listed
  rw [Path.folders, plain.segments] at listed
  exact plain name (List.dropLast_subset _ listed)

/-- A path from the folder of a file, with the folders of the file. -/
theorem segments_join (plain : Path.IsPlain importer)
    (relative : Path.isAbsolute specifier = false) :
    Path.isAbsolute (Path.join (Path.parent importer) specifier) = false ∧
      Path.segments (Path.join (Path.parent importer) specifier) =
        Path.folders importer ++ Path.segments specifier := by
  have names := isName_of_mem_folders plain
  rw [plain.parent, Path.join, relative, if_neg Bool.false_ne_true]
  cases folders : Path.folders importer with
  | nil => exact ⟨relative, rfl⟩
  | cons first others =>
    rw [folders] at names
    have folder := Path.isPlain_joinWith (List.cons_ne_nil first others) names
    have unclosed : ¬ (joinWith "/" (first :: others) == "" ||
        (joinWith "/" (first :: others)).toList.getLast? == some '/') = true := by
      simp [folder.ne_empty, folder.getLast?_ne]
    rw [if_neg unclosed]
    constructor
    · have start := folder.isContained.isAbsolute
      cases letters : (joinWith "/" (first :: others)).toList with
      | nil => exact absurd (String.toList_injective letters) folder.ne_empty
      | cons c rest => simpa [Path.isAbsolute, letters] using start
    · have pieces := fieldsOf_joinWith (List.cons_ne_nil first others)
        fun name listed => (names name listed).2.2.2
      have kept := folder.segments
      rw [Path.segments, pieces] at kept
      rw [Path.segments, fieldsOf_slash, pieces, List.filter_append, kept]
      rfl

/-- A path behind an alias is what the specifier names. -/
theorem base?_aliased (nonempty : shorthand ≠ "") (undotted : startsWith shorthand "." = false)
    (path importer : String) :
    base? (shorthand ++ path) importer shorthand = some (Path.normal path) := by
  have letters : (shorthand ++ path).toList = shorthand.toList ++ path.toList :=
    String.toList_append
  have relative : startsWith (shorthand ++ path) "." = false := by
    rw [Bool.eq_false_iff, Ne, Path.startsWith_dot_iff] at undotted ⊢
    rintro ⟨rest, same⟩
    cases start : shorthand.toList with
    | nil => exact nonempty (String.toList_injective start)
    | cons c more =>
      rw [letters, start, List.cons_append] at same
      exact undotted ⟨more, by rw [start, (List.cons.inj same).1]⟩
  have aliased : isAliased (shorthand ++ path) shorthand = true := by
    rw [isAliased, startsWith, letters, Bool.and_eq_true, bne_iff_ne]
    exact ⟨nonempty, List.isPrefixOf_iff_prefix.mpr (List.prefix_append _ _)⟩
  rw [base?, relative, aliased, letters, ← String.length_toList, List.drop_left,
    String.ofList_toList]
  rfl

/-- A specifier leads nowhere when its segments climb above the root or lead to the root itself.
From any other place that they lead to, it leads to the first known file that the place may stand
for, if there is one. -/
theorem resolve_exact {start : List String} (visible : Path.IsVisible importer)
    (known : ∀ path, isKnown path = true → Path.IsVisible path) (nonempty : shorthand ≠ "")
    (undotted : startsWith shorthand "." = false)
    (leads : Leads importer shorthand specifier start pieces) :
    (follow? start pieces = none → resolve specifier importer isKnown shorthand = none) ∧
    (follow? start pieces = some [] → resolve specifier importer isKnown shorthand = none) ∧
    ∀ name outer, follow? start pieces = some (name :: outer) →
      resolve specifier importer isKnown shorthand = (filesAt (name :: outer)).find? isKnown := by
  have apart (path : String) : ∀ piece ∈ fieldsOf '/' path, '/' ∉ piece.toList :=
    fun piece => Path.not_mem_of_mem_fieldsOf
  suffices both : ((follow? start pieces = none ∨ follow? start pieces = some []) →
      resolve specifier importer isKnown shorthand = none) ∧
      ∀ name outer, follow? start pieces = some (name :: outer) →
        resolve specifier importer isKnown shorthand = (filesAt (name :: outer)).find? isKnown from
    ⟨fun climbed => both.1 (Or.inl climbed), fun root => both.1 (Or.inr root), both.2⟩
  cases leads with
  | relative specifier dotted =>
    obtain ⟨rest, letters⟩ := Path.startsWith_dot_iff.mp dotted
    have relative : Path.isAbsolute specifier = false := by simp [Path.isAbsolute, letters]
    obtain ⟨joined, segments⟩ := segments_join visible.isPlain relative
    have names := isName_of_mem_folders visible.isPlain
    have base : base? specifier importer shorthand =
        some (Path.normal (Path.join (Path.parent importer) specifier)) := by
      rw [base?, dotted, if_pos rfl]
    refine resolve_normal base joined ?_ (fun name listed => names name (List.mem_reverse.mp listed))
      (apart specifier) known
    rw [segments, List.foldl_append,
      Path.foldl_climb false _ (fun name listed => (names name listed).2.2.1), List.append_nil]
    rfl
  | aliased path relative =>
    refine resolve_normal (base?_aliased nonempty undotted path importer) relative rfl
      (fun name listed => absurd listed List.not_mem_nil) (apart path) known

end Resolve

section Root

/-- Two files at the root and two in folders. -/
def settledPaths : List String := ["index.ts", "main.ts", "pages/Home.tsx", "pages/parts/index.ts"]

theorem resolve_exact_parts :
    Path.IsVisible "pages/Home.tsx" ∧
      (∀ path, settledPaths.contains path = true → Path.IsVisible path) ∧
      Leads "pages/Home.tsx" "@/" "./../pages/./parts" ["pages"] [".", "..", "pages", ".", "parts"] ∧
      follow? ["pages"] [".", "..", "pages", ".", "parts"] = some ["parts", "pages"] ∧
      resolve "./../pages/./parts" "pages/Home.tsx" settledPaths.contains "@/" =
        some "pages/parts/index.ts" ∧
      resolve "../../main" "pages/Home.tsx" settledPaths.contains "@/" = none := by
  have visible : Path.IsVisible "pages/Home.tsx" := by decide
  have known : ∀ path, settledPaths.contains path = true → Path.IsVisible path := by
    intro path listed
    have all : ∀ path ∈ settledPaths, Path.IsVisible path := by decide
    exact all path (List.contains_iff_mem.mp listed)
  have inside : Leads "pages/Home.tsx" "@/" "./../pages/./parts" ["pages"]
      [".", "..", "pages", ".", "parts"] := .relative _ (by decide)
  have outside : Leads "pages/Home.tsx" "@/" "../../main" ["pages"] ["..", "..", "main"] :=
    .relative _ (by decide)
  have followed : follow? ["pages"] [".", "..", "pages", ".", "parts"] = some ["parts", "pages"] := by
    decide
  refine ⟨visible, known, inside, followed, ?_, ?_⟩
  · rw [(resolve_exact visible known (by decide) (by decide) inside).2.2 "parts" ["pages"] followed]
    decide
  · exact (resolve_exact visible known (by decide) (by decide) outside).1 (by decide)

/-- A specifier that leads to the root finds no file, although the root has an index file. -/
theorem resolve_root :
    (∀ path ∈ settledPaths, Path.IsVisible path) ∧
      Leads "pages/Home.tsx" "@/" ".." ["pages"] [".."] ∧ follow? ["pages"] [".."] = some [] ∧
      (filesAt []).find? settledPaths.contains = some "index.ts" ∧
      resolve ".." "pages/Home.tsx" settledPaths.contains "@/" = none := by
  exact ⟨by decide, .relative _ (by decide), by decide, by decide, by decide⟩

end Root

end Specifier

end FeatureLayout
