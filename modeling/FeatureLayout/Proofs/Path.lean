import FeatureLayout.Path
import Mathlib.Data.List.Basic

/-!
# Names and plain paths

A path is plain when every piece between its slashes is a name that files and folders can have. For
plain paths the textual view and the view by locations agree: the segments are the pieces, following
the path from a folder appends them, and joining the pieces gives the path back.
-/

namespace FeatureLayout

namespace Text

/-- There is at least one piece. -/
theorem fields_ne_nil (separator : Char) (text : List Char) : fields separator text ≠ [] := by
  cases text with
  | nil => simp [fields]
  | cons c rest =>
    unfold fields
    split
    · simp
    · split <;> simp

/-- Cutting at a separator cuts both sides on their own. -/
theorem fields_append (separator : Char) (front back : List Char) :
    fields separator (front ++ separator :: back) =
      fields separator front ++ fields separator back := by
  induction front with
  | nil => simp [fields]
  | cons c rest inductionHypothesis =>
    by_cases same : c = separator
    · simp [fields, same, inductionHypothesis]
    · cases pieces : fields separator rest with
      | nil => exact absurd pieces (fields_ne_nil separator rest)
      | cons first others => simp [fields, same, inductionHypothesis, pieces]

/-- A text without separator is one piece. -/
theorem fields_eq_singleton {separator : Char} {text : List Char} (absent : separator ∉ text) :
    fields separator text = [text] := by
  induction text with
  | nil => rfl
  | cons c rest inductionHypothesis =>
    obtain ⟨other, tail⟩ := not_or.mp (mt List.mem_cons.mpr absent)
    simp [fields, Ne.symm other, inductionHypothesis tail]

/-- A string is cut like its characters. -/
theorem fieldsOf_append (separator : Char) (front back : String) :
    fieldsOf separator (front ++ String.singleton separator ++ back) =
      fieldsOf separator front ++ fieldsOf separator back := by
  simp [fieldsOf, fields_append]

/-- A path is cut at a slash like its parts. -/
theorem fieldsOf_slash (front back : String) :
    fieldsOf '/' (front ++ "/" ++ back) = fieldsOf '/' front ++ fieldsOf '/' back :=
  fieldsOf_append '/' front back

theorem fieldsOf_eq_singleton {separator : Char} {text : String}
    (absent : separator ∉ text.toList) : fieldsOf separator text = [text] := by
  simp [fieldsOf, fields_eq_singleton absent]

theorem fieldsOf_ne_nil (separator : Char) (text : String) : fieldsOf separator text ≠ [] := by
  simpa [fieldsOf] using fields_ne_nil separator text.toList

/-- Joining pieces without slashes and cutting again gives the pieces. -/
theorem fieldsOf_joinWith {pieces : List String} (some : pieces ≠ [])
    (apart : ∀ piece ∈ pieces, '/' ∉ piece.toList) :
    fieldsOf '/' (joinWith "/" pieces) = pieces := by
  induction pieces with
  | nil => exact absurd rfl some
  | cons first rest inductionHypothesis =>
    have alone : fieldsOf '/' first = [first] := fieldsOf_eq_singleton (apart first (by simp))
    cases rest with
    | nil => simpa [joinWith] using alone
    | cons second others =>
      have tail := inductionHypothesis (by simp) fun piece listed => apart piece (by simp [listed])
      have joined : joinWith "/" (first :: second :: others) =
          first ++ String.singleton '/' ++ joinWith "/" (second :: others) := by
        simp only [joinWith, String.intercalate_cons_cons]
        rfl
      rw [joined, fieldsOf_append, alone, tail]
      rfl

/-- Joining the pieces of a text gives the text. -/
theorem joinWith_fieldsOf (text : String) : joinWith "/" (fieldsOf '/' text) = text := by
  have rebuilt (letters : List Char) :
      List.intercalate ['/'] (fields '/' letters) = letters := by
    induction letters with
    | nil => rfl
    | cons c rest inductionHypothesis =>
      cases pieces : fields '/' rest with
      | nil => exact absurd pieces (fields_ne_nil '/' rest)
      | cons first others =>
        rw [pieces] at inductionHypothesis
        by_cases same : c = '/'
        · simp [fields, same, pieces, List.intercalate_cons_cons, inductionHypothesis]
        · simp only [fields, beq_iff_eq, same, if_false, pieces]
          cases others with
          | nil => simpa using inductionHypothesis
          | cons second later =>
            rw [List.intercalate_cons_cons] at inductionHypothesis ⊢
            simpa using inductionHypothesis
  refine String.toList_injective ?_
  simp [joinWith, fieldsOf, String.toList_intercalate, Function.comp_def, rebuilt]

end Text

open Text

/-- Whether a text can be the name of a file or a folder. -/
def Path.IsName (segment : String) : Prop :=
  segment ≠ "" ∧ segment ≠ "." ∧ segment ≠ ".." ∧ '/' ∉ segment.toList

instance : DecidablePred Path.IsName := fun segment =>
  inferInstanceAs (Decidable (segment ≠ "" ∧ segment ≠ "." ∧ segment ≠ ".." ∧ '/' ∉ segment.toList))

namespace Path

/-- Whether a path is relative and made of names only. -/
def IsPlain (path : String) : Prop := ∀ segment ∈ fieldsOf '/' path, IsName segment

instance : DecidablePred IsPlain := fun path =>
  inferInstanceAs (Decidable (∀ segment ∈ fieldsOf '/' path, IsName segment))

/-- Cutting at slashes determines a path. -/
theorem eq_of_fieldsOf {first second : String} (same : fieldsOf '/' first = fieldsOf '/' second) :
    first = second := by
  rw [← joinWith_fieldsOf first, same, joinWith_fieldsOf]

/-- The segments of a plain path are its pieces. -/
theorem IsPlain.segments {path : String} (plain : IsPlain path) :
    Path.segments path = fieldsOf '/' path := by
  refine List.filter_eq_self.mpr fun segment listed => ?_
  obtain ⟨full, dot, -, -⟩ := plain segment listed
  simp [full, dot]

/-- Names joined by slashes are a plain path. -/
theorem isPlain_joinWith {names : List String} (some : names ≠ [])
    (proper : ∀ name ∈ names, IsName name) : IsPlain (joinWith "/" names) := by
  intro segment listed
  rw [fieldsOf_joinWith some fun name present => (proper name present).2.2.2] at listed
  exact proper segment listed

/-- Whether a path is relative and never climbs: no piece of it is empty or leads upwards. -/
def IsContained (path : String) : Prop :=
  ∀ segment ∈ fieldsOf '/' path, segment ≠ "" ∧ segment ≠ ".."

instance : DecidablePred IsContained := fun path =>
  inferInstanceAs (Decidable (∀ segment ∈ fieldsOf '/' path, segment ≠ "" ∧ segment ≠ ".."))

/-- A plain path is contained. -/
theorem IsPlain.isContained {path : String} (plain : IsPlain path) : IsContained path :=
  fun segment listed => ⟨(plain segment listed).1, (plain segment listed).2.2.1⟩

/-- A contained path does not start at the root. -/
theorem IsContained.isAbsolute {path : String} (contained : IsContained path) :
    Path.isAbsolute path = false := by
  cases letters : path.toList with
  | nil => simp [Path.isAbsolute, letters]
  | cons c rest =>
    have other : c ≠ '/' := by
      rintro rfl
      have listed : "" ∈ fieldsOf '/' path := by simp [fieldsOf, letters, fields]
      exact (contained "" listed).1 rfl
    simp [Path.isAbsolute, letters, other]

/-- A path is contained when its parts are. -/
theorem isContained_append_iff (front back : String) :
    IsContained (front ++ "/" ++ back) ↔ IsContained front ∧ IsContained back := by
  unfold IsContained
  rw [fieldsOf_slash]
  exact List.forall_mem_append

/-- Names are followed downwards. -/
theorem foldl_step (names : List String) (proper : ∀ name ∈ names, name ≠ "..")
    (folder : Location) : names.foldl Location.step folder = folder ++ names := by
  induction names generalizing folder with
  | nil => simp
  | cons name rest inductionHypothesis =>
    have down : folder.step name = folder ++ [name] := by
      simp [Location.step, proper name List.mem_cons_self]
    rw [List.foldl_cons, down, inductionHypothesis fun other listed =>
      proper other (List.mem_cons_of_mem name listed)]
    simp

/-- A contained path leads from a folder through its segments. -/
theorem IsContained.follow {path : String} (contained : IsContained path) (folder : Location) :
    folder.follow path = folder ++ segments path := by
  rw [Location.follow, contained.isAbsolute]
  exact foldl_step _ (fun segment listed => (contained segment (List.mem_filter.mp listed).1).2)
    folder

/-- A plain path leads from a folder through its pieces. -/
theorem IsPlain.follow {path : String} (plain : IsPlain path) (folder : Location) :
    folder.follow path = folder ++ fieldsOf '/' path := by
  rw [plain.isContained.follow, plain.segments]

/-- The base name of a path is its last piece. -/
theorem fieldsOf_eq_dropLast_append (path : String) :
    fieldsOf '/' path = (fieldsOf '/' path).dropLast ++ [baseName path] := by
  have last := List.dropLast_append_getLast (fieldsOf_ne_nil '/' path)
  rw [baseName, List.getLast?_eq_getLast_of_ne_nil (fieldsOf_ne_nil '/' path), Option.getD_some,
    last]

/-- The base name of a plain path is a name. -/
theorem IsPlain.baseName {path : String} (plain : IsPlain path) : IsName (baseName path) := by
  refine plain _ ?_
  rw [fieldsOf_eq_dropLast_append]
  exact List.mem_append_right _ List.mem_cons_self

/-- The pieces of a path in a folder. -/
theorem fieldsOf_folder (folder : String) {name : String} (apart : '/' ∉ name.toList) :
    fieldsOf '/' (folder ++ "/" ++ name) = fieldsOf '/' folder ++ [name] := by
  rw [fieldsOf_slash, fieldsOf_eq_singleton apart]

/-- What stands behind the last slash is the base name. -/
theorem baseName_folder (folder : String) {name : String} (apart : '/' ∉ name.toList) :
    baseName (folder ++ "/" ++ name) = name := by
  rw [baseName, fieldsOf_folder folder apart, List.getLast?_concat, Option.getD_some]

/-- The base name of a name in a folder is the name. -/
theorem baseName_append (folder : String) {name : String} (proper : IsName name) :
    baseName (folder ++ "/" ++ name) = name := baseName_folder folder proper.2.2.2

/-- The file name of a plain path is its base name. -/
theorem IsPlain.fileName {path : String} (plain : IsPlain path) :
    fileName path = Path.baseName path := by
  rw [Path.fileName, plain.segments, Path.baseName]

/-- A path ends in its base name. -/
theorem exists_append_baseName (path : String) : ∃ front, path = front ++ baseName path := by
  have joined (pieces : List String) (last : String) :
      ∃ front, joinWith "/" (pieces ++ [last]) = front ++ last := by
    induction pieces with
    | nil => exact ⟨"", by simp [joinWith]⟩
    | cons first rest inductionHypothesis =>
      obtain ⟨front, tail⟩ := inductionHypothesis
      refine ⟨first ++ "/" ++ front, ?_⟩
      cases others : rest ++ [last] with
      | nil => exact absurd others (by simp)
      | cons second later =>
        rw [others] at tail
        simp only [List.cons_append, others, joinWith, String.intercalate_cons_cons] at tail ⊢
        rw [tail]
        simp only [String.append_assoc]
  obtain ⟨front, whole⟩ := joined (fieldsOf '/' path).dropLast (baseName path)
  rw [← fieldsOf_eq_dropLast_append, joinWith_fieldsOf] at whole
  exact ⟨front, whole⟩

/-- What a path ends in without a slash, its base name ends in. -/
theorem suffix_baseName {path : String} {back : List Char} (apart : '/' ∉ back)
    (ends : back <:+ path.toList) : back <:+ (baseName path).toList := by
  by_cases slash : '/' ∈ path.toList
  · obtain ⟨behind, before, whole, last⟩ := List.eq_append_cons_of_mem (List.mem_reverse.mpr slash)
    have split : path.toList = before.reverse ++ '/' :: behind.reverse := by
      rw [← List.reverse_reverse path.toList, whole]
      simp
    have parts : path =
        String.ofList before.reverse ++ "/" ++ String.ofList behind.reverse := by
      apply String.toList_injective
      rw [split]
      simp
    have name : baseName path = String.ofList behind.reverse := by
      rw [parts, baseName_folder]
      simpa using last
    have tail : '/' :: behind.reverse <:+ path.toList := split ▸ List.suffix_append _ _
    rw [name, String.toList_ofList]
    rcases List.suffix_or_suffix_of_suffix ends tail with shorter | longer
    · refine (List.suffix_cons_iff.mp shorter).resolve_left ?_
      rintro rfl
      exact apart List.mem_cons_self
    · exact absurd (longer.subset List.mem_cons_self) apart
  · rwa [baseName, fieldsOf_eq_singleton slash, List.getLast?_singleton, Option.getD_some]

/-- What follows the last dot of a text. -/
def ending (text : List Char) : List Char := (text.reverse.takeWhile (· != '.')).reverse

/-- A text has the ending of its later part, if there is a dot in it. -/
theorem ending_append (front : List Char) {back : List Char} (dotted : '.' ∈ back) :
    ending (front ++ back) = ending back := by
  have stops : ∀ letters : List Char, '.' ∈ letters → ∀ more : List Char,
      (letters ++ more).takeWhile (· != '.') = letters.takeWhile (· != '.') := by
    intro letters present more
    induction letters with
    | nil => exact absurd present List.not_mem_nil
    | cons c rest inductionHypothesis =>
      by_cases dot : c = '.'
      · simp [dot]
      · have later := (List.mem_cons.mp present).resolve_left (Ne.symm dot)
        simp [dot, inductionHypothesis later]
  rw [ending, ending, List.reverse_append, stops _ (List.mem_reverse.mpr dotted)]

/-- A name is cut in front of its ending. -/
theorem cutName_eq_some {name front back : List Char} (cut : cutName name = some (front, back)) :
    '.' ∈ name ∧ back = '.' :: ending name := by
  unfold cutName at cut
  split at cut
  · next dot before rest =>
    dsimp only at cut
    split at cut
    · exact absurd cut (by simp)
    · obtain ⟨rfl, rfl⟩ := Prod.mk.inj (Option.some.inj cut)
      refine ⟨?_, rfl⟩
      have some : name.reverse.dropWhile (· != '.') ≠ [] := by simp [rest]
      have stop := List.head_dropWhile_not (· != '.') some
      have listed : dot ∈ name.reverse :=
        (List.dropWhile_suffix _).subset (rest ▸ List.mem_cons_self)
      simp only [rest, List.head_cons, bne_eq_false_iff_eq] at stop
      exact stop ▸ List.mem_reverse.mp listed
  · exact absurd cut (by simp)

/-- The extension of a plain path is its ending, if it has one. -/
theorem IsPlain.extension {path : String} (plain : IsPlain path) :
    extension path = "" ∨ extension path = String.ofList ('.' :: ending path.toList) := by
  rw [Path.extension, plain.fileName]
  cases cut : cutName (Path.baseName path).toList with
  | none => exact Or.inl rfl
  | some parts =>
    obtain ⟨dotted, same⟩ := cutName_eq_some cut
    obtain ⟨front, whole⟩ := exists_append_baseName path
    right
    rw [whole, String.toList_append, ending_append _ dotted]
    exact congrArg String.ofList same

/-- A plain path below a plain path is plain. -/
theorem IsPlain.append {front back : String} (first : IsPlain front) (second : IsPlain back) :
    IsPlain (front ++ "/" ++ back) := by
  intro segment listed
  rw [fieldsOf_slash, List.mem_append] at listed
  exact listed.elim (first segment) (second segment)

/-- A name is a plain path. -/
theorem IsName.isPlain {name : String} (proper : IsName name) : IsPlain name := by
  intro segment listed
  rw [fieldsOf_eq_singleton proper.2.2.2, List.mem_singleton] at listed
  exact listed ▸ proper

/-- The folder of a plain path is plain. -/
theorem IsPlain.folder {folder name : String} (plain : IsPlain (folder ++ "/" ++ name)) :
    IsPlain folder := by
  intro segment listed
  apply plain segment
  rw [fieldsOf_slash]
  exact List.mem_append_left _ listed

/-- Nothing is climbed over names. -/
theorem foldl_climb (absolute : Bool) (names : List String) (proper : ∀ name ∈ names, name ≠ "..")
    (above : List String) : names.foldl (climb absolute) above = names.reverse ++ above := by
  induction names generalizing above with
  | nil => rfl
  | cons name rest inductionHypothesis =>
    have up : climb absolute above name = name :: above := by
      simp [climb, proper name List.mem_cons_self]
    rw [List.foldl_cons, up, inductionHypothesis fun other listed =>
      proper other (List.mem_cons_of_mem name listed)]
    simp

/-- A plain path is not empty. -/
theorem IsPlain.ne_empty {path : String} (plain : IsPlain path) : path ≠ "" := by
  rintro rfl
  exact (plain "" (by decide)).1 rfl

/-- A relative path keeps no slashes at its front. -/
theorem rootMark_eq_empty {path : String} (relative : isAbsolute path = false) :
    rootMark path = "" := by
  cases letters : path.toList with
  | nil => simp [rootMark, letters]
  | cons c rest =>
    have other : (c == '/') = false := by simpa [isAbsolute, letters] using relative
    simp [rootMark, letters, other]

/-- A plain path is normal. -/
theorem IsPlain.normal {path : String} (plain : IsPlain path) : normal path = path := by
  have climbs := foldl_climb false (fieldsOf '/' path)
    (fun segment listed => (plain segment listed).2.2.1) []
  have mark := rootMark_eq_empty plain.isContained.isAbsolute
  have full : (path == "") = false := beq_eq_false_iff_ne.mpr plain.ne_empty
  rw [Path.normal, plain.segments, plain.isContained.isAbsolute, climbs, List.append_nil,
    List.reverse_reverse, mark, joinWith_fieldsOf, String.empty_append]
  simp only [full, Bool.false_eq_true, if_false]

/-- A name that is cut has something in front of its ending. -/
theorem append_of_cutName {name front back : List Char} (cut : cutName name = some (front, back)) :
    name = front ++ back ∧ front ≠ [] := by
  unfold cutName at cut
  split at cut
  · next dot before rest =>
    have stop : dot = '.' := by
      have some : name.reverse.dropWhile (· != '.') ≠ [] := by simp [rest]
      have head := List.head_dropWhile_not (· != '.') some
      simpa only [rest, List.head_cons, bne_eq_false_iff_eq] using head
    subst stop
    dsimp only at cut
    split_ifs at cut with none
    obtain ⟨rfl, rfl⟩ := Prod.mk.inj (Option.some.inj cut)
    have whole : name.reverse.takeWhile (· != '.') ++ name.reverse.dropWhile (· != '.') =
        name.reverse := List.takeWhile_append_dropWhile
    rw [rest] at whole
    constructor
    · have flipped := congrArg List.reverse whole
      rw [List.reverse_append, List.reverse_cons, List.reverse_reverse, List.append_assoc] at flipped
      exact flipped.symm
    · intro empty
      simp [List.reverse_eq_nil_iff.mp empty] at none
  · cases cut

/-- A name is cut in front of the last dot when there is something on both sides. -/
theorem cutName_append {front letters : List Char} (filled : front ≠ []) (more : letters ≠ [])
    (single : '.' ∉ letters) : cutName (front ++ '.' :: letters) = some (front, '.' :: letters) := by
  have stays : ∀ c ∈ letters.reverse, (c != '.') = true := by
    intro c listed
    rw [bne_iff_ne]
    rintro rfl
    exact single (List.mem_reverse.mp listed)
  have whole : (front ++ '.' :: letters).reverse = letters.reverse ++ '.' :: front.reverse := by
    simp
  unfold cutName
  rw [whole, List.dropWhile_append_of_pos stays, List.dropWhile_cons_of_neg (by simp),
    List.takeWhile_append_of_pos stays, List.takeWhile_cons_of_neg (by simp)]
  simp [filled, more]

/-- An extension is cut off the last segment of a path, unless nothing but dots is in front. -/
theorem withoutExtension_append (folder : String) {front letters : List Char}
    (apart : '/' ∉ front) (visible : ∃ c ∈ front, c ≠ '.')
    (single : '.' ∉ letters ∧ '/' ∉ letters) :
    withoutExtension (folder ++ "/" ++ String.ofList (front ++ '.' :: letters)) =
      folder ++ "/" ++ String.ofList front := by
  have stays : ∀ c ∈ letters.reverse, (c != '.' && c != '/') = true := by
    intro c listed
    have there := List.mem_reverse.mp listed
    rw [Bool.and_eq_true, bne_iff_ne, bne_iff_ne]
    constructor
    · rintro rfl
      exact single.1 there
    · rintro rfl
      exact single.2 there
  have inside : ∀ c ∈ front.reverse, (c != '/') = true := by
    intro c listed
    rw [bne_iff_ne]
    rintro rfl
    exact apart (List.mem_reverse.mp listed)
  have whole : (folder ++ "/" ++ String.ofList (front ++ '.' :: letters)).toList.reverse =
      letters.reverse ++ '.' :: (front.reverse ++ '/' :: folder.toList.reverse) := by
    simp
  have dots : ((front.reverse ++ '/' :: folder.toList.reverse).takeWhile (· != '/')).all
      (· == '.') = false := by
    rw [List.takeWhile_append_of_pos inside, List.takeWhile_cons_of_neg (by simp), List.append_nil,
      List.all_eq_false]
    obtain ⟨c, listed, other⟩ := visible
    exact ⟨c, List.mem_reverse.mpr listed, by simpa using other⟩
  unfold withoutExtension
  dsimp only
  rw [whole, List.dropWhile_append_of_pos stays, List.dropWhile_cons_of_neg (by simp)]
  simp only [dots, Bool.false_eq_true, if_false]
  apply String.toList_injective
  simp

end Path

end FeatureLayout
