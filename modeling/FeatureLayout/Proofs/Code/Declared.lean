import FeatureLayout.Proofs.Code.Lines
import FeatureLayout.Proofs.Text.Sorted
import Mathlib

/-!
# Import declarations are read back

A search for a form goes through printed declarations line by line: it finds the import on the lines
of its form and passes the others. The four searches together find every declaration once, and
sorting by the places of specifiers puts the declarations back in their order.
-/

namespace FeatureLayout.Code

open Text Pattern Import

section Shown

/-- From one reading to another, a stretch of text is shown as it is. -/
def Shows (reading : Reading) (passed : List Char) (following : Reading) : Prop :=
  ∀ rest, (CommentLayer.text reading).mask (passed ++ rest) =
    ((CommentLayer.text following).mask rest).map (passed ++ ·)

namespace Shows

variable {first second third : Reading} {passed more : List Char}

theorem nil (reading : Reading) : Shows reading [] reading := fun rest => by
  rw [List.nil_append]
  cases (CommentLayer.text reading).mask rest <;> rfl

theorem append (early : Shows first passed second) (late : Shows second more third) :
    Shows first (passed ++ more) third := fun rest => by
  rw [List.append_assoc, early, late]
  cases (CommentLayer.text third).mask rest with
  | error problem => rfl
  | ok shown => exact congrArg Except.ok (List.append_assoc _ _ _).symm

/-- A character that starts no comment is shown as it is. -/
theorem one {c : Char} (text : first ≠ .outside ∨ c ≠ '/') : Shows first [c] (first.next c) := by
  intro rest
  refine CommentLayer.mask_text ?_
  rcases text with inside | plain
  · cases first with
    | outside => exact absurd rfl inside
    | inside quote escaped => rfl
  · exact CommentLayer.next_text (Or.inl plain)

/-- What starts no comment and leaves the reading as it is is shown as it is. -/
theorem of_steady (text : ∀ c ∈ passed, first ≠ .outside ∨ c ≠ '/')
    (steady : ∀ c ∈ passed, first.next c = first) : Shows first passed first := by
  induction passed with
  | nil => exact nil first
  | cons c rest inductionHypothesis =>
    obtain ⟨plain, others⟩ := List.forall_mem_cons.mp text
    obtain ⟨same, later⟩ := List.forall_mem_cons.mp steady
    have here := one plain
    rw [same] at here
    exact here.append (inductionHypothesis others later)

end Shows

namespace Declaration

/-- No comment starts in the line of a declaration. -/
theorem shows_line (declaration : Declaration) : Shows .outside declaration.line .outside := by
  have plain {text : List Char} (letters : ∀ c ∈ text, Code.isQuote c = false ∧ c ≠ '/') :
      Shows .outside text .outside :=
    .of_steady (fun c listed => Or.inr (letters c listed).2) fun c listed => by
      rw [Reading.next, (letters c listed).1]
      rfl
  have printed {text : List Char} (letters : ∀ c ∈ text, isPrinted c = true) :
      Shows .outside text .outside := plain fun c listed => by
    have other {refused : Char} (rejected : isPrinted refused = false) : c ≠ refused :=
      ne_of_isPrinted (letters c listed) rejected
    have single : c ≠ '\'' := other (by decide)
    have double : c ≠ '"' := other (by decide)
    have template : c ≠ '`' := other (by decide)
    exact ⟨by simp [Code.isQuote, single, double, template], other (by decide)⟩
  have opens : Shows .outside [declaration.quote] (.inside declaration.quote false) := by
    rcases declaration.isQuote with same | same <;> rw [same] <;> exact .one (Or.inr (by decide))
  have inner : Shows (.inside declaration.quote false) declaration.specifier.toList
      (.inside declaration.quote false) :=
    .of_steady (fun c listed => Or.inl (by simp)) fun c listed => by
      obtain ⟨inside, slash⟩ := declaration.plain c listed
      rw [Reading.next_of_isInner declaration.isQuote inside]
      simp [slash]
  have closes : Shows (.inside declaration.quote false) [declaration.quote] .outside := by
    rcases declaration.isQuote with same | same <;> rw [same] <;> exact .one (Or.inr (by decide))
  have ending : Shows .outside declaration.ending .outside := plain fun c listed => by
    rcases declaration.mem_ending c listed with rfl | rfl <;> decide
  exact (printed declaration.head.isPrinted_before).append
    ((printed declaration.head.isPrinted_opening).append
      (opens.append (inner.append (closes.append ending))))

/-- Nothing of what is printed is blanked. -/
theorem maskComments_print {last : List Char} (ends : last = [] ∨ last = ['\n'])
    (declarations : List Declaration) :
    maskComments (print last declarations) = .ok (print last declarations) := by
  have lineBreak : Shows .outside ['\n'] .outside := .one (Or.inr (by decide))
  have rest : Shows .outside last .outside := by
    rcases ends with rfl | rfl
    · exact .nil _
    · exact lineBreak
  have behind (declarations : List Declaration) :
      Shows .outside (behind last declarations) .outside := by
    induction declarations with
    | nil => exact rest
    | cons declaration others inductionHypothesis =>
      exact lineBreak.append (declaration.shows_line.append inductionHypothesis)
  have whole : Shows .outside (print last declarations) .outside := by
    cases declarations with
    | nil => exact rest
    | cons declaration others => exact declaration.shows_line.append (behind others)
  have shown := whole []
  rw [List.append_nil] at shown
  rw [maskComments, shown]
  exact congrArg Except.ok (List.append_nil _)

end Declaration

end Shown

namespace Declaration

section Placed

/-- Declarations are printed one behind the other. -/
theorem le_of_mem_placed {number offset : Nat} {declarations : List Declaration}
    {item : Declaration × Nat × Nat} (listed : item ∈ placed number offset declarations) :
    offset ≤ item.2.2 := by
  induction declarations generalizing number offset with
  | nil => exact absurd listed List.not_mem_nil
  | cons declaration rest inductionHypothesis =>
    rcases List.mem_cons.mp listed with rfl | later
    · exact Nat.le_refl _
    · have behind := inductionHypothesis later
      omega

theorem placed_pairwise (number offset : Nat) (declarations : List Declaration) :
    (placed number offset declarations).Pairwise fun first second =>
      first.2.2 + first.1.line.length < second.2.2 := by
  induction declarations generalizing number offset with
  | nil => exact .nil
  | cons declaration rest inductionHypothesis =>
    exact .cons (fun item listed => le_of_mem_placed listed) (inductionHypothesis _ _)

theorem place_le (declaration : Declaration) : declaration.place ≤ declaration.line.length := by
  simp only [place, line, List.length_append, List.length_cons]
  omega

/-- The specifiers of declarations stand one behind the other. -/
theorem imports_pairwise (declarations : List Declaration) :
    (imports declarations).Pairwise fun first second => first.span.start < second.span.start := by
  refine List.pairwise_map.mpr (((placed_pairwise 1 0 declarations).filter _).imp ?_)
  intro first second apart
  have within := first.1.place_le
  simp only [imported]
  omega

end Placed

/-- A text starts with the end of a line behind each declaration. -/
theorem breaks_behind {last : List Char} (ends : last = [] ∨ last = ['\n'])
    (declarations : List Declaration) : Breaks (behind last declarations) := by
  cases declarations with
  | nil => exact ends.imp id fun same => ⟨[], same⟩
  | cons next others => exact Or.inr ⟨_, rfl⟩

section Searched

variable {form : Form} {text front last : List Char} {first second : Cursor}
  {declaration : Declaration} {declarations : List Declaration}

/-- The imports of one form that placed declarations stand for. -/
def importsIn (form : Form) (items : List (Declaration × Nat × Nat)) : List Import :=
  ((items.filter fun item => item.1.specifier ≠ "").filter fun item =>
    item.1.head.form = form).map fun item => item.1.imported item.2.1 item.2.2

theorem importsIn_cons (form : Form) (item : Declaration × Nat × Nat)
    (rest : List (Declaration × Nat × Nat)) :
    importsIn form (item :: rest) = importsIn form [item] ++ importsIn form rest := by
  rw [importsIn, ← List.singleton_append, List.filter_append, List.filter_append, List.map_append]
  rfl

/-- No line ends inside of a declaration. -/
theorem count_line (declaration : Declaration) : declaration.line.count '\n' = 0 := by
  have printed {text : List Char} (letters : ∀ c ∈ text, isPrinted c = true) : '\n' ∉ text :=
    fun listed => ne_of_isPrinted (letters _ listed) (by decide) rfl
  have quote : declaration.quote ≠ '\n' := by
    rcases declaration.isQuote with same | same <;> rw [same] <;> decide
  have inner : '\n' ∉ declaration.specifier.toList := fun listed =>
    absurd (declaration.inner _ listed) (by decide)
  have ending : '\n' ∉ declaration.ending := fun listed =>
    absurd (declaration.mem_ending _ listed) (by decide)
  refine List.count_eq_zero.mpr ?_
  simp [line, printed declaration.head.isPrinted_before, printed declaration.head.isPrinted_opening,
    quote.symm, inner, ending]

/-- On the line of a declaration, a search finds its import if it is of the form that is searched
for, and nothing otherwise. -/
theorem map_searchAt_line (closed : declaration.IsClosed) (breaks : Breaks second.ahead)
    (start : (Cursor.start text).Leads front first) (edge : first.before.any isWord = false)
    (leads : first.Leads declaration.line second) :
    (form.pattern.searchAt first).map (form.read text) =
      importsIn form [(declaration, front.count '\n' + 1, first.offset)] ++
        (form.pattern.searchAt second).map (form.read text) := by
  by_cases other : declaration.specifier = "" ∨ form ≠ declaration.head.form
  · have none : importsIn form [(declaration, front.count '\n' + 1, first.offset)] = [] := by
      rcases other with empty | apart
      · simp [importsIn, empty]
      · simp [importsIn, List.filter_filter, Ne.symm apart]
    rw [searchAt_apart closed breaks leads other, none, List.nil_append]
  · obtain ⟨filled, same⟩ := not_or.mp other
    obtain rfl := not_not.mp same
    obtain ⟨found, searched, place, specifier, named⟩ := searchAt_own filled edge leads
    have number : lineAt text found.span.start = front.count '\n' + 1 := by
      have before : declaration.head.before.count '\n' = 0 := by
        refine Nat.le_zero.mp (declaration.count_line ▸ ?_)
        exact (List.sublist_append_left _ _).count_le _
      have whole : text = (front ++ declaration.head.before) ++ (declaration.head.opening ++
          declaration.quote :: (declaration.specifier.toList ++
            declaration.quote :: declaration.ending) ++ second.ahead) := by
        have same : text = front ++ first.ahead := start.text
        rw [same, leads.text, line]
        simp
      have offset : first.offset = front.length := start.offset.trans (Nat.zero_add _)
      rw [lineAt, place, offset, whole, List.take_left' (List.length_append ..),
        List.count_append, before]
    rw [searched, List.map_cons, read_own specifier named number]
    simp [importsIn, filled]

/-- Behind the last declaration, nothing is found. -/
theorem searchAt_last (ends : last = [] ∨ last = ['\n']) (ahead : first.ahead = last) :
    form.pattern.searchAt first = [] := by
  obtain ⟨second, leads, none⟩ := Cursor.exists_leads (ahead.trans (List.append_nil last).symm)
  have plain : ∀ c ∈ last, isWord c = false := by
    rcases ends with rfl | rfl
    · exact fun c listed => absurd listed List.not_mem_nil
    · exact List.forall_mem_singleton.mpr (by decide)
  rw [Form.searchAt_of_plain plain leads, searchAt, none, searchFrom, if_neg (Nat.not_lt_zero _),
    report, Form.matchesAt_of_nil rfl]

/-- A search through lines finds the imports of the form that is searched for. -/
theorem map_searchAt_behind (ends : last = [] ∨ last = ['\n'])
    (closed : ∀ declaration ∈ declarations, declaration.IsClosed)
    (start : (Cursor.start text).Leads front first)
    (ahead : first.ahead = behind last declarations) :
    (form.pattern.searchAt first).map (form.read text) =
      importsIn form (placed (front.count '\n' + 2) (first.offset + 1) declarations) := by
  induction declarations generalizing front first with
  | nil => rw [searchAt_last ends ahead]; rfl
  | cons declaration rest inductionHypothesis =>
    obtain ⟨here, later⟩ := List.forall_mem_cons.mp closed
    have whole : first.ahead = ['\n'] ++ (declaration.line ++ behind last rest) := ahead
    obtain ⟨second, lineBreak, onwards⟩ := Cursor.exists_leads whole
    obtain ⟨third, leads, remaining⟩ := Cursor.exists_leads onwards
    have plain : ∀ c ∈ ['\n'], isWord c = false := List.forall_mem_singleton.mpr (by decide)
    have breaks : Breaks third.ahead := remaining ▸ breaks_behind ends rest
    have edge : second.before.any isWord = false := by
      rw [lineBreak.before]
      exact plain '\n' List.mem_cons_self
    have counted : (front ++ ['\n']).count '\n' = front.count '\n' + 1 := by
      rw [List.count_append]
      rfl
    have also : (front ++ ['\n'] ++ declaration.line).count '\n' = front.count '\n' + 1 := by
      rw [List.count_append, counted, declaration.count_line]
    have place : second.offset = first.offset + 1 := lineBreak.offset
    rw [Form.searchAt_of_plain plain lineBreak,
      map_searchAt_line here breaks (start.trans lineBreak) edge leads,
      inductionHypothesis later ((start.trans lineBreak).trans leads) remaining, counted, also,
      leads.offset, place, placed]
    exact (importsIn_cons _ _ _).symm

theorem map_search_print (ends : last = [] ∨ last = ['\n'])
    (closed : ∀ declaration ∈ declarations, declaration.IsClosed) :
    (form.pattern.search (print last declarations)).map (form.read (print last declarations)) =
      importsIn form (placed 1 0 declarations) := by
  rw [search_eq]
  cases declarations with
  | nil => rw [searchAt_last ends rfl]; rfl
  | cons declaration rest =>
    obtain ⟨here, later⟩ := List.forall_mem_cons.mp closed
    have whole : (Cursor.start (print last (declaration :: rest))).ahead =
        declaration.line ++ behind last rest := rfl
    obtain ⟨second, leads, remaining⟩ := Cursor.exists_leads whole
    have breaks : Breaks second.ahead := remaining ▸ breaks_behind ends rest
    rw [map_searchAt_line here breaks (.refl _) rfl leads,
      map_searchAt_behind ends later leads remaining, declaration.count_line, leads.offset]
    exact (importsIn_cons _ _ _).symm

end Searched

section Ordered

variable {last : List Char} {declarations : List Declaration}

/-- The forms find every declaration that names something, each of them one. -/
theorem perm_importsIn (declarations : List Declaration) :
    ([Form.imports, .reexports, .effect, .call].flatMap fun form =>
      importsIn form (placed 1 0 declarations)).Perm (imports declarations) := by
  have every (form : Form) : form ∈ [Form.imports, .reexports, .effect, .call] := by
    cases form <;> decide
  simp only [importsIn, ← List.map_flatMap]
  exact (perm_flatMap_filter (fun item : Declaration × Nat × Nat => item.1.head.form) (by decide)
    fun item _ => every _).map _

/-- The imports of printed declarations are found in the order of the lines. -/
theorem ofText_eq_imports (ends : last = [] ∨ last = ['\n'])
    (closed : ∀ declaration ∈ declarations, declaration.IsClosed) :
    Import.ofText (print last declarations) = imports declarations := by
  have ordered := imports_pairwise declarations
  have distinct : ((imports declarations).map (·.span.start)).Nodup :=
    List.pairwise_map.mpr (ordered.imp Nat.ne_of_lt)
  simp only [ofText_eq, map_search_print ends closed]
  refine (Span.sorts_atMost.on Import.span).mergeSort_eq (perm_importsIn declarations)
    (ordered.imp fun before => Span.atMost_iff.mpr (Or.inl before)) ?_
  intro first listed second also before after
  have span := Span.tellsApart_atMost _ _ before after
  exact List.inj_on_of_nodup_map distinct listed also (congrArg Span.start span)

end Ordered

/-- A specifier without opening braces opens no list. -/
theorem isClosed_of_not_mem {declaration : Declaration}
    (absent : '{' ∉ declaration.specifier.toList) : declaration.IsClosed :=
  fun front start back same => absurd (same ▸ by simp) absent

end Declaration

/-- Import declarations that are printed one per line are read one by one and in their order, each
with its specifier, the place of the specifier, its line, its flags and its names. The names that
are read are those that the declaration lists, by their own names and not by those they are given,
but for `type` under another name, which is read as `as`. A declaration whose specifier is empty is
not found. -/
theorem Module.ofText_print {last : List Char} (ends : last = [] ∨ last = ['\n'])
    {declarations : List Declaration}
    (closed : ∀ declaration ∈ declarations, declaration.IsClosed) (path : String) :
    ∃ found, Module.ofText (Declaration.print last declarations) path = .ok found ∧
      found.imports = Declaration.imports declarations :=
  Module.exists_ofText_iff.mpr
    ⟨_, Declaration.maskComments_print ends declarations, Declaration.ofText_eq_imports ends closed⟩

section Sample

/-- A name of letters. -/
def Identifier.ofLetters (text : String) (filled : text ≠ "")
    (letters : text.toList.all isNameChar = true) : Identifier :=
  ⟨text, filled, List.all_eq_true.mp letters⟩

/-- Declarations of three forms. -/
def sampleDeclarations : List Declaration :=
  let main := Identifier.ofLetters "main" (by decide) (by decide)
  let marked := Identifier.ofLetters "type" (by decide) (by decide)
  let kind := Identifier.ofLetters "kind" (by decide) (by decide)
  let task := Identifier.ofLetters "Task" (by decide) (by decide)
  let page := Identifier.ofLetters "page" (by decide) (by decide)
  [{ head := .imports false (.listed (some main)
      (.entries ⟨true, marked, some kind⟩ [⟨false, task, none⟩]))
     specifier := "./model"
     double := false
     ended := true
     plain := List.all_iff_forall_prop.mp (by decide) },
    { head := .reexports true none
      specifier := "@/all"
      double := true
      ended := false
      plain := List.all_iff_forall_prop.mp (by decide) },
    { head := .call page true
      specifier := "./Page"
      double := false
      ended := true
      plain := List.all_iff_forall_prop.mp (by decide) }]

/-- The lines of these declarations. -/
def sampleText : String :=
  "import main, \x7b type type as kind, Task \x7d from './model';\n" ++
    "export type * from \"@/all\"\nconst page = require('./Page');\n"

theorem Module.ofText_print_sample :
    ∃ found, Module.ofText sampleText.toList "main.ts" = .ok found ∧ found.imports =
      [⟨"./model", ["default", "type", "Task"], 1, ⟨47, 54⟩, false, false⟩,
        ⟨"@/all", ["*"], 2, ⟨77, 82⟩, true, false⟩,
        ⟨"./Page", ["*"], 3, ⟨106, 112⟩, false, true⟩] := by
  have closed : ∀ declaration ∈ sampleDeclarations, declaration.IsClosed := by
    simp only [sampleDeclarations, List.forall_mem_cons]
    refine ⟨?_, ?_, ?_, fun declaration listed => absurd listed List.not_mem_nil⟩
    all_goals exact Declaration.isClosed_of_not_mem (by decide)
  have printed : Declaration.print ['\n'] sampleDeclarations = sampleText.toList := by
    decide +kernel
  have imports : Declaration.imports sampleDeclarations =
      [⟨"./model", ["default", "type", "Task"], 1, ⟨47, 54⟩, false, false⟩,
        ⟨"@/all", ["*"], 2, ⟨77, 82⟩, true, false⟩,
        ⟨"./Page", ["*"], 3, ⟨106, 112⟩, false, true⟩] := by
    decide
  rw [← printed, ← imports]
  exact Module.ofText_print (Or.inr rfl) closed "main.ts"

/-- A declaration that renames what is called `type` is taken to name `as`. -/
def renamedText : String := "import \x7b type as kind \x7d from './model';\n"

theorem Module.ofText_renamed :
    (∃ found, Module.ofText renamedText.toList "main.ts" = .ok found ∧
      found.imports = [⟨"./model", ["as"], 1, ⟨30, 37⟩, false, false⟩]) ∧
    ¬ ∃ found, Module.ofText renamedText.toList "main.ts" = .ok found ∧
      found.imports = [⟨"./model", ["type"], 1, ⟨30, 37⟩, false, false⟩] := by
  have shown : maskComments renamedText.toList = .ok renamedText.toList := by cbv
  have read : ∃ found, Module.ofText renamedText.toList "main.ts" = .ok found ∧
      found.imports = [⟨"./model", ["as"], 1, ⟨30, 37⟩, false, false⟩] :=
    Module.exists_ofText_iff.mpr ⟨_, shown, by cbv⟩
  refine ⟨read, ?_⟩
  rintro ⟨other, also, named⟩
  obtain ⟨found, parsed, imports⟩ := read
  obtain rfl := Except.ok.inj (parsed.symm.trans also)
  exact absurd (imports.symm.trans named) (by decide)

end Sample

end FeatureLayout.Code
