import FeatureLayout.Proofs.Code.Import
import FeatureLayout.Proofs.Code.Printed

/-!
# Forms of imports and printed declarations

What a form of imports finds at a place is a specifier between quotes behind a text that opens it.
Up to the first quote of a declaration, the last character that a form passes besides blanks tells
the forms apart, but for `import … from` and `export … from`, which pass each other's lists and
stars alike; there the text in front of the list decides, and where there is none, the words. So
what is printed in front of a specifier opens one for the form of the declaration and for no other.
-/

namespace FeatureLayout.Code

open Text Pattern Specifier

namespace Import

namespace Form

/-- What a form spells behind the edge of its word. -/
def bare : Form → Pattern Part
  | imports => statement "import" (choice [
      .seq name (Pattern.optional (sequence [blanks, .one (· == ','), blanks,
        .either braced namespaced])),
      braced, namespaced])
  | reexports => statement "export" (.either
      (.seq (.one (· == '*')) (Pattern.optional
        (sequence [blanks, exactly "as", someBlanks, name])))
      braced)
  | effect => Import.effect
  | call => Import.call

/-- What a form passes in front of its specifier, with its clause. -/
def opens : Form → List Char → List Char → Prop
  | imports => Heading "import" IsClause
  | reexports => Heading "export" IsReexported
  | effect => fun front clause => OpensEffect front ∧ clause = []
  | call => fun front clause => OpensCall front ∧ clause = []

/-- What a form passes behind its specifier. -/
def closes : Form → List Char → Prop
  | call => ClosesCall
  | _ => (· = [])

/-- The last character besides blanks that a form passes in front of its specifier. -/
def last : Form → Char
  | imports | reexports => 'm'
  | effect => 't'
  | call => '('

variable {form : Form} {front clause text : List Char} {cursor : Cursor} {found : Match Part}

theorem reads (form : Form) : Reads form.bare form.opens form.closes := by
  cases form with
  | imports =>
    exact reads_statement ⟨⟨isBlind_name, ⟨trivial, trivial, trivial, isBlind_braced,
      isBlind_namespaced⟩, trivial⟩, isBlind_braced, isBlind_namespaced⟩ SpellsOnly.clause
  | reexports =>
    exact reads_statement ⟨⟨trivial, ⟨trivial, isBlind_exactly "as", isBlind_someBlanks,
      isBlind_name⟩, trivial⟩, isBlind_braced⟩ SpellsOnly.reexported
  | effect => exact reads_effect
  | call => exact reads_call

/-- A form fits at word edges. -/
theorem matchesAt_eq (form : Form) (cursor : Cursor) : form.pattern.matchesAt cursor =
    if cursor.atWordEdge then form.bare.matchesAt cursor else [] := by
  have edge (first rest : Pattern Part) :
      (Pattern.seq (.seq .wordEdge first) rest).matchesAt cursor =
        if cursor.atWordEdge then (Pattern.seq first rest).matchesAt cursor else [] := by
    rw [← matchesAt_wordEdge, matchesAt, matchesAt, successes_seq_assoc]
  cases form with
  | imports | reexports | effect => exact edge _ _
  | call => exact matchesAt_wordEdge _ _

/-- Every form starts with a word. -/
theorem exists_head_of_opens (opened : form.opens front clause) :
    ∃ c rest, front = c :: rest ∧ isWord c = true := by
  cases form with
  | imports | reexports =>
    cases opened
    exact ⟨_, _, rfl, by decide⟩
  | effect =>
    obtain ⟨⟨⟩, -⟩ := opened
    exact ⟨_, _, rfl, by decide⟩
  | call =>
    obtain ⟨⟨rfl | rfl, -, -⟩, -⟩ := opened
    · exact ⟨_, _, rfl, by decide⟩
    · exact ⟨_, _, rfl, by decide⟩

/-- The last character besides blanks in front of a specifier tells about its form. -/
theorem exists_last_of_opens (opened : form.opens front clause) :
    ∃ before gap, front = before ++ form.last :: gap ∧ IsGap gap := by
  cases form with
  | imports | reexports => exact Heading.exists_last opened
  | effect =>
    obtain ⟨@⟨gap, blank⟩, -⟩ := opened
    exact ⟨"impor".toList, gap, rfl, blank⟩
  | call =>
    obtain ⟨@⟨function, gap, space, -, -, behind⟩, -⟩ := opened
    exact ⟨function.toList ++ gap, space, by simp [Form.last], behind⟩

/-- Where no word starts, no form fits. -/
theorem matchesAt_of_head {c : Char} {rest : List Char} (ahead : cursor.ahead = c :: rest)
    (apart : isWord c = false) : form.pattern.matchesAt cursor = [] := by
  refine List.eq_nil_iff_forall_not_mem.mpr fun found listed => ?_
  rw [matchesAt_eq] at listed
  split at listed
  · obtain ⟨text, captured, behind, spells, same, -⟩ :=
      (mem_matchesAt_iff form.reads.blind).mp listed
    obtain ⟨front, clause, quote, inner, back, rfl, opened, -⟩ := form.reads.sound _ _ spells
    obtain ⟨d, more, rfl, word⟩ := exists_head_of_opens opened
    obtain ⟨rfl, -⟩ := List.cons.inj (ahead.symm.trans same)
    rw [apart] at word
    cases word
  · exact absurd listed List.not_mem_nil

/-- A search passes what has no words. -/
theorem searchAt_of_plain {first second : Cursor} {passed : List Char}
    (plain : ∀ c ∈ passed, isWord c = false) (leads : first.Leads passed second) :
    form.pattern.searchAt first = form.pattern.searchAt second := by
  refine searchAt_of_barren leads fun early c more cursor whole _ ahead => ?_
  exact matchesAt_of_head ahead (plain c (whole ▸ by simp))

/-- What a form finds at a place is a specifier between quotes, behind a text that opens it. -/
theorem exists_of_mem_matchesAt (listed : found ∈ form.pattern.matchesAt cursor) :
    ∃ front clause quote inner back rest, form.opens front clause ∧ IsSpecifier quote inner ∧
      form.closes back ∧ cursor.ahead = front ++ quote :: (inner ++ quote :: (back ++ rest)) ∧
      found.span = ⟨cursor.offset, cursor.offset + (front.length + (inner.length +
        (back.length + 2)))⟩ ∧
      found.captured? .specifier = some ⟨.specifier, ⟨cursor.offset + front.length + 1,
        cursor.offset + front.length + 1 + inner.length⟩, inner⟩ ∧
      found.textOf .clause = clause := by
  rw [matchesAt_eq] at listed
  split at listed
  · obtain ⟨text, captured, rest, spells, ahead, rfl⟩ :=
      (mem_matchesAt_iff form.reads.blind).mp listed
    obtain ⟨front, clause, quote, inner, back, rfl, opened, isSpecifier, closed, captures⟩ :=
      form.reads.sound _ _ spells
    have moved := captures.moved cursor.offset
    refine ⟨front, clause, quote, inner, back, rest, opened, isSpecifier, closed, ?_, ?_,
      moved.specifier, moved.clause⟩
    · rw [ahead]
      simp
    · refine Span.mk.injEq .. |>.mpr ⟨rfl, ?_⟩
      simp only [List.length_append, List.length_cons]
      omega
  · exact absurd listed List.not_mem_nil

/-- At the end of a text, no form fits. -/
theorem matchesAt_of_nil (ends : cursor.ahead = []) : form.pattern.matchesAt cursor = [] := by
  refine List.eq_nil_iff_forall_not_mem.mpr fun found listed => ?_
  obtain ⟨front, clause, quote, inner, back, rest, -, -, -, same, -⟩ :=
    exists_of_mem_matchesAt listed
  rw [ends] at same
  exact absurd same.symm (by simp)

/-- A form finds something where a text opens a specifier behind a word edge. -/
theorem matchesAt_ne_nil {quote : Char} {inner back rest : List Char}
    (opened : form.opens front clause) (isSpecifier : IsSpecifier quote inner)
    (closed : form.closes back) (edge : cursor.atWordEdge = true)
    (ahead : cursor.ahead = front ++ quote :: (inner ++ quote :: (back ++ rest))) :
    form.pattern.matchesAt cursor ≠ [] := by
  obtain ⟨captured, spells⟩ := form.reads.complete _ _ _ _ _ opened isSpecifier closed
  rw [matchesAt_eq, if_pos edge]
  refine List.ne_nil_of_mem ((mem_matchesAt_iff form.reads.blind).mpr
    ⟨_, captured, rest, spells, ?_, rfl⟩)
  rw [ahead]
  simp

/-- A form passes the text up to the first quote, unless it opens braces that are not closed in
front of it. -/
theorem bounded (form : Form) (unmarked : IsUnmarked text)
    (imports : ∀ front back, text = front ++ '{' :: back → Begins "import" IsDefault front →
      '}' ∈ back)
    (reexports : ∀ front back, text = front ++ '{' :: back → Begins "export" (· = []) front →
      '}' ∈ back) : Bounded form.opens text := by
  cases form with
  | imports =>
    exact Heading.bounded clauses_import (List.all_iff_forall_prop.mp (by decide)) unmarked imports
  | reexports =>
    exact Heading.bounded clauses_reexport (List.all_iff_forall_prop.mp (by decide)) unmarked
      reexports
  | effect =>
    refine bounded_of_isUnmarked (fun front clause opened => ?_) unmarked
    obtain ⟨⟨blank⟩, -⟩ := opened
    exact isUnmarked_append.mpr ⟨List.all_iff_forall_prop.mp (by decide), blank.isUnmarked⟩
  | call =>
    refine bounded_of_isUnmarked (fun front clause opened => ?_) unmarked
    obtain ⟨⟨listed, before, behind⟩, -⟩ := opened
    refine isUnmarked_append.mpr ⟨?_, isUnmarked_append.mpr ⟨before.isUnmarked,
      isUnmarked_cons.mpr ⟨rfl, behind.isUnmarked⟩⟩⟩
    rcases listed with rfl | rfl <;> exact List.all_iff_forall_prop.mp (by decide)

end Form

end Import

open Import

section Apart

variable {early late clause : List Char}

/-- The form of a declaration. -/
def Head.form : Head → Form
  | .imports _ _ => .imports
  | .reexports _ _ => .reexports
  | .effect => .effect
  | .call _ _ => .call

/-- All that is printed in front of a specifier. -/
def Head.lead (head : Head) : List Char := head.before ++ head.opening

/-- The last character besides blanks in front of a specifier is that of the form. -/
theorem Head.exists_last (head : Head) :
    ∃ before gap, head.lead = before ++ head.form.last :: gap ∧ IsGap gap := by
  have none : IsGap [] := fun c listed => absurd listed List.not_mem_nil
  cases head with
  | imports marked clause => exact (heading_imports marked clause).exists_last
  | reexports marked list => exact (heading_reexports marked list).exists_last
  | effect => exact ⟨"impor".toList, [' '], rfl, isGap_single⟩
  | call binding required =>
    cases required with
    | false => exact ⟨_, [], (List.append_assoc _ "import".toList ['(']).symm, none⟩
    | true => exact ⟨_, [], (List.append_assoc _ "require".toList ['(']).symm, none⟩

/-- Whether a character starts a list. -/
def isListStart (c : Char) : Bool := c == '*' || c == '{'

theorem isListStart_of_isList {list : List Char} (isList : IsList list) :
    ∃ c rest, list = c :: rest ∧ isListStart c = true := by
  obtain ⟨c, rest, rfl, rfl | rfl⟩ := isList.starts
  · exact ⟨_, rest, rfl, rfl⟩
  · exact ⟨_, rest, rfl, rfl⟩

theorem isListStart_of_identifier (identifier : Identifier) :
    ∀ c ∈ identifier.text.toList, isListStart c = false := fun c listed => by
  have letter := identifier.letters c listed
  have star : c ≠ '*' := ne_of_isNameChar letter (by decide)
  have brace : c ≠ '{' := ne_of_isNameChar letter (by decide)
  simp [isListStart, star, brace]

theorem NameList.exists_cons (list : NameList) : ∃ c rest, list.print = c :: rest ∧
    isListStart c = true ∧ ∀ d ∈ rest, isListStart d = false := by
  obtain ⟨c, rest, same, starts, apart⟩ := list.starts
  refine ⟨c, rest, same, ?_, fun d listed => ?_⟩
  · rcases starts with rfl | rfl <;> rfl
  · simp [isListStart, apart d listed]

/-- What is exported starts a list, and starts no other. -/
theorem Head.exists_cons_exported (list : Option NameList) :
    ∃ c rest, Head.exported list = c :: rest ∧ isListStart c = true ∧
      ∀ d ∈ rest, isListStart d = false := by
  cases list with
  | none => exact ⟨'*', [], rfl, rfl, fun d listed => absurd listed List.not_mem_nil⟩
  | some list => exact list.exists_cons

/-- In front of a name, a heading ends with a blank. -/
theorem exists_blank {space marker : List Char} (blank : IsSpace space) (marks : IsMarker marker) :
    ∃ before c, space ++ marker = before ++ [c] ∧ isBlank c = true := by
  have last {space : List Char} (blank : IsSpace space) :
      ∃ before c, space = before ++ [c] ∧ isBlank c = true := by
    obtain ⟨before, c, rfl⟩ := List.eq_nil_or_concat' space |>.resolve_left blank.1
    exact ⟨before, c, rfl, blank.2 c (by simp)⟩
  cases marks with
  | absent =>
    obtain ⟨before, c, same, visible⟩ := last blank
    exact ⟨before, c, (List.append_nil _).trans same, visible⟩
  | present behind =>
    obtain ⟨before, c, rfl, visible⟩ := last behind
    exact ⟨space ++ ("type".toList ++ before), c, by simp, visible⟩

/-- In front of a list without default, a heading ends with a letter and blanks. -/
theorem exists_letter (word : String) {space marker : List Char} (blank : IsSpace space)
    (marks : IsMarker marker) (ends : ∃ front, word.toList = front ++ ['t']) :
    ∃ before c gap, word.toList ++ (space ++ marker) = before ++ c :: gap ∧ (c = 't' ∨ c = 'e') ∧
      IsGap gap := by
  obtain ⟨front, same⟩ := ends
  cases marks with
  | absent => exact ⟨front, 't', space, by simp [same], Or.inl rfl, blank.2⟩
  | @present behind gap =>
    exact ⟨word.toList ++ (space ++ "typ".toList), 'e', behind, by simp, Or.inr rfl, gap.2⟩

/-- The one word is no part of what is printed in front of the lists of the other. -/
theorem not_infix_import (marked : Bool) :
    ¬ "import".toList <:+: "export ".toList ++ (marker marked ++ "* as".toList) := by
  rw [← occursIn_iff]
  cases marked <;> decide

theorem not_infix_export (marked : Bool) :
    ¬ "export".toList <:+: "import ".toList ++ marker marked := by
  rw [← occursIn_iff]
  cases marked <;> decide

/-- No import starts in an export. -/
theorem not_heading_imports (marked : Bool) (list : Option NameList)
    (split : (Head.reexports marked list).lead = early ++ late) :
    ¬ Heading "import" IsClause late clause := by
  intro heading
  have whole : "export ".toList ++ (marker marked ++ (Head.exported list ++ " from ".toList)) =
      early ++ late := split
  rw [← List.append_assoc, ← List.append_assoc] at whole
  obtain ⟨space, label, blank, marks, fits, stem⟩ := heading.exists_stem clauses_import
    ((clauses_reexport.ends (isReexported_exported list)).append _) whole
  obtain ⟨c, rest, starts, special, others⟩ := Head.exists_cons_exported list
  have front : ∀ d ∈ "export ".toList ++ marker marked, isListStart d = false := by
    cases marked <;> exact List.all_iff_forall_prop.mp (by decide)
  cases fits with
  | @listed default items isDefault isList =>
    obtain ⟨d, more, rfl, also⟩ := isListStart_of_isList isList
    rw [starts] at stem
    have cut : ("export ".toList ++ marker marked) ++ c :: rest =
        (early ++ ("import".toList ++ (space ++ (label ++ default)))) ++ d :: more := by
      simpa using stem
    obtain ⟨same, -⟩ := cut_only isListStart cut front others also
    have inside : "import".toList <:+: "export ".toList ++ marker marked :=
      ⟨early, space ++ (label ++ default), by rw [same, List.append_assoc]⟩
    exact not_infix_import marked (inside.trans ⟨[], "* as".toList, List.append_assoc _ _ _⟩)
  | single isName =>
    obtain ⟨ahead, b, ends, visible⟩ := exists_blank blank marks
    have cut : ("export ".toList ++ marker marked) ++ Head.exported list =
        (early ++ ("import".toList ++ ahead)) ++ b :: clause := by
      rw [stem, ← List.append_assoc space, ends]
      simp
    have letters : ∀ c ∈ clause, (!isNameChar c) = false := fun c listed => by
      simp [isName.2 c listed]
    have stop : (!isNameChar b) = true := by simp [isNameChar_of_isBlank visible]
    have other {c : Char} {front : List Char} (refused : isNameChar c = false)
        (same : ("export ".toList ++ marker marked) ++ Head.exported list = front ++ [c]) :
        False := by
      obtain ⟨-, -, same⟩ := cut_last (fun c => !isNameChar c) (same.symm.trans cut)
        (fun d listed => absurd listed List.not_mem_nil) letters (by simp [refused]) stop
      exact isName.1 same.symm
    cases list with
    | none => exact other (by decide) rfl
    | some list =>
      cases list with
      | entries first others =>
        have closing : ("export ".toList ++ marker marked) ++
            (NameList.entries first others).print = ("export ".toList ++ (marker marked ++
              (['{', ' '] ++ (first.print ++ (others.flatMap (", ".toList ++ ·.print) ++
                [' ']))))) ++ ['}'] := by
          simp [NameList.print]
        exact other (by decide) closing
      | space name =>
        have named : ("export ".toList ++ (marker marked ++ "* as".toList)) ++
            ' ' :: name.text.toList = (early ++ ("import".toList ++ ahead)) ++ b :: clause := by
          rw [← cut]
          simp [Head.exported, NameList.print]
        obtain ⟨same, -⟩ := cut_last (fun c => !isNameChar c) named
          (fun d listed => by simp [name.letters d listed]) letters (by decide) stop
        exact not_infix_import marked ⟨early, ahead, by rw [same]; simp⟩

/-- No export starts in an import. -/
theorem not_heading_reexports (marked : Bool) (named : Clause)
    (split : (Head.imports marked named).lead = early ++ late) :
    ¬ Heading "export" IsReexported late clause := by
  intro heading
  have whole : "import ".toList ++ (marker marked ++ (named.print ++ " from ".toList)) =
      early ++ late := split
  rw [← List.append_assoc, ← List.append_assoc] at whole
  obtain ⟨space, label, blank, marks, fits, stem⟩ := heading.exists_stem clauses_reexport
    ((clauses_import.ends named.isClause).append _) whole
  have front : ∀ d ∈ "import ".toList ++ marker marked, isListStart d = false := by
    cases marked <;> exact List.all_iff_forall_prop.mp (by decide)
  obtain ⟨d, more, rfl, also⟩ : ∃ d more, clause = d :: more ∧ isListStart d = true := by
    cases fits with
    | all => exact ⟨'*', [], rfl, rfl⟩
    | listed isList => exact isListStart_of_isList isList
  have cut : ("import ".toList ++ marker marked) ++ named.print =
      (early ++ ("export".toList ++ (space ++ label))) ++ d :: more := by
    simpa using stem
  cases named with
  | single name =>
    have inside : d ∈ ("import ".toList ++ marker marked) ++ name.text.toList := by
      have whole : ("import ".toList ++ marker marked) ++ name.text.toList = _ := cut
      rw [whole]
      simp
    rcases List.mem_append.mp inside with early | late
    · rw [front d early] at also
      cases also
    · rw [isListStart_of_identifier name d late] at also
      cases also
  | listed default list =>
    obtain ⟨c, rest, starts, special, others⟩ := list.exists_cons
    cases default with
    | none =>
      rw [Clause.print, starts] at cut
      obtain ⟨same, -⟩ := cut_only isListStart cut front others also
      exact not_infix_export marked ⟨early, space ++ label, by rw [same]; simp⟩
    | some name =>
      have whole : (("import ".toList ++ marker marked) ++ (name.text.toList ++ ", ".toList)) ++
          c :: rest = (early ++ ("export".toList ++ (space ++ label))) ++ d :: more := by
        rw [← cut, Clause.print, starts]
        simp
      have plain : ∀ d ∈ ("import ".toList ++ marker marked) ++ (name.text.toList ++ ", ".toList),
          isListStart d = false :=
        List.forall_mem_append.mpr ⟨front, List.forall_mem_append.mpr
          ⟨isListStart_of_identifier name, List.all_iff_forall_prop.mp (by decide)⟩⟩
      obtain ⟨same, -⟩ := cut_only isListStart whole plain others also
      -- A comma stands in front of the list, and a letter would have to.
      obtain ⟨begins, e, gap, ends, letter, blank⟩ :=
        exists_letter "export" blank marks ⟨"expor".toList, rfl⟩
      have comma : (("import ".toList ++ marker marked) ++ name.text.toList) ++ ',' :: [' '] =
          (early ++ begins) ++ e :: gap := by
        rw [ends] at same
        simpa using same
      have visible : (!isBlank e) = true := by
        rcases letter with rfl | rfl <;> decide
      obtain ⟨-, rfl, -⟩ := cut_last (fun c => !isBlank c) comma
        (List.all_iff_forall_prop.mp (by decide))
        (fun c listed => by simp [blank c listed]) (by decide) visible
      rcases letter with letter | letter <;> exact absurd letter (by decide)

/-- What is printed in front of a specifier opens one for no other form. -/
theorem Head.not_opens {head : Head} {form : Form} (other : form ≠ head.form)
    (split : head.lead = early ++ late) : ¬ form.opens late clause := by
  intro opened
  obtain ⟨before, gap, rfl, blank⟩ := Form.exists_last_of_opens opened
  obtain ⟨front, space, whole, also⟩ := head.exists_last
  have filled (form : Form) : (!isBlank form.last) = true := by cases form <;> rfl
  have cut : front ++ head.form.last :: space = (early ++ before) ++ form.last :: gap := by
    rw [← whole, split, List.append_assoc]
  obtain ⟨-, same, -⟩ := cut_last (fun c => !isBlank c) cut
    (fun c listed => by simp [also c listed]) (fun c listed => by simp [blank c listed])
    (filled _) (filled _)
  cases head with
  | imports marked named =>
    cases form with
    | reexports => exact not_heading_reexports marked named split opened
    | imports => exact other rfl
    | effect | call => cases same
  | reexports marked list =>
    cases form with
    | imports => exact not_heading_imports marked list split opened
    | reexports => exact other rfl
    | effect | call => cases same
  | effect =>
    cases form with
    | effect => exact other rfl
    | imports | reexports | call => cases same
  | call binding required =>
    cases form with
    | call => exact other rfl
    | imports | reexports | effect => cases same

/-- In front of any part of what is printed up to a specifier, a form reaches its quote. -/
theorem Head.bounded {head : Head} (split : head.lead = early ++ late) (form : Form) :
    Bounded form.opens late := by
  have unmarked : IsUnmarked late := fun c listed => by
    have printed : isPrinted c = true :=
      List.forall_mem_append.mpr ⟨head.isPrinted_before, head.isPrinted_opening⟩ c
        (by rw [← Head.lead, split]; exact List.mem_append_right early listed)
    have single : c ≠ '\'' := ne_of_isPrinted printed (by decide)
    have double : c ≠ '"' := ne_of_isPrinted printed (by decide)
    simp [isMark, single, double]
  have closed (front back : List Char) (same : late = front ++ '{' :: back) : '}' ∈ back :=
    head.closes (early ++ front) back (by rw [← Head.lead, split, same, List.append_assoc])
  exact form.bounded unmarked (fun front back same _ => closed front back same)
    fun front back same _ => closed front back same

end Apart

end FeatureLayout.Code
