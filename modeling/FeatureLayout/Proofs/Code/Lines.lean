import FeatureLayout.Proofs.Code.Forms

/-!
# Searches through lines of declarations

Each form of imports is searched for on its own, so every search meets the declarations of all four
forms. It finds one import on each line of its own form and nothing else, unless a specifier opens a
list of names and does not close it: in front of the first quote nothing opens a specifier for
another form, inside of a specifier and behind it what is opened is never closed, and in front of
the import itself none of its form starts.
-/

namespace FeatureLayout.Code

open Text Pattern Specifier Import

section Line

variable {declaration : Declaration} {form : Form} {early late after : List Char}
  {cursor first second : Cursor}

/-- A text starts with the end of a line, or is empty. -/
def Breaks (text : List Char) : Prop := text = [] ∨ ∃ rest, text = '\n' :: rest

namespace Declaration

theorem isQuote (declaration : Declaration) :
    declaration.quote = '\'' ∨ declaration.quote = '"' := by
  rw [quote]
  split
  · exact Or.inr rfl
  · exact Or.inl rfl

theorem isMark_quote (declaration : Declaration) : isMark declaration.quote = true := by
  rcases declaration.isQuote with same | same <;> rw [same] <;> rfl

theorem inner (declaration : Declaration) :
    ∀ c ∈ declaration.specifier.toList, isInner c = true :=
  fun c listed => (declaration.plain c listed).1

/-- Behind a specifier, a bracket and a semicolon are printed at most. -/
theorem mem_ending (declaration : Declaration) :
    ∀ c ∈ declaration.ending, c = ')' ∨ c = ';' := by
  refine List.forall_mem_append.mpr ⟨?_, ?_⟩
  · have bracket : ∀ c ∈ [')'], c = ')' ∨ c = ';' := List.all_iff_forall_prop.mp (by decide)
    cases declaration.head with
    | call => exact bracket
    | imports | reexports | effect => exact fun c listed => absurd listed List.not_mem_nil
  · split <;> exact List.all_iff_forall_prop.mp (by decide)

/-- Nothing that is printed behind a specifier belongs to a word or to a literal. -/
theorem plain_ending (declaration : Declaration) :
    ∀ c ∈ declaration.ending, isWord c = false ∧ isMark c = false := fun c listed => by
  rcases declaration.mem_ending c listed with rfl | rfl <;> decide

/-- No specifier follows the quote that closes one. -/
theorem no_specifier_behind (breaks : Breaks after) {inner rest : List Char} {quote : Char}
    (isSpecifier : IsSpecifier quote inner)
    (same : declaration.ending ++ after = inner ++ quote :: rest) : False := by
  have isMark : Import.isMark quote = true := by
    rcases isSpecifier.isQuote with rfl | rfl <;> rfl
  have line {back : List Char} (split : after = quote :: back) : False := by
    rcases breaks with rfl | ⟨more, rfl⟩
    · cases split
    · obtain ⟨rfl, -⟩ := List.cons.inj split
      cases isMark
  rcases List.append_eq_append_iff.mp same with ⟨between, whole, split⟩ | ⟨between, whole, split⟩
  · cases between with
    | nil => exact line split
    | cons c more =>
      have plain := isSpecifier.plain c (whole ▸ by simp)
      rcases breaks with rfl | ⟨others, rfl⟩
      · cases split
      · obtain ⟨rfl, -⟩ := List.cons.inj split
        cases plain
  · cases between with
    | nil => exact line split.symm
    | cons c more =>
      obtain ⟨rfl, -⟩ := List.cons.inj split
      have plain := (declaration.plain_ending quote (whole ▸ by simp)).2
      rw [isMark] at plain
      cases plain

/-- In a specifier, a form reaches the quote behind it. -/
theorem bounded_specifier (closed : declaration.IsClosed)
    (split : declaration.specifier.toList = early ++ late) (form : Form) :
    Bounded form.opens late := by
  have whole {front back : List Char} (same : late = front ++ '{' :: back) :
      declaration.specifier.toList = early ++ (front ++ '{' :: back) := by rw [split, same]
  refine form.bounded (fun c listed => ?_)
    (fun front back same begins => closed early front back (whole same) (Or.inl begins))
    fun front back same begins => closed early front back (whole same) (Or.inr begins)
  have plain := declaration.inner c (split ▸ List.mem_append_right early listed)
  simp only [isInner, Bool.and_eq_true, bne_iff_ne] at plain
  simp [isMark, plain.1.1, plain.1.2]

/-- Nothing is found inside of a specifier. -/
theorem matchesAt_specifier (closed : declaration.IsClosed) (breaks : Breaks after)
    (split : declaration.specifier.toList = early ++ late)
    (ahead : cursor.ahead = late ++ declaration.quote :: (declaration.ending ++ after)) :
    form.pattern.matchesAt cursor = [] := by
  refine List.eq_nil_iff_forall_not_mem.mpr fun found listed => ?_
  obtain ⟨front, clause, quote, inner, back, rest, opened, isSpecifier, -, whole, -⟩ :=
    Form.exists_of_mem_matchesAt listed
  have isMark : Import.isMark quote = true := by
    rcases isSpecifier.isQuote with rfl | rfl <;> rfl
  obtain ⟨-, -, same⟩ := bounded_specifier closed split form front clause quote _ _ _ opened isMark
    declaration.isMark_quote (whole.symm.trans ahead)
  exact no_specifier_behind breaks isSpecifier same.symm

/-- What is found in front of a specifier is the specifier. -/
theorem exists_of_mem_lead {found : Match Part} (listed : found ∈ form.pattern.matchesAt cursor)
    (split : declaration.head.lead = early ++ late)
    (ahead : cursor.ahead = late ++ declaration.quote ::
      (declaration.specifier.toList ++ declaration.quote :: (declaration.ending ++ after))) :
    declaration.specifier.toList ≠ [] ∧ ∃ clause back rest, form.opens late clause ∧
      form.closes back ∧ declaration.ending ++ after = back ++ rest ∧
      found.span = ⟨cursor.offset, cursor.offset + (late.length +
        (declaration.specifier.toList.length + (back.length + 2)))⟩ ∧
      found.captured? .specifier = some ⟨.specifier, ⟨cursor.offset + late.length + 1,
        cursor.offset + late.length + 1 + declaration.specifier.toList.length⟩,
        declaration.specifier.toList⟩ ∧
      found.textOf .clause = clause := by
  obtain ⟨front, clause, quote, inner, back, rest, opened, isSpecifier, closes, whole, span,
    specifier, named⟩ := Form.exists_of_mem_matchesAt listed
  have isMark : Import.isMark quote = true := by
    rcases isSpecifier.isQuote with rfl | rfl <;> rfl
  obtain ⟨rfl, rfl, same⟩ := Head.bounded split form front clause quote _ _ _ opened isMark
    declaration.isMark_quote (whole.symm.trans ahead)
  obtain ⟨rfl, ends⟩ := append_inj (isInner_quote declaration.isQuote) isSpecifier.plain
    declaration.inner same
  exact ⟨isSpecifier.filled, clause, back, rest, opened, closes, ends.symm, span, specifier, named⟩

/-- A search passes a specifier that it does not find. -/
theorem searchAt_behind (closed : declaration.IsClosed) (breaks : Breaks second.ahead)
    (leads : first.Leads (declaration.quote :: (declaration.specifier.toList ++
      declaration.quote :: declaration.ending)) second) :
    form.pattern.searchAt first = form.pattern.searchAt second := by
  have quote : isWord declaration.quote = false := by
    rcases declaration.isQuote with same | same <;> rw [same] <;> decide
  refine searchAt_of_barren leads fun early c more cursor whole _ ahead => ?_
  cases early with
  | nil =>
    obtain ⟨rfl, -⟩ := List.cons.inj whole
    exact Form.matchesAt_of_head ahead quote
  | cons d others =>
    obtain ⟨-, inside⟩ := List.cons.inj whole
    rcases List.append_eq_append_iff.mp inside with ⟨between, -, split⟩ | ⟨between, split, rest⟩
    · have plain : ∀ c ∈ declaration.quote :: declaration.ending, isWord c = false :=
        List.forall_mem_cons.mpr ⟨quote, fun c listed => (declaration.plain_ending c listed).1⟩
      exact Form.matchesAt_of_head ahead (plain c (split ▸ by simp))
    · refine matchesAt_specifier closed breaks split (ahead.trans ?_)
      rw [rest, List.append_assoc, List.cons_append]

/-- A search passes the line of a declaration of another form, and one that names nothing. -/
theorem searchAt_apart (closed : declaration.IsClosed) (breaks : Breaks second.ahead)
    (leads : first.Leads declaration.line second)
    (other : declaration.specifier = "" ∨ form ≠ declaration.head.form) :
    form.pattern.searchAt first = form.pattern.searchAt second := by
  have whole : declaration.line = declaration.head.lead ++ declaration.quote ::
      (declaration.specifier.toList ++ declaration.quote :: declaration.ending) :=
    (List.append_assoc _ _ _).symm
  rw [whole] at leads
  obtain ⟨middle, early, late⟩ := leads.exists_between
  rw [← searchAt_behind closed breaks late]
  refine searchAt_of_barren early fun before c more cursor split _ ahead => ?_
  refine List.eq_nil_iff_forall_not_mem.mpr fun found listed => ?_
  have onwards : cursor.ahead = (c :: more) ++ declaration.quote ::
      (declaration.specifier.toList ++
        declaration.quote :: (declaration.ending ++ second.ahead)) := by
    rw [ahead, late.text]
    simp
  obtain ⟨filled, clause, -, -, opened, -⟩ := exists_of_mem_lead listed split onwards
  rcases other with none | apart
  · exact filled (none ▸ rfl)
  · exact Head.not_opens apart split opened

end Declaration

end Line

section Own

variable {clause early late : List Char}

namespace Head

/-- What stands in front of an import ends with a blank. -/
theorem before_ends (head : Head) :
    head.before = [] ∨ ∃ front, head.before = front ++ [' '] := by
  cases head with
  | imports | reexports | effect => exact Or.inl rfl
  | call binding required =>
    refine Or.inr ⟨"const ".toList ++ (binding.text.toList ++ " =".toList), ?_⟩
    have split : " = ".toList = " =".toList ++ [' '] := rfl
    rw [before, split, List.append_assoc, List.append_assoc]

/-- What is printed of an import opens a specifier for its form. -/
theorem opens_opening (head : Head) : ∃ clause, head.form.opens head.opening clause := by
  have none : IsGap [] := fun c listed => absurd listed List.not_mem_nil
  cases head with
  | imports marked clause => exact ⟨_, heading_imports marked clause⟩
  | reexports marked list => exact ⟨_, heading_reexports marked list⟩
  | effect =>
    have parts : OpensEffect ("import".toList ++ [' ']) := .intro isGap_single
    exact ⟨[], parts, rfl⟩
  | call binding required =>
    have parts {function : String} (listed : function = "import" ∨ function = "require") :
        OpensCall (function.toList ++ ([] ++ '(' :: [])) := .intro listed none none
    cases required with
    | false => exact ⟨[], parts (Or.inl rfl), rfl⟩
    | true => exact ⟨[], parts (Or.inr rfl), rfl⟩

/-- What is printed behind a specifier closes it. -/
theorem closes_closing (head : Head) : head.form.closes head.closing := by
  cases head with
  | imports | reexports | effect => rfl
  | call =>
    exact ClosesCall.intro fun c listed => absurd listed List.not_mem_nil

/-- The names that a form reads of a declaration are those of the declaration. -/
theorem names_of_opens {head : Head} (opened : head.form.opens head.opening clause) :
    head.form.names clause = head.names := by
  cases head with
  | imports marked named =>
    obtain rfl := Heading.unique clauses_import opened (heading_imports marked named)
    exact clauseNames_print named
  | reexports marked list =>
    obtain rfl := Heading.unique clauses_reexport opened (heading_reexports marked list)
    cases list <;> exact reexportNames_exported _
  | effect | call => rfl

/-- A declaration names something. -/
theorem names_ne_nil (head : Head) : head.names ≠ [] := by
  have listed (list : NameList) : list.names ≠ [] := by
    cases list <;> exact List.cons_ne_nil _ _
  cases head with
  | imports marked clause =>
    cases clause with
    | single name => exact List.cons_ne_nil _ _
    | listed default list =>
      cases default with
      | none => exact listed list
      | some name => exact List.cons_ne_nil _ _
  | reexports marked list =>
    cases list with
    | none => exact List.cons_ne_nil _ _
    | some list => exact listed list
  | effect | call => exact List.cons_ne_nil _ _

/-- In front of an import, none of its form starts. -/
theorem not_opens_before {head : Head} {c : Char} (split : head.before = early ++ c :: late) :
    ¬ head.form.opens (c :: late ++ head.opening) clause := by
  intro opened
  cases head with
  | imports | reexports | effect => exact absurd split.symm (by simp [before])
  | call binding required =>
    obtain ⟨front, ends⟩ := (before_ends (.call binding required)).resolve_left
      (split ▸ by simp)
    have blank : ' ' ∈ c :: late := by
      refine List.mem_of_getLast? ?_
      rw [← List.getLast?_append_cons early, ← split, ends, List.getLast?_concat]
    have word {function : String} (listed : function = "import" ∨ function = "require") :
        ∃ front t, function.toList = front ++ [t] ∧ isBlank t = false ∧ ' ' ∉ front := by
      rcases listed with rfl | rfl
      · exact ⟨"impor".toList, 't', rfl, by decide, by decide⟩
      · exact ⟨"requir".toList, 'e', rfl, by decide, by decide⟩
    obtain ⟨function, listed, opening⟩ : ∃ function : String,
        (function = "import" ∨ function = "require") ∧
          (Head.call binding required).opening = function.toList ++ ['('] := by
      cases required with
      | false => exact ⟨"import", Or.inl rfl, rfl⟩
      | true => exact ⟨"require", Or.inr rfl, rfl⟩
    obtain ⟨call, -⟩ := opened
    rw [opening] at call
    generalize whole : c :: late ++ (function.toList ++ ['(']) = text at call
    obtain @⟨other, gap, space, among, before, behind⟩ := call
    obtain ⟨first, s, same, visible, -⟩ := word listed
    obtain ⟨second, t, alike, filled, none⟩ := word among
    have apart : (c :: late ++ function.toList) ++ '(' :: [] =
        (other.toList ++ gap) ++ '(' :: space := by
      rw [← List.append_assoc] at whole
      rw [whole, List.append_assoc]
    obtain ⟨words, -, -⟩ := cut_last (fun c => !isBlank c) apart
      (fun c listed => absurd listed List.not_mem_nil) (fun c listed => by simp [behind c listed])
      (by decide) (by decide)
    have stems : (c :: late ++ first) ++ s :: [] = second ++ t :: gap := by
      rw [same, alike] at words
      simpa using words
    obtain ⟨stem, -, -⟩ := cut_last (fun c => !isBlank c) stems
      (fun c listed => absurd listed List.not_mem_nil) (fun c listed => by simp [before c listed])
      (by simp [visible]) (by simp [filled])
    exact none (stem ▸ List.mem_append_left first blank)

/-- A declaration closes its specifier in one way. -/
theorem eq_closing {head : Head} {back rest after : List Char} (closed : head.form.closes back)
    (same : head.closing ++ after = back ++ rest) : back = head.closing := by
  cases head with
  | imports | reexports | effect => exact closed
  | call =>
    obtain @⟨gap, blank⟩ := closed
    cases gap with
    | nil => rfl
    | cons c more =>
      have bracket : ')' = c := (List.cons.inj same).1
      exact absurd (blank c List.mem_cons_self) (bracket ▸ by decide)

end Head

/-- An import starts at a word edge. -/
theorem Head.atWordEdge {head : Head} {first middle : Cursor} {rest : List Char}
    (edge : first.before.any isWord = false) (leads : first.Leads head.before middle)
    (ahead : middle.ahead = head.opening ++ rest) : middle.atWordEdge = true := by
  obtain ⟨clause, opened⟩ := head.opens_opening
  obtain ⟨c, more, same, word⟩ := Form.exists_head_of_opens opened
  have behind : middle.before.any isWord = false := by
    rw [leads.before]
    rcases head.before_ends with none | ⟨front, ends⟩
    · rw [none]
      exact edge
    · have space : isWord ' ' = false := by decide
      rw [ends, List.getLast?_concat, Option.some_or, Option.any_some, space]
  rw [Cursor.atWordEdge, behind, ahead, same, List.cons_append, List.head?_cons, Option.any_some,
    word]
  rfl

namespace Declaration

variable {declaration : Declaration} {first middle second : Cursor} {after : List Char}

/-- A search passes what stands in front of the import on the line of a declaration. -/
theorem searchAt_before (leads : first.Leads declaration.head.before middle)
    (ahead : middle.ahead = declaration.head.opening ++ declaration.quote ::
      (declaration.specifier.toList ++ declaration.quote :: (declaration.ending ++ after))) :
    declaration.head.form.pattern.searchAt first =
      declaration.head.form.pattern.searchAt middle := by
  refine searchAt_of_barren leads fun front c more cursor split _ also => ?_
  refine List.eq_nil_iff_forall_not_mem.mpr fun found listed => ?_
  have lead : declaration.head.lead = front ++ (c :: more ++ declaration.head.opening) := by
    rw [Head.lead, split, List.append_assoc]
  obtain ⟨-, clause, -, -, opened, -⟩ := exists_of_mem_lead listed lead
    (by rw [also, ahead, List.append_assoc])
  exact Head.not_opens_before split opened

/-- A search finds the import on the line of a declaration. -/
theorem searchAt_own (filled : declaration.specifier ≠ "")
    (edge : first.before.any isWord = false) (leads : first.Leads declaration.line second) :
    ∃ found, declaration.head.form.pattern.searchAt first =
        found :: declaration.head.form.pattern.searchAt second ∧
      found.span.start = first.offset + declaration.head.before.length ∧
      found.captured? .specifier = some ⟨.specifier, ⟨first.offset + declaration.place,
        first.offset + declaration.place + declaration.specifier.toList.length⟩,
        declaration.specifier.toList⟩ ∧
      declaration.head.form.names (found.textOf .clause) = declaration.head.names := by
  -- The line up to the import, the import, and the semicolon are passed one after the other.
  let statement := declaration.head.opening ++ declaration.quote ::
    (declaration.specifier.toList ++ declaration.quote :: declaration.head.closing)
  have whole : declaration.line = declaration.head.before ++ (statement ++
      if declaration.ended then [';'] else []) := by
    simp [statement, line, ending]
  rw [whole] at leads
  obtain ⟨middle, early, onwards⟩ := leads.exists_between
  obtain ⟨third, there, late⟩ := onwards.exists_between
  have ahead : middle.ahead = declaration.head.opening ++ declaration.quote ::
      (declaration.specifier.toList ++
        declaration.quote :: (declaration.ending ++ second.ahead)) := by
    rw [onwards.text]
    simp [statement, ending]
  have isSpecifier : IsSpecifier declaration.quote declaration.specifier.toList :=
    ⟨declaration.isQuote, fun none => filled (String.toList_injective none), declaration.inner⟩
  obtain ⟨clause, opened⟩ := declaration.head.opens_opening
  obtain ⟨found, others, matched⟩ := List.exists_cons_of_ne_nil
    (Form.matchesAt_ne_nil opened isSpecifier declaration.head.closes_closing
      (Head.atWordEdge edge early ahead) (ahead.trans (by rw [ending, List.append_assoc])))
  have lead : declaration.head.lead = declaration.head.before ++ declaration.head.opening := rfl
  obtain ⟨-, clause, back, rest, opened, closed, ends, span, specifier, named⟩ :=
    exists_of_mem_lead (matched ▸ List.mem_cons_self) lead ahead
  obtain rfl : back = declaration.head.closing :=
    Head.eq_closing closed (by rw [← ends, ending, List.append_assoc])
  refine ⟨found, ?_, ?_, ?_, ?_⟩
  · rw [searchAt_before early ahead, searchAt_of_head there (by simp [statement])
      (by rw [matched, List.head?_cons]),
      Form.searchAt_of_plain (by split <;> exact List.all_iff_forall_prop.mp (by decide)) late]
    rw [span, there.offset]
    simp +arith [statement]
  · rw [span, early.offset]
  · have behind : middle.offset + declaration.head.opening.length + 1 =
        first.offset + declaration.place := by
      rw [early.offset, place]
      omega
    rw [specifier, behind]
  · rw [named]
    exact Head.names_of_opens opened

/-- The match on the line of a declaration is read as its import. -/
theorem read_own {found : Match Part} {text : List Char} {number offset : Nat}
    (specifier : found.captured? .specifier = some ⟨.specifier, ⟨offset + declaration.place,
      offset + declaration.place + declaration.specifier.toList.length⟩,
      declaration.specifier.toList⟩)
    (named : declaration.head.form.names (found.textOf .clause) = declaration.head.names)
    (line : lineAt text found.span.start = number) :
    declaration.head.form.read text found = declaration.imported number offset := by
  have reexport : (declaration.head.form == .reexports) = declaration.head.reexport := by
    cases declaration.head <;> rfl
  have dynamic : (declaration.head.form == .call) = declaration.head.dynamic := by
    cases declaration.head <;> rfl
  have filled : declaration.head.names.isEmpty = false :=
    List.isEmpty_eq_false_iff.mpr declaration.head.names_ne_nil
  have own : found.textOf .specifier = declaration.specifier.toList := by
    rw [Match.textOf, specifier]
    rfl
  simp only [Form.read, ofMatch, own, named, filled, line, reexport, dynamic, specifier, imported,
    String.ofList_toList, Option.map_some, Option.getD_some, Bool.false_eq_true, if_false]

end Declaration

end Own

end FeatureLayout.Code
