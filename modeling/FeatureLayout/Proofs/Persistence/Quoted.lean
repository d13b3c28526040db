import FeatureLayout.Proofs.Code.Layer
import FeatureLayout.Proofs.Pattern.Unnested
import FeatureLayout.Proofs.Persistence.Accounted
import FeatureLayout.Proofs.Persistence.Storage

/-!
# Storage calls in code and in literals

The search for storage calls looks at a text whose comments are blanked. The contents of its literals
are not blanked, so a call that is quoted is found like any other. What a search finds that looks at
code only, with the contents of literals blanked as well, are exactly the calls that start in code:
where a call starts in code, nothing up to its parenthesis opens or closes a literal, and what is in
front of it is shown as well. No call starts inside of the name of another one, so none is hidden
behind one that is quoted.
-/

namespace FeatureLayout

open Text Code Pattern

/-- An interface with functions that are made of names and dots. -/
structure StorageInterface.IsDotted (interface : StorageInterface) : Prop where
  some : interface.calls.keys ≠ []
  dotted : ∀ function ∈ interface.calls.keys, FeatureLayout.IsDotted function

theorem isDotted_of_all {function : String} (nonempty : function ≠ "")
    (letters : (function.toList.all fun c => isNameChar c || c == '.') = true) :
    IsDotted function :=
  ⟨nonempty, fun c listed => by simpa using List.all_eq_true.mp letters c listed⟩

namespace StorageCall

/-- The calls that a search through `searched` opens, with the arguments that they have in a text. -/
def openedIn (interface : StorageInterface) (text masked searched : List Char) (file : String) :
    Except SearchProblem (List StorageCall) :=
  (((pattern interface).search searched).mapM (ofMatch interface text masked file)).map
    (·.filterMap id)

variable {interface : StorageInterface} {text masked code : List Char} {file : String}
  {reach callee gap : List Char} {found : Match Part} {place : Nat}

theorem allIn_eq (read : maskComments text = .ok masked) :
    allIn interface text file = openedIn interface text masked masked file := by
  rw [allIn, read]
  rfl

section Dotted

variable (isDotted : interface.IsDotted)

include isDotted

/-- The search for calls passes over nothing that opens or closes a literal. -/
theorem keeps_pattern : (pattern interface).Keeps StringLayer.isStill := by
  have window : (exactly "window." : Pattern Part).Keeps StringLayer.isStill :=
    keeps_exactly (List.all_eq_true.mp (by decide))
  have callee : (choice ((callees interface).map exactly) : Pattern Part).Keeps
      StringLayer.isStill := by
    refine keeps_choice fun inner listed => ?_
    obtain ⟨function, among, rfl⟩ := List.mem_map.mp listed
    exact keeps_exactly
      (isDotted.dotted function ((List.mergeSort_perm _ _).mem_iff.mp among)).isStill
  refine ⟨trivial, ⟨window, trivial⟩, callee, fun c => isStill_of_isBlank, fun c same => ?_⟩
  rw [beq_iff_eq.mp same]
  decide

/-- The name of a call is made of names and dots and is not empty. -/
theorem Opens.name {cursor : Cursor} (opens : Opens interface cursor reach callee gap found) :
    (∀ c ∈ reach ++ callee, isNameChar c = true ∨ c = '.') ∧ callee ≠ [] := by
  have dotted := isDotted.dotted _ (opens.listed.resolve_left isDotted.some)
  have letters := dotted.letters
  rw [String.toList_ofList] at letters
  have window : IsDotted "window." := isDotted_of_all (by decide) (by decide)
  refine ⟨fun c listed => ?_, ?_⟩
  · rcases List.mem_append.mp listed with through | named
    · rcases opens.through with rfl | rfl
      · exact absurd through List.not_mem_nil
      · exact window.letters c through
    · exact letters c named
  · rintro rfl
    exact dotted.nonempty rfl

/-- The start of a call stands in the text: its name, and behind it blanks and a parenthesis. -/
theorem Opens.stands (opens : Opens interface (.inText text place) reach callee gap found)
    (shift : Nat) (inside : place + shift < found.span.stop) :
    ∃ c, text[place + shift]? = some c ∧
      ((shift < reach.length + callee.length ∧ (isNameChar c = true ∨ c = '.')) ∨
        (reach.length + callee.length ≤ shift ∧ (isBlank c = true ∨ c = '('))) := by
  obtain ⟨rest, ahead⟩ := opens.ahead
  have stop := opens.stop
  have whole : text.drop place = (reach ++ callee) ++ (gap ++ '(' :: rest) := by
    simpa [Cursor.inText] using ahead
  dsimp only [Cursor.inText] at stop
  rw [← List.getElem?_drop, whole]
  by_cases named : shift < (reach ++ callee).length
  · have letter := (opens.name isDotted).1 _ (List.getElem_mem named)
    refine ⟨_, by rw [List.getElem?_append_left named, List.getElem?_eq_getElem named], ?_⟩
    rw [List.length_append] at named
    exact Or.inl ⟨named, letter⟩
  · have behind := Nat.le_of_not_lt named
    rw [List.getElem?_append_right behind]
    rw [List.length_append] at behind
    have short : shift - (reach ++ callee).length < (gap ++ ['(']).length := by
      simp only [List.length_append, List.length_singleton]
      omega
    have same : gap ++ '(' :: rest = (gap ++ ['(']) ++ rest := by simp
    refine ⟨_, by rw [same, List.getElem?_append_left short, List.getElem?_eq_getElem short],
      Or.inr ⟨behind, ?_⟩⟩
    rcases List.mem_append.mp (List.getElem_mem short) with blank | last
    · exact Or.inl (opens.blank _ blank)
    · exact Or.inr (List.mem_singleton.mp last)

/-- A call starts with a character of names or a dot. -/
theorem Opens.head (opens : Opens interface (.inText text place) reach callee gap found) :
    ∃ c, text[place]? = some c ∧ (isNameChar c = true ∨ c = '.') := by
  have stop := opens.stop
  dsimp only [Cursor.inText] at stop
  obtain ⟨c, there, ⟨-, letter⟩ | ⟨none, -⟩⟩ :=
    opens.stands isDotted 0 (by omega)
  · exact ⟨c, there, letter⟩
  · have filled := List.length_pos_iff.mpr (opens.name isDotted).2
    omega

omit isDotted in
/-- No character of names and no dot stands in front of a call. -/
theorem Opens.front (opens : Opens interface (.inText text (place + 1)) reach callee gap found)
    {c : Char} (there : text[place]? = some c) : ¬ (isNameChar c = true ∨ c = '.') := by
  have inside := (List.getElem?_eq_some_iff.mp there).1
  have before : (Cursor.inText text (place + 1)).before = some c := by
    rw [Cursor.inText, List.getLast?_take, if_neg (Nat.succ_ne_zero _), Nat.add_sub_cancel, there]
    rfl
  have fresh := opens.fresh
  rw [before, Option.any_some, Bool.or_eq_false_iff] at fresh
  rintro (letter | dot)
  · rw [fresh.1] at letter
    cases letter
  · simp [dot] at fresh

/-- No call starts inside of the start of another one: in its name there is always something in
front that could be continued, and behind its name there is no name. -/
theorem unnested_pattern (text : List Char) : (pattern interface).Unnested text where
  filled place found fits := by
    obtain ⟨reach, callee, gap, opens⟩ := exists_opens fits
    have stop := opens.stop
    dsimp only [Cursor.inText] at stop
    omega
  apart first one fits second two also behind := by
    obtain ⟨reach, callee, gap, opens⟩ := exists_opens fits
    obtain ⟨reach', callee', gap', others⟩ := exists_opens also
    by_contra within
    obtain ⟨shift, rfl⟩ := Nat.exists_eq_add_of_lt behind
    obtain ⟨c, before, ⟨-, letter⟩ | ⟨past, -⟩⟩ := opens.stands isDotted shift (by omega)
    · exact others.front before letter
    · obtain ⟨d, there, ⟨named, -⟩ | ⟨-, blank⟩⟩ :=
        opens.stands isDotted (shift + 1) (by omega)
      · omega
      · obtain ⟨e, start, letter⟩ := others.head isDotted
        obtain rfl := Option.some.inj (there.symm.trans start)
        rcases blank with blank | rfl
        · rcases letter with letter | rfl
          · rw [isNameChar_of_isBlank blank] at letter
            cases letter
          · exact absurd blank (by decide)
        · exact absurd letter (by decide)

end Dotted

/-- The calls that some of the matches make are those of the calls that start where these do. -/
theorem exists_kept {matched : List (Match Part)} {results : List (Option StorageCall)}
    (stand : List.Forall₂ (fun found result => ofMatch interface text masked file found = .ok result)
      matched results) (keeps : Nat → Bool) :
    ∃ kept, List.Forall₂ (fun found result => ofMatch interface text masked file found = .ok result)
        (matched.filter fun found => keeps found.span.start) kept ∧
      kept.filterMap id = (results.filterMap id).filter fun call => keeps call.span.start := by
  induction stand with
  | nil => exact ⟨[], .nil, rfl⟩
  | @cons found result _ results head tail inductionHypothesis =>
    obtain ⟨kept, stand, same⟩ := inductionHypothesis
    have starts (call : StorageCall) (made : result = some call) :
        call.span.start = found.span.start := by
      obtain ⟨listed, made⟩ := exists_made (made ▸ head)
      rw [made.span]
    have gathered (call : StorageCall) (others : List (Option StorageCall)) :
        (some call :: others).filterMap id = call :: others.filterMap id := rfl
    cases keeping : keeps found.span.start with
    | true =>
      refine ⟨result :: kept, ?_, ?_⟩
      · rw [List.filter_cons, if_pos keeping]
        exact .cons head stand
      · cases result with
        | none => exact same
        | some call =>
          rw [gathered, gathered, List.filter_cons, if_pos (by rwa [starts call rfl]), same]
    | false =>
      have leaves : ¬ keeps found.span.start = true := by simp [keeping]
      refine ⟨kept, ?_, ?_⟩
      · rwa [List.filter_cons, if_neg leaves]
      · cases result with
        | none => exact same
        | some call =>
          rw [gathered, List.filter_cons, if_neg (by rwa [starts call rfl]), same]

section Blanked

variable (isDotted : interface.IsDotted) (blanked : maskStrings masked = .ok code)

include isDotted blanked

/-- In code, the same calls open whether or not the contents of literals are blanked. -/
theorem matchesAt_of_isCode (inside : place ≤ masked.length)
    (isCode : StringLayer.IsCodeAt masked place) :
    (pattern interface).matchesAt (.inText code place) =
      (pattern interface).matchesAt (.inText masked place) := by
  have ahead := isCode.shared (StringLayer.masks.drop blanked inside)
  have before : (code.take place).getLast? = (masked.take place).getLast? := by
    cases place with
    | zero => rfl
    | succ place =>
      have there := List.getElem?_eq_getElem (Nat.lt_of_succ_le inside)
      have shown := StringLayer.getElem?_of_mask blanked there
      rw [StringLayer.IsCodeAt, layerAt_succ _ there] at isCode
      rw [StringLayer.shown_of_isCode_next isCode, ← there] at shown
      rw [List.getLast?_take, List.getLast?_take, Nat.add_sub_cancel, shown, there]
      rfl
  rw [Cursor.inText, before]
  exact (matchesAt_congr (keeps_pattern isDotted) ahead _ _).symm

/-- A call opens in code when its first character is shown. -/
theorem Opens.isCodeAt {searched : List Char} (either : searched = masked ∨ searched = code)
    (opens : Opens interface (.inText searched place) reach callee gap found)
    (shows : code[place]? = masked[place]?) : StringLayer.IsCodeAt masked place := by
  obtain ⟨c, first, letter⟩ := opens.head isDotted
  have there : masked[place]? = some c := by
    rcases either with rfl | rfl
    · exact first
    · exact shows.symm.trans first
  obtain ⟨blank, line⟩ := ne_of_letter letter
  have shown := StringLayer.getElem?_of_mask blanked there
  rw [shows, there, Option.some_inj] at shown
  have sound : (StringLayer.flat .outside).Sound := trivial
  refine StringLayer.isCode_of_shown (sound.layerAt masked place) (isStill_of_letter letter) blank
    line (fun dollar brace => ?_) shown.symm
  -- The brace behind the dollar sign would be shown as well, but no brace opens in a call.
  subst dollar
  rw [brace] at shown
  have next := StringLayer.isCode_next_of_dollar (sound.layerAt masked place) shown.symm
  have second := StringLayer.getElem?_of_mask blanked brace
  rw [layerAt_succ _ there, brace, next.shown_eq] at second
  have stop := opens.stop
  have named := List.length_pos_iff.mpr (opens.name isDotted).2
  dsimp only [Cursor.inText] at stop
  obtain ⟨d, behind, kind⟩ := opens.stands isDotted 1 (by omega)
  have same : d = '{' := by
    rcases either with rfl | rfl
    · exact Option.some.inj (behind.symm.trans brace)
    · exact Option.some.inj (behind.symm.trans second)
  subst same
  rcases kind with ⟨-, kind⟩ | ⟨-, kind⟩
  all_goals exact absurd kind (by decide)

/-- The preferred matches of what is shown as code are those that start in code. -/
theorem preferred_iff (inside : place ≤ masked.length) :
    ((pattern interface).matchesAt (.inText code place)).head? = some found ↔
      (code[place]? == masked[place]?) = true ∧
        ((pattern interface).matchesAt (.inText masked place)).head? = some found := by
  rw [beq_iff_eq]
  constructor
  · intro preferred
    obtain ⟨reach, callee, gap, opens⟩ := exists_opens (List.mem_of_mem_head? preferred)
    obtain ⟨c, first, letter⟩ := opens.head isDotted
    have filled := (ne_of_letter letter).1
    have shows : code[place]? = masked[place]? := by
      rw [first, (StringLayer.blanked_of_mask blanked).getElem?_eq first filled]
    refine ⟨shows, ?_⟩
    rwa [← matchesAt_of_isCode isDotted blanked inside
      (opens.isCodeAt isDotted blanked (Or.inr rfl) shows)]
  · rintro ⟨shows, preferred⟩
    obtain ⟨reach, callee, gap, opens⟩ := exists_opens (List.mem_of_mem_head? preferred)
    rwa [matchesAt_of_isCode isDotted blanked inside
      (opens.isCodeAt isDotted blanked (Or.inl rfl) shows)]

/-- A search through what is shown as code finds the matches that start in code. -/
theorem search_code : (pattern interface).search code =
    ((pattern interface).search masked).filter fun found =>
      code[found.span.start]? == masked[found.span.start]? :=
  (unnested_pattern isDotted masked).search_eq_filter (unnested_pattern isDotted code)
    (StringLayer.blanked_of_mask blanked).length_eq fun _ inside _ =>
      preferred_iff isDotted blanked inside

/-- The calls that are found in a text start with a character that is shown when comments are
blanked, in code or in a literal. Those that start in code are what a search finds that looks at code
only; the first character of each of the others is blanked with the contents of its literal. -/
theorem openedIn_code {calls : List StorageCall} (read : maskComments text = .ok masked)
    (found : allIn interface text file = .ok calls) :
    openedIn interface text masked code file =
        .ok (calls.filter fun call => code[call.span.start]? == masked[call.span.start]?) ∧
      ∀ call ∈ calls, ∃ c, text[call.span.start]? = some c ∧ masked[call.span.start]? = some c ∧
        ((StringLayer.IsCodeAt masked call.span.start ∧ code[call.span.start]? = some c) ∨
          (¬ StringLayer.IsCodeAt masked call.span.start ∧ c ≠ ' ' ∧
            code[call.span.start]? = some ' ')) := by
  rw [allIn_eq read] at found
  obtain ⟨results, mapped, rfl⟩ := map_eq_ok.mp found
  have stand := mapM_eq_ok.mp mapped
  constructor
  case left =>
    obtain ⟨kept, rest, same⟩ := exists_kept stand fun place => code[place]? == masked[place]?
    rw [openedIn, search_code isDotted blanked, ← same]
    exact map_eq_ok.mpr ⟨kept, mapM_eq_ok.mpr rest, rfl⟩
  case right =>
    intro call listed
    obtain ⟨result, among, rfl⟩ := List.mem_filterMap.mp listed
    obtain ⟨matched, there, stands⟩ := exists_of_rel_mem stand.flip among
    obtain ⟨arguments, made⟩ := exists_made stands
    obtain ⟨place, inside, preferred⟩ := (unnested_pattern isDotted masked).mem_search_iff.mp there
    have fits := List.mem_of_mem_head? preferred
    have start : call.span.start = place := by
      rw [made.span]
      exact (span_of_mem_matchesAt fits).1
    rw [start]
    obtain ⟨reach, callee, gap, opens⟩ := exists_opens fits
    obtain ⟨c, first, letter⟩ := opens.head isDotted
    have filled := (ne_of_letter letter).1
    refine ⟨c, (CommentLayer.blanked_of_mask read).getElem?_eq first filled, first, ?_⟩
    by_cases isCode : StringLayer.IsCodeAt masked place
    · refine Or.inl ⟨isCode, ?_⟩
      rw [StringLayer.getElem?_of_mask blanked first]
      exact congrArg some (isCode.shown_eq c _)
    · refine Or.inr ⟨isCode, filled, ?_⟩
      refine ((StringLayer.blanked_of_mask blanked).getElem?_or first).resolve_left fun shown => ?_
      exact isCode (opens.isCodeAt isDotted blanked (Or.inl rfl) (shown.trans first.symm))

end Blanked

section Mentioned

/-- A text with a call and a message that mentions it. -/
def mentioningText : String :=
  "log(localStorage.getItem('user'), \"not localStorage.getItem('user')\")"

/-- The text with the contents of its literals blanked. -/
def mentioningCode : List Char :=
  "log(localStorage.getItem('    '), \"                                \")".toList

/-- A call that reads the resource that the contract covers. -/
def readingAt (start stop : Nat) : StorageCall where
  operation := .read
  resource := .text "user"
  file := "a.ts"
  line := 1
  span := ⟨start, stop⟩
  arguments := []
  callee := "localStorage.getItem"

theorem masked_mentioning : maskComments mentioningText.toList = .ok mentioningText.toList ∧
    maskStrings mentioningText.toList = .ok mentioningCode := by
  constructor <;> cbv

theorem allIn_mentioning :
    allIn Substitution.storingScope.storage mentioningText.toList "a.ts" =
      .ok [readingAt 4 32, readingAt 39 67] := by
  cbv

theorem openedIn_code_mentioning :
    Substitution.storingScope.storage.IsDotted ∧
      openedIn Substitution.storingScope.storage mentioningText.toList mentioningText.toList
        mentioningCode "a.ts" = .ok [readingAt 4 32] := by
  have isDotted : Substitution.storingScope.storage.IsDotted := by
    refine ⟨by decide, fun function listed => ?_⟩
    obtain rfl := List.mem_singleton.mp listed
    exact isDotted_of_all (by decide) (by decide)
  refine ⟨isDotted, ?_⟩
  rw [(openedIn_code isDotted masked_mentioning.2 masked_mentioning.1 allIn_mentioning).1]
  cbv

/-- A call that a message mentions is found, bound and replaced inside of the literal. -/
theorem allIn_quoted :
    maskComments mentioningText.toList = .ok mentioningText.toList ∧
      maskStrings mentioningText.toList = .ok mentioningCode ∧
      (∃ calls, allIn Substitution.storingScope.storage mentioningText.toList "a.ts" = .ok calls ∧
        readingAt 39 67 ∈ calls) ∧
      mentioningText.toList[39]? = some 'l' ∧ mentioningCode[39]? = some ' ' ∧
      Substitution.outcomeOf Substitution.storingScope
          (.grouped Substitution.storingScope.contract) (readingAt 39 67) =
        .ok ⟨some ⟨⟨39, 67⟩, "api.loadUser()"⟩, some Substitution.loadUser, false, none⟩ ∧
      Edit.applyAll [⟨⟨39, 67⟩, "api.loadUser()"⟩] mentioningText.toList =
        .ok "log(localStorage.getItem('user'), \"not api.loadUser()\")".toList := by
  refine ⟨masked_mentioning.1, masked_mentioning.2, ⟨_, allIn_mentioning, by simp⟩, rfl, rfl,
    by cbv, by cbv⟩

end Mentioned

end StorageCall

end FeatureLayout
