import FeatureLayout.Proofs.Code.Standing
import FeatureLayout.Proofs.Ledger
import FeatureLayout.Proofs.Persistence.Call

/-!
# The storage objects that calls name

Every call names a storage object: a call that reads, writes or deletes names it at its start, up to
the first dot of its function, and a call that lists names it as its first argument. When the
function is made of names and dots, nothing between the start of the call and its storage object
opens or closes a literal, so the object is in code when the start is.
-/

namespace FeatureLayout

open Text Code Pattern

/-- A function that is made of names and dots. -/
structure IsDotted (function : String) : Prop where
  nonempty : function ≠ ""
  letters : ∀ c ∈ function.toList, isNameChar c = true ∨ c = '.'

section Letter

variable {c : Char} (letter : isNameChar c = true ∨ c = '.')

include letter

/-- A character of names and dots opens and closes nothing. -/
theorem isStill_of_letter : StringLayer.isStill c = true := by
  rcases letter with letter | rfl
  · exact StringLayer.isStill_of_isNameChar letter
  · decide

/-- A character of names and dots is not what stands in the place of blanked characters. -/
theorem ne_of_letter : c ≠ ' ' ∧ c ≠ '\n' := by
  rcases letter with letter | rfl
  · exact ⟨ne_of_isNameChar letter (by decide), ne_of_isNameChar letter (by decide)⟩
  · decide

end Letter

theorem IsDotted.isStill {function : String} (dotted : IsDotted function) :
    ∀ c ∈ function.toList, StringLayer.isStill c = true :=
  fun c listed => isStill_of_letter (dotted.letters c listed)

theorem IsDotted.exists_head {function : String} (dotted : IsDotted function) :
    ∃ c, function.toList.head? = some c ∧ c ≠ ' ' ∧ c ≠ '\n' := by
  have filled : function.toList ≠ [] := fun none =>
    dotted.nonempty (String.toList_injective none)
  obtain ⟨c, others, first⟩ := List.exists_cons_of_ne_nil filled
  exact ⟨c, by rw [first]; rfl, ne_of_letter (dotted.letters c (first ▸ List.mem_cons_self))⟩

namespace StorageCall

theorem isNameChar_of_isClosing {c : Char} (closing : isClosing c = true) :
    isNameChar c = false := by
  simp only [isClosing, Bool.or_eq_true, beq_iff_eq] at closing
  rcases closing with (rfl | rfl) | rfl
  all_goals decide

theorem isStill_of_isBlank {c : Char} (blank : isBlank c = true) :
    StringLayer.isStill c = true := by
  have other (refused : Char) (rejected : isBlank refused = false) : c ≠ refused :=
    ne_of_isBlank blank rejected
  refine StringLayer.isStill_iff.mpr ⟨?_, other '{' (by decide), other '}' (by decide)⟩
  simp [isQuote, other '\'' (by decide), other '"' (by decide), other '`' (by decide)]

/-- What reaches a function or an argument through `window.` opens and closes nothing. -/
theorem isStill_of_reach {reach : List Char} (through : reach = [] ∨ reach = "window.".toList) :
    ∀ c ∈ reach, StringLayer.isStill c = true := by
  rcases through with rfl | rfl
  · exact fun c listed => absurd listed List.not_mem_nil
  · exact List.all_eq_true.mp (by decide)

theorem exists_head_of_reach {reach rest : List Char}
    (through : reach = [] ∨ reach = "window.".toList)
    (head : ∃ c, rest.head? = some c ∧ c ≠ ' ' ∧ c ≠ '\n') :
    ∃ c, (reach ++ rest).head? = some c ∧ c ≠ ' ' ∧ c ≠ '\n' := by
  rcases through with rfl | rfl
  · exact head
  · exact ⟨'w', rfl, by decide, by decide⟩

variable {interface : StorageInterface} {text masked : List Char} {file : String}
  {call : StorageCall} {found : Match Part} {listed : Arguments} {way name : List Char}

/-- A storage object that a call names behind a stretch of a text without comments. -/
structure Names (interface : StorageInterface) (masked : List Char) (call : StorageCall)
    (way name : List Char) : Prop where
  listed : String.ofList name ∈ interface.identifiers
  inside : call.span.start + way.length < call.span.stop
  stands : StandsAt name masked (call.span.start + way.length)
  leads : ∃ front rest, masked = front ++ ((way ++ name) ++ rest) ∧ front.length = call.span.start
  still : IsDotted call.callee → ∀ c ∈ way, StringLayer.isStill c = true
  starts : IsDotted call.callee → ∃ c, (way ++ name).head? = some c ∧ c ≠ ' ' ∧ c ≠ '\n'

/-- What stands behind the start of a call and its way is a storage object that the call names. -/
theorem names_of_append {front rest : List Char} (listed : String.ofList name ∈ interface.identifiers)
    (whole : masked = front ++ ((way ++ name) ++ rest)) (start : front.length = call.span.start)
    (inside : call.span.start + way.length < call.span.stop)
    (fresh : (front ++ way).getLast?.any isNameChar = false)
    (edge : rest.head?.any isWord = false)
    (still : IsDotted call.callee → ∀ c ∈ way, StringLayer.isStill c = true)
    (starts : IsDotted call.callee → ∃ c, (way ++ name).head? = some c ∧ c ≠ ' ' ∧ c ≠ '\n') :
    Names interface masked call way name := by
  have split : masked = (front ++ way) ++ (name ++ rest) := by simp [whole]
  have place : call.span.start + way.length = (front ++ way).length := by
    rw [List.length_append, start]
  refine ⟨listed, inside, ?_, ⟨front, rest, whole, start⟩, still, starts⟩
  rw [place, split]
  exact standsAt_append_iff.mpr ⟨fresh, rest, rfl, edge⟩

/-- What stands before the first dot of a function that does not list is a storage object. -/
theorem mem_identifiers {function : List Char} {operation : Operation}
    (known : interface.calls.find? (String.ofList function) = some operation)
    (reads : operation ≠ .list) :
    String.ofList (function.takeWhile (· != '.')) ∈ interface.identifiers := by
  have entered := (Ledger.find?_eq_some_iff interface.calls _ _).mp known
  refine List.mem_eraseDups.mpr (List.mem_map.mpr ⟨_, List.mem_filter.mpr ⟨entered, ?_⟩, ?_⟩)
  · exact bne_iff_ne.mpr reads
  · rw [String.toList_ofList]

/-- What may stand in front of a name is no character of names. -/
theorem getLast?_any_of_reach {front reach : List Char}
    (through : reach = [] ∨ reach = "window.".toList)
    (fresh : front.getLast?.any isNameChar = false) :
    (front ++ reach).getLast?.any isNameChar = false := by
  rcases through with rfl | rfl
  · rwa [List.append_nil]
  · rw [List.getLast?_append_of_ne_nil _ (by decide)]
    decide

/-- No character of names stands in front of a call. -/
theorem fresh_of_opens {front reach callee gap : List Char} {cursor : Cursor}
    (leads : (Cursor.start masked).Leads front cursor)
    (opens : Opens interface cursor reach callee gap found) :
    front.getLast?.any isNameChar = false := by
  have before : cursor.before = front.getLast? := leads.before.trans Option.or_none
  have apart := opens.fresh
  rw [before] at apart
  cases last : front.getLast? with
  | none => rfl
  | some c =>
    rw [last, Option.any_some, Bool.or_eq_false_iff] at apart
    exact apart.1

/-- A call that reads, writes or deletes names a storage object at its start, perhaps behind
`window.`. -/
theorem names_of_function {front reach callee gap : List Char} {cursor : Cursor}
    (leads : (Cursor.start masked).Leads front cursor)
    (opens : Opens interface cursor reach callee gap found)
    (made : Made interface text masked file found listed call) (reads : call.operation ≠ .list)
    (whole : ∀ name ∈ interface.identifiers, IsWhole name.toList) :
    Names interface masked call reach (callee.takeWhile (· != '.')) := by
  obtain ⟨rest, ahead⟩ := opens.ahead
  have known := made.operation
  rw [opens.named] at known
  have among := mem_identifiers known reads
  have name := whole _ among
  rw [String.toList_ofList] at name
  have callees : callee.takeWhile (· != '.') ++ callee.dropWhile (· != '.') = callee :=
    List.takeWhile_append_dropWhile
  have split : masked = front ++ ((reach ++ callee.takeWhile (· != '.')) ++
      (callee.dropWhile (· != '.') ++ (gap ++ '(' :: rest))) := by
    have text : masked = front ++ cursor.ahead := leads.text
    rw [text, ahead]
    nth_rewrite 1 [← callees]
    simp only [List.append_assoc]
  have start : front.length = call.span.start := by
    rw [made.span, opens.start, leads.offset]
    exact (Nat.zero_add _).symm
  refine names_of_append among split start ?inside ?fresh ?edge
    (fun _ => isStill_of_reach opens.through)
    (fun _ => exists_head_of_reach opens.through name.exists_head)
  case inside =>
    obtain ⟨_, inner, _, _, -, -, close⟩ := exists_close_of_scanArguments made.scanned
    have begins := opens.start
    have ends := opens.stop
    rw [made.span]
    dsimp only
    omega
  case fresh => exact getLast?_any_of_reach opens.through (fresh_of_opens leads opens)
  case edge =>
    cases tail : callee.dropWhile (· != '.') with
    | nil =>
      cases gap with
      | nil => exact (by decide : isWord '(' = false)
      | cons c more => exact isWord_of_isBlank (opens.blank c List.mem_cons_self)
    | cons c more =>
      have dot := List.head_dropWhile_not (· != '.') (by rw [tail]; exact List.cons_ne_nil _ _)
      simp only [tail, List.head_cons, bne_eq_false_iff_eq] at dot
      subst dot
      exact (by decide : isWord '.' = false)

/-- An argument is a storage object with blanks around it, perhaps behind `window.`. -/
theorem exists_of_storageObject (argument : List Char) :
    ∃ reach before after,
      argument = reach ++ (before ++ ((storageObject argument).toList ++ after)) ∧
      (reach = [] ∨ reach = "window.".toList) ∧ (∀ c ∈ before, isBlank c = true) ∧
      ∀ c ∈ after, isBlank c = true := by
  have trimmed (text : List Char) : ∃ before after, text = before ++ (trim text ++ after) ∧
      (∀ c ∈ before, isBlank c = true) ∧ ∀ c ∈ after, isBlank c = true := by
    have front : text.takeWhile isBlank ++ trimFront text = text :=
      List.takeWhile_append_dropWhile
    have back : (trimFront text).reverse.takeWhile isBlank ++
        (trimFront text).reverse.dropWhile isBlank = (trimFront text).reverse :=
      List.takeWhile_append_dropWhile
    refine ⟨text.takeWhile isBlank, ((trimFront text).reverse.takeWhile isBlank).reverse, ?_, ?_, ?_⟩
    · rw [trim, trimBack, ← List.reverse_append, back, List.reverse_reverse, front]
    · exact fun c listed => List.mem_takeWhile_imp listed
    · exact fun c listed => List.mem_takeWhile_imp (List.mem_reverse.mp listed)
  unfold storageObject
  dsimp only
  split
  · next reached =>
    obtain ⟨rest, rfl⟩ := List.isPrefixOf_iff_prefix.mp reached
    obtain ⟨before, after, same, blank, also⟩ := trimmed rest
    refine ⟨"window.".toList, before, after, ?_, Or.inr rfl, blank, also⟩
    have content : (String.ofList (trim rest)).toList = trim rest := String.toList_ofList
    rw [List.drop_left, content, ← same]
  · obtain ⟨before, after, same, blank, also⟩ := trimmed argument
    refine ⟨[], before, after, ?_, Or.inl rfl, blank, also⟩
    rw [String.toList_ofList, ← same]
    rfl

/-- An argument without slashes is shown as it is. -/
theorem eq_of_shown (read : maskComments text = .ok masked) {front body after : List Char}
    (whole : masked = front ++ (body ++ after))
    (head : ∃ c, body.head? = some c ∧ isBlank c = false)
    (slashes : '/' ∉ (Span.mk front.length (front.length + body.length)).of text) :
    body = (Span.mk front.length (front.length + body.length)).of text := by
  have blanked := CommentLayer.blanked_of_mask read
  rw [whole] at blanked
  obtain ⟨before, later, shownFront, shownLater, rfl⟩ := exists_append_of_rel blanked
  obtain ⟨word, rest, shownBody, -, rfl⟩ := exists_append_of_rel shownLater
  have stretch : (Span.mk front.length (front.length + body.length)).of (before ++ (word ++ rest)) =
      word := by
    rw [Span.of, slice, shownFront.length_eq, shownBody.length_eq, List.take_length_add_append,
      List.drop_left, List.take_left]
  rw [stretch] at slashes ⊢
  obtain ⟨c, first, filled⟩ := head
  obtain ⟨letters, rfl⟩ := List.head?_eq_some_iff.mp first
  obtain ⟨d, others, same, -, rfl⟩ := List.forall₂_cons_left_iff.mp shownBody
  have blank : c ≠ ' ' := by
    rintro rfl
    cases filled
  have line : c ≠ '\n' := by
    rintro rfl
    cases filled
  obtain rfl := same.resolve_right fun hidden => blank hidden.1
  have shows : masked[before.length]? = (c :: others).head? := by
    rw [whole, ← shownFront.length_eq, List.getElem?_append_right (Nat.le_refl _), Nat.sub_self]
    rfl
  obtain ⟨shown, more, split, length⟩ :=
    CommentLayer.exists_append_of_mask slashes ⟨c, others, rfl, blank, line⟩ read shows
  rw [split] at whole
  obtain ⟨-, behind⟩ := List.append_inj whole (length.trans shownFront.length_eq.symm)
  exact (List.append_inj_left behind shownBody.length_eq.symm).symm

theorem getLast?_any_append {front back : List Char} (apart : ∀ c ∈ back, isNameChar c = false)
    (fresh : front.getLast?.any isNameChar = false) :
    (front ++ back).getLast?.any isNameChar = false := by
  rw [List.getLast?_append]
  cases last : back.getLast? with
  | none => exact fresh
  | some c => exact apart c (List.mem_of_getLast? last)

/-- A first argument of a call, and what leads to it from the start of the call. -/
structure Argument (masked front lead body after : List Char) (span : Span) (call : StorageCall) :
    Prop where
  whole : masked = (front ++ lead) ++ (body ++ after)
  start : front.length = call.span.start
  stretch : span = ⟨(front ++ lead).length, (front ++ lead).length + body.length⟩
  inside : span.stop < call.span.stop
  head : ∃ c, body.head? = some c ∧ isBlank c = false
  last : ∃ c, body.getLast? = some c ∧ isBlank c = false
  ends : ∃ c, after.head? = some c ∧ (isBlank c = true ∨ c = ',' ∨ isClosing c = true)

/-- The first argument of a call follows the start of the call, its parenthesis, and blanks and
commas. -/
theorem exists_argument {front reach callee gap : List Char} {cursor : Cursor}
    (leads : (Cursor.start masked).Leads front cursor)
    (opens : Opens interface cursor reach callee gap found)
    (made : Made interface text masked file found listed call) {span : Span} {others : List Span}
    (spans : listed.spans = span :: others) :
    ∃ between body after, (∀ c ∈ between, isBlank c = true ∨ c = ',') ∧
      Argument masked front (reach ++ (callee ++ (gap ++ '(' :: between))) body after span call := by
  obtain ⟨ends, c, rest, between, body, after, behind, first⟩ :=
    exists_first_of_scanArguments made.scanned spans
  obtain ⟨more, ahead⟩ := opens.ahead
  have place : cursor.offset = front.length := leads.offset.trans (Nat.zero_add _)
  have opening := opens.start
  have behindOpening := opens.stop
  have split : masked = (front ++ (reach ++ (callee ++ gap))) ++ '(' :: more := by
    have same : masked = front ++ cursor.ahead := leads.text
    rw [same, ahead]
    simp only [List.append_assoc]
  have length : found.span.stop - 1 = (front ++ (reach ++ (callee ++ gap))).length := by
    simp only [List.length_append]
    omega
  rw [split, length, List.drop_left] at behind
  obtain ⟨rfl, rfl⟩ := List.cons.inj behind
  refine ⟨between, body, after, first.apart, ?_, ?_, ?_, ?_, first.head, first.last, first.ends⟩
  · rw [split, first.text]
    simp only [List.append_assoc, List.cons_append]
  · rw [made.span, opening, place]
  · have same : found.span.stop - 1 + 1 + between.length =
        (front ++ (reach ++ (callee ++ (gap ++ '(' :: between)))).length := by
      rw [length]
      simp only [List.length_append, List.length_cons]
      omega
    rw [first.span, same]
  · rw [made.span]
    exact Nat.lt_succ_of_le ends

/-- No storage object, and nothing that may stand around it in an argument, has a slash. -/
theorem slash_not_mem_of_storageObject {argument : List Char}
    (whole : IsWhole (storageObject argument).toList) : '/' ∉ argument := by
  obtain ⟨through, before, trail, content, reached, blank, also⟩ := exists_of_storageObject argument
  rw [content]
  simp only [List.mem_append, not_or]
  refine ⟨?reach, fun listed => ?before, fun listed => ?name, fun listed => ?trail⟩
  case reach =>
    rcases reached with rfl | rfl
    · exact List.not_mem_nil
    · decide
  case before => exact absurd (blank _ listed) (by decide)
  case name => exact absurd (whole.letters _ listed) (by decide)
  case trail => exact absurd (also _ listed) (by decide)

/-- An argument that is a storage object is shown as a whole, and the object is the end of it: its
last character is no blank. -/
theorem Argument.exists_body {front lead body after : List Char} {span : Span}
    (argument : Argument masked front lead body after span call)
    (read : maskComments text = .ok masked)
    (whole : IsWhole (storageObject (span.of text)).toList) :
    ∃ through before, body = through ++ (before ++ (storageObject (span.of text)).toList) ∧
      (through = [] ∨ through = "window.".toList) ∧ ∀ c ∈ before, isBlank c = true := by
  have shown : body = span.of text := by
    have slashes := slash_not_mem_of_storageObject whole
    rw [argument.stretch] at slashes ⊢
    exact eq_of_shown read argument.whole argument.head slashes
  obtain ⟨through, before, trail, content, reached, blank, also⟩ :=
    exists_of_storageObject (span.of text)
  have none : trail = [] := by
    by_contra some
    obtain ⟨c, last, filled⟩ := argument.last
    rw [shown, content, List.getLast?_append_of_ne_nil _ (by simp [some]),
      List.getLast?_append_of_ne_nil _ (by simp [some]), List.getLast?_append_of_ne_nil _ some]
      at last
    rw [also c (List.mem_of_getLast? last)] at filled
    cases filled
  rw [none, List.append_nil] at content
  exact ⟨through, before, shown.trans content, reached, blank⟩

/-- A call names the storage object that is its first argument. -/
theorem exists_names_of_argument {front lead body after : List Char} {span : Span}
    (read : maskComments text = .ok masked) (argument : Argument masked front lead body after span call)
    (storage : storageObject (span.of text) ∈ interface.identifiers)
    (whole : IsWhole (storageObject (span.of text)).toList)
    (fresh : (front ++ lead).getLast?.any isNameChar = false)
    (still : IsDotted call.callee → ∀ c ∈ lead, StringLayer.isStill c = true)
    (starts : IsDotted call.callee → ∃ c, lead.head? = some c ∧ c ≠ ' ' ∧ c ≠ '\n') :
    ∃ way name, Names interface masked call way name := by
  obtain ⟨through, before, content, reached, blank⟩ := argument.exists_body read whole
  have object : String.ofList (storageObject (span.of text)).toList ∈ interface.identifiers := by
    rwa [String.ofList_toList]
  generalize (storageObject (span.of text)).toList = name at content object
  have split : masked = front ++ (((lead ++ (through ++ before)) ++ name) ++ after) := by
    rw [argument.whole, content]
    simp only [List.append_assoc]
  refine ⟨lead ++ (through ++ before), name, names_of_append object split argument.start ?inside
    ?fresh ?edge (fun dotted => ?still) (fun dotted => ?starts)⟩
  case inside =>
    have ends := argument.inside
    have stretch := congrArg Span.stop argument.stretch
    have start := argument.start
    rw [content] at stretch
    simp only [List.length_append] at stretch ⊢
    omega
  case fresh =>
    rw [← List.append_assoc, ← List.append_assoc]
    exact getLast?_any_append (fun c listed => isNameChar_of_isBlank (blank c listed))
      (getLast?_any_of_reach reached fresh)
  case edge =>
    obtain ⟨c, next, kinds⟩ := argument.ends
    rw [next]
    rcases kinds with blank | rfl | closing
    · exact isWord_of_isBlank blank
    · decide
    · exact (Bool.or_eq_false_iff.mp (isNameChar_of_isClosing closing)).1
  case still =>
    intro c listed
    rcases List.mem_append.mp listed with early | listed
    · exact still dotted c early
    rcases List.mem_append.mp listed with window | late
    · exact isStill_of_reach reached c window
    · exact isStill_of_isBlank (blank c late)
  case starts =>
    obtain ⟨c, first, blank, line⟩ := starts dotted
    obtain ⟨letters, rfl⟩ := List.head?_eq_some_iff.mp first
    exact ⟨c, rfl, blank, line⟩

/-- Every call names a storage object. -/
theorem exists_names {calls : List StorageCall} (found : allIn interface text file = .ok calls)
    (read : maskComments text = .ok masked)
    (whole : ∀ name ∈ interface.identifiers, IsWhole name.toList) (listed : call ∈ calls) :
    ∃ way name, Names interface masked call way name := by
  obtain ⟨shown, matched, arguments, also, among, made⟩ := exists_matched_of_mem found listed
  obtain rfl := Except.ok.inj (also.symm.trans read)
  obtain ⟨front, cursor, leads, fits⟩ := exists_place_of_mem_search among
  obtain ⟨reach, callee, gap, opens⟩ := exists_opens fits
  have fresh : front.getLast?.any isNameChar = false := fresh_of_opens leads opens
  by_cases lists : call.operation = .list
  · obtain ⟨span, others, spans, storage⟩ := made.storage lists
    obtain ⟨between, body, after, apart, argument⟩ := exists_argument leads opens made spans
    have same : call.callee.toList = callee := by
      rw [made.callee, opens.named, String.toList_ofList]
    refine exists_names_of_argument read argument storage (whole _ storage) ?fresh
      (fun dotted => ?still) (fun dotted => ?starts)
    case fresh =>
      have grouped : front ++ (reach ++ (callee ++ (gap ++ '(' :: between))) =
          (front ++ (reach ++ (callee ++ gap)) ++ ['(']) ++ between := by
        simp
      rw [grouped]
      refine getLast?_any_append (fun c inside => ?_) ?_
      · rcases apart c inside with blank | rfl
        · exact isNameChar_of_isBlank blank
        · decide
      · rw [List.getLast?_concat]
        decide
    case still =>
      intro c inside
      simp only [List.mem_append, List.mem_cons] at inside
      rcases inside with window | function | blank | rfl | later
      · exact isStill_of_reach opens.through c window
      · exact dotted.isStill c (same ▸ function)
      · exact isStill_of_isBlank (opens.blank c blank)
      · decide
      · rcases apart c later with blank | rfl
        · exact isStill_of_isBlank blank
        · decide
    case starts =>
      obtain ⟨c, first, visible⟩ := dotted.exists_head
      obtain ⟨letters, word⟩ := List.head?_eq_some_iff.mp first
      exact exists_head_of_reach opens.through ⟨c, by rw [← same, word]; rfl, visible⟩
  · exact ⟨_, _, names_of_function leads opens made lists whole⟩

/-- A storage object is in code when the start of a call that names it is, and its function is made
of names and dots. -/
theorem Names.standsAt {code : List Char} (names : Names interface masked call way name)
    (whole : IsWhole name) (dotted : IsDotted call.callee)
    (read : maskStrings masked = .ok code)
    (shows : code[call.span.start]? = masked[call.span.start]?) :
    StandsAt name code (call.span.start + way.length) := by
  obtain ⟨front, rest, split, start⟩ := names.leads
  obtain ⟨c, first, blank, line⟩ := names.starts dotted
  obtain ⟨letters, word⟩ := List.head?_eq_some_iff.mp first
  have still : ∀ d ∈ way ++ name, StringLayer.isStill d = true := by
    intro d listed
    rcases List.mem_append.mp listed with early | late
    · exact names.still dotted d early
    · exact StringLayer.isStill_of_isNameChar (whole.letters d late)
  have brace : c = '$' → (letters ++ rest).head? ≠ some '{' := by
    rintro rfl
    cases letters with
    | nil =>
      -- A lone dollar sign is no whole name.
      obtain ⟨d, last, isWord⟩ := whole.last
      have ends : (way ++ name).getLast? = some d := by
        rw [List.getLast?_append_of_ne_nil _ whole.ne_nil, last]
      rw [word] at ends
      obtain rfl := Option.some.inj ends
      exact absurd isWord (by decide)
    | cons d others =>
      have other : d ≠ '{' := by
        rintro rfl
        exact absurd (still '{' (by simp [word])) (by decide)
      simpa using other
  have here : masked[front.length]? = (way ++ name).head? := by
    rw [split, List.getElem?_append_right (Nat.le_refl _), Nat.sub_self, word]
    rfl
  rw [← start] at shows
  rw [split] at read
  have sound : (StringLayer.flat .outside).Sound := trivial
  obtain ⟨before, more, rfl, length⟩ := sound.exists_append_of_mask still
    ⟨c, letters, word, blank, line, brace⟩ read (shows.trans here)
  refine names.stands.of_blanked (split ▸ StringLayer.blanked_of_mask read) ?_
  intro shift d there
  have grouped : before ++ ((way ++ name) ++ more) = (before ++ way) ++ (name ++ more) := by simp
  have place : call.span.start + way.length = (before ++ way).length := by
    rw [List.length_append, length, start]
  rw [grouped, place, List.getElem?_append_right (Nat.le_add_right _ _), Nat.add_sub_cancel_left,
    List.getElem?_append_left (List.getElem?_eq_some_iff.mp there).1, there]

end StorageCall

end FeatureLayout
