import FeatureLayout.Proofs.Pattern.Named
import FeatureLayout.Proofs.Persistence.Storage
import FeatureLayout.Proofs.Validation.Crossings

/-!
# Which references to storage objects are reported

The calls that are out of scope are blanked, from their first character to their closing bracket,
before a staged text is searched for storage objects. No call starts inside of a name or ends in
one, so the blanks neither cut off a name nor set one free: what is reported are the storage objects
in code that stand outside of all these calls.

Inside of the arguments of a call that is out of scope nothing is reported, whatever stands there.
-/

namespace FeatureLayout

open Text Code

/-- A stretch that continues no name and ends with a closing bracket, as calls do. -/
structure Bracketed (masked : List Char) (span : Span) : Prop where
  fresh : ∀ before c, span.start = before + 1 → masked[before]? = some c → isNameChar c = false
  closed : ∃ last c, span.stop = last + 1 ∧ masked[last]? = some c ∧ isClosing c = true

/-- The calls of a text continue no names and end with closing brackets. -/
theorem StorageCall.bracketed_of_mem {interface : StorageInterface} {text masked : List Char}
    {file : String} {calls : List StorageCall} (found : allIn interface text file = .ok calls)
    (read : maskComments text = .ok masked) {call : StorageCall} (listed : call ∈ calls) :
    Bracketed masked call.span := by
  obtain ⟨shown, matched, arguments, also, among, made⟩ := exists_matched_of_mem found listed
  obtain rfl := Except.ok.inj (also.symm.trans read)
  obtain ⟨front, cursor, leads, fits⟩ := Pattern.exists_place_of_mem_search among
  obtain ⟨reach, callee, gap, opens⟩ := exists_opens fits
  obtain ⟨c, inner, d, after, whole, closing, close⟩ := exists_close_of_scanArguments made.scanned
  constructor
  case fresh =>
    have apart := fresh_of_opens leads opens
    have text : shown = front ++ cursor.ahead := leads.text
    have place : call.span.start = front.length := by
      rw [made.span, opens.start, leads.offset]
      exact Nat.zero_add _
    intro before d start there
    rw [text, List.getElem?_append_left (by omega)] at there
    have last : front.getLast? = some d := by
      rw [List.getLast?_eq_getElem?, ← place, start, Nat.add_sub_cancel, there]
    rw [last] at apart
    exact apart
  case closed =>
    refine ⟨arguments.close, d, by rw [made.span], ?_, closing⟩
    have inside := congrArg (·[inner.length + 1]?) whole
    simp only [List.getElem?_drop, List.cons_append, List.getElem?_cons_succ] at inside
    rw [List.getElem?_append_right (Nat.le_refl _), Nat.sub_self, List.getElem?_cons_zero] at inside
    rw [close, Nat.add_right_comm, Nat.add_assoc]
    exact inside

section Edges

variable {span : Span} {masked code : List Char} {place : Nat}

/-- No call starts right behind a character of names. -/
theorem Bracketed.start_ne (bracketed : Bracketed masked span) (shown : Blanked code masked)
    {c : Char} (shows : code[place]? = some c) (letter : isNameChar c = true) :
    span.start ≠ place + 1 := by
  intro start
  have inText := shown.getElem?_eq shows (ne_of_isNameChar letter (by decide))
  rw [bracketed.fresh place c start inText] at letter
  cases letter

/-- No call ends with a character of names. -/
theorem Bracketed.isNameChar_last (bracketed : Bracketed masked span) (shown : Blanked code masked)
    {c : Char} (shows : code[place]? = some c) (ends : span.stop = place + 1) :
    isNameChar c = false := by
  obtain ⟨last, d, stop, bracket, closing⟩ := bracketed.closed
  obtain rfl : last = place := by omega
  by_cases blank : c = ' '
  · rw [blank]
    decide
  · obtain rfl := Option.some.inj (bracket.symm.trans (shown.getElem?_eq shows blank))
    exact StorageCall.isNameChar_of_isClosing closing

end Edges

namespace Validation

section Blanked

/-- A text is what is in front of a stretch, the stretch, and what is behind it. -/
theorem take_append_of_append_drop (text : List Char) (span : Span) :
    text.take span.start ++ (span.of text ++ text.drop (max span.start span.stop)) = text := by
  have behind : span.of text ++ text.drop (max span.start span.stop) = text.drop span.start := by
    rw [Span.of, slice, List.drop_take]
    by_cases forward : span.start ≤ span.stop
    · have stop : max span.start span.stop = span.start + (span.stop - span.start) := by omega
      rw [stop, ← List.drop_drop, List.take_append_drop]
    · have none : span.stop - span.start = 0 := by omega
      rw [none, List.take_zero, List.nil_append, Nat.max_eq_left (by omega)]
  rw [behind, List.take_append_drop]

theorem blanked_blankSpan (text : List Char) (span : Span) :
    Blanked (blankSpan text span) text := by
  have stretch : Blanked ((span.of text).map fun c => if c == '\n' then c else ' ')
      (span.of text) := by
    refine List.forall₂_map_left_iff.mpr (List.forall₂_same.mpr fun c _ => ?_)
    by_cases line : c = '\n'
    · exact Or.inl (by simp [line])
    · exact Or.inr ⟨by simp [line], line⟩
  have front := Blanked.refl (text.take span.start)
  have back := Blanked.refl (text.drop (max span.start span.stop))
  have whole := List.rel_append front (List.rel_append stretch back)
  dsimp only at whole
  rw [take_append_of_append_drop] at whole
  rw [blankSpan, List.append_assoc]
  exact whole

/-- Blanking a stretch changes the places that it covers, and no other ones. -/
theorem getElem?_blankSpan (text : List Char) (span : Span) (place : Nat) :
    (blankSpan text span)[place]? =
      if span.start ≤ place ∧ place < span.stop then
        text[place]?.map fun c => if c == '\n' then c else ' '
      else text[place]? := by
  by_cases inside : place < text.length
  · by_cases early : place < span.start
    · rw [if_neg (by omega), blankSpan, List.append_assoc,
        List.getElem?_append_left (by rw [List.length_take]; omega), List.getElem?_take_of_lt early]
    · have length : (text.take span.start).length = span.start := by
        rw [List.length_take]
        omega
      have stretch : ((span.of text).map fun c => if c == '\n' then c else ' ').length =
          min span.stop text.length - span.start := by
        rw [List.length_map, Span.of, length_slice]
      rw [blankSpan, List.append_assoc, List.getElem?_append_right (by omega), length]
      by_cases within : place < span.stop
      · rw [if_pos (by omega), List.getElem?_append_left (by omega), List.getElem?_map, Span.of,
          slice, List.getElem?_drop, List.getElem?_take_of_lt (by omega)]
        congr 2
        omega
      · rw [if_neg (by omega), List.getElem?_append_right (by omega), List.getElem?_drop, stretch]
        congr 1
        omega
  · have length := (blanked_blankSpan text span).length_eq
    rw [List.getElem?_eq_none (by omega), List.getElem?_eq_none (by omega)]
    split <;> rfl

/-- Some stretches cover a place. -/
def Covered (spans : List Span) (place : Nat) : Prop :=
  ∃ span ∈ spans, span.start ≤ place ∧ place < span.stop

variable {spans : List Span} {place : Nat}

theorem blanked_foldl (spans : List Span) (text : List Char) :
    Blanked (spans.foldl blankSpan text) text := by
  induction spans generalizing text with
  | nil => exact .refl text
  | cons span rest inductionHypothesis =>
    exact (inductionHypothesis _).trans (blanked_blankSpan text span)

/-- What no stretch covers is shown. -/
theorem getElem?_foldl (text : List Char) (apart : ¬ Covered spans place) :
    (spans.foldl blankSpan text)[place]? = text[place]? := by
  induction spans generalizing text with
  | nil => rfl
  | cons span rest inductionHypothesis =>
    rw [List.foldl_cons, inductionHypothesis _ fun ⟨other, listed, covers⟩ =>
      apart ⟨other, List.mem_cons_of_mem span listed, covers⟩, getElem?_blankSpan]
    exact if_neg fun covers => apart ⟨span, List.mem_cons_self, covers⟩

/-- What a stretch covers is blanked. -/
theorem blank_of_covered {text : List Char} (covered : Covered spans place) {c : Char}
    (shows : (spans.foldl blankSpan text)[place]? = some c) : c = ' ' ∨ c = '\n' := by
  induction spans generalizing text with
  | nil =>
    obtain ⟨span, listed, -⟩ := covered
    exact absurd listed List.not_mem_nil
  | cons span rest inductionHypothesis =>
    rw [List.foldl_cons] at shows
    by_cases later : Covered rest place
    · exact inductionHypothesis later shows
    · have covers : span.start ≤ place ∧ place < span.stop := by
        obtain ⟨other, listed, covers⟩ := covered
        rcases List.mem_cons.mp listed with rfl | among
        · exact covers
        · exact absurd ⟨other, among, covers⟩ later
      rw [getElem?_foldl _ later, getElem?_blankSpan, if_pos covers] at shows
      obtain ⟨d, -, same⟩ := Option.map_eq_some_iff.mp shows
      split at same
      · next line =>
        right
        rw [← same]
        exact beq_iff_eq.mp line
      · exact Or.inl same.symm

theorem not_covered_of_shown {text : List Char} {c : Char}
    (shows : (spans.foldl blankSpan text)[place]? = some c) (letter : isNameChar c = true) :
    ¬ Covered spans place := by
  intro covered
  rcases blank_of_covered covered shows with rfl | rfl
  all_goals exact absurd letter (by decide)

section Names

variable {masked code name : List Char}

/-- The characters of a name that is left when calls are blanked stand outside of them. -/
theorem letters_of_foldl (whole : IsWhole name)
    (stands : StandsAt name (spans.foldl blankSpan code) place) {shift : Nat} {c : Char}
    (there : name[shift]? = some c) :
    code[place + shift]? = some c ∧ ¬ Covered spans (place + shift) := by
  have shows := stands.letters shift c there
  have letter := whole.letters c (List.mem_of_getElem? there)
  have inCode := (blanked_foldl spans code).getElem?_eq shows (ne_of_isNameChar letter (by decide))
  exact ⟨inCode, not_covered_of_shown shows letter⟩

/-- A name that is left when calls are blanked stood there before. A call in front of it ends with a
bracket, and no call starts right behind it, so neither hides that it was part of a longer name. -/
theorem standsAt_of_foldl (shown : Blanked code masked)
    (bracketed : ∀ span ∈ spans, Bracketed masked span) (whole : IsWhole name)
    (stands : StandsAt name (spans.foldl blankSpan code) place) :
    StandsAt name code place ∧ ¬ Covered spans place := by
  obtain ⟨first, others, starts⟩ := List.exists_cons_of_ne_nil whole.ne_nil
  have starting : name[0]? = some first := by
    rw [starts]
    rfl
  have outside : ¬ Covered spans place := (letters_of_foldl whole stands starting).2
  refine ⟨⟨fun shift c there => (letters_of_foldl whole stands there).1, ?fresh, ?ends⟩, outside⟩
  case fresh =>
    intro before c same there
    by_cases covered : Covered spans before
    · obtain ⟨span, listed, start, stop⟩ := covered
      have ends : span.stop = before + 1 := by
        by_contra other
        exact outside ⟨span, listed, by omega, by omega⟩
      exact (bracketed span listed).isNameChar_last shown there ends
    · exact stands.fresh before c same ((getElem?_foldl code covered).trans there)
  case ends =>
    intro c there
    by_cases covered : Covered spans (place + name.length)
    · obtain ⟨span, listed, start, stop⟩ := covered
      obtain ⟨last, final, -⟩ := whole.last
      have filled := List.length_pos_iff.mpr whole.ne_nil
      have ending : name[name.length - 1]? = some last := by
        rw [← List.getLast?_eq_getElem?, final]
      obtain ⟨inCode, apart⟩ := letters_of_foldl whole stands ending
      have here : span.start = place + (name.length - 1) + 1 := by
        by_contra other
        exact apart ⟨span, listed, by omega, by omega⟩
      have letter := whole.letters last (List.mem_of_getLast? final)
      exact absurd here ((bracketed span listed).start_ne shown inCode letter)
    · exact stands.ends c ((getElem?_foldl code covered).trans there)

/-- A name that starts outside of calls is left when they are blanked: a call that covers a later
character of it would start inside of it. -/
theorem standsAt_foldl (shown : Blanked code masked)
    (bracketed : ∀ span ∈ spans, Bracketed masked span) (whole : IsWhole name)
    (stands : StandsAt name code place) (outside : ¬ Covered spans place) :
    StandsAt name (spans.foldl blankSpan code) place := by
  refine stands.of_blanked (blanked_foldl spans code) fun shift c there => ?_
  rw [getElem?_foldl code, stands.letters shift c there]
  rintro ⟨span, listed, start, stop⟩
  have inside := (List.getElem?_eq_some_iff.mp there).1
  have behind : place < span.start := by
    by_contra early
    exact outside ⟨span, listed, by omega, by omega⟩
  obtain ⟨before, same⟩ := Nat.exists_eq_add_of_lt behind
  have earlier : before < name.length := by omega
  have inCode := stands.letters before _ (List.getElem?_eq_getElem earlier)
  have letter := whole.letters _ (List.getElem_mem earlier)
  exact (bracketed span listed).start_ne shown inCode letter same

/-- When calls are blanked, the names that are left are those that stand outside of them. -/
theorem standsAt_foldl_iff (shown : Blanked code masked)
    (bracketed : ∀ span ∈ spans, Bracketed masked span) (whole : IsWhole name) :
    StandsAt name (spans.foldl blankSpan code) place ↔
      StandsAt name code place ∧ ¬ Covered spans place :=
  ⟨standsAt_of_foldl shown bracketed whole, fun ⟨stands, outside⟩ =>
    standsAt_foldl shown bracketed whole stands outside⟩

end Names

end Blanked

section Reported

variable {scope : Scope} {classification : Classification} {layout : Layout}
  {staged : Ledger String String} {validation : Validation} {move : Move} {content : String}

/-- A call that is out of scope covers a place. -/
def Excused (scope : Scope) (calls : List StorageCall) (place : Nat) : Prop :=
  ∃ call ∈ calls, isOutOfScope scope call = .ok true ∧
    call.span.start ≤ place ∧ place < call.span.stop

/-- A storage object stands in the code of a text. -/
def Stored (scope : Scope) (code : List Char) (place : Nat) : Prop :=
  ∃ name ∈ scope.storage.identifiers, StandsAt name.toList code place

/-- A staged text with its calls, without comments, and without the contents of literals. -/
structure Searched (scope : Scope) (source : String) (text : List Char)
    (calls : List StorageCall) (masked code : List Char) : Prop where
  found : StorageCall.allIn scope.storage text source = .ok calls
  read : maskComments text = .ok masked
  shown : maskStrings masked = .ok code

/-- What is searched is determined by the text. -/
theorem Searched.unique {source : String} {text masked code other another : List Char}
    {calls others : List StorageCall} (first : Searched scope source text calls masked code)
    (second : Searched scope source text others other another) :
    calls = others ∧ masked = other ∧ code = another := by
  obtain rfl := Except.ok.inj (first.found.symm.trans second.found)
  obtain rfl := Except.ok.inj (first.read.symm.trans second.read)
  obtain rfl := Except.ok.inj (first.shown.symm.trans second.shown)
  exact ⟨rfl, rfl, rfl⟩

/-- What is searched is the code of the text, with the calls that are out of scope blanked. -/
theorem exists_searched {source : String} {text checked : List Char}
    (run : checkedText scope source text = .ok checked) :
    ∃ calls masked code spans, Searched scope source text calls masked code ∧
      checked = spans.foldl blankSpan code ∧
      (∀ span ∈ spans, Bracketed masked span) ∧
      ∀ place, Covered spans place ↔ Excused scope calls place := by
  obtain ⟨calls, found, run⟩ := bind_eq_ok.mp run
  obtain ⟨allowed, tested, run⟩ := bind_eq_ok.mp run
  obtain ⟨code, shown, same⟩ := bind_eq_ok.mp run
  obtain rfl := Except.ok.inj same
  have found := eq_ok_of_mapError found
  have tested := eq_ok_of_mapError tested
  obtain ⟨masked, read, hidden⟩ := bind_eq_ok.mp (eq_ok_of_mapError shown)
  refine ⟨calls, masked, code, allowed.map (·.span), ⟨found, read, hidden⟩, rfl, ?_, ?_⟩
  · intro span listed
    obtain ⟨call, among, rfl⟩ := List.mem_map.mp listed
    exact StorageCall.bracketed_of_mem found read ((mem_of_filterM tested).mp among).1
  · intro place
    constructor
    · rintro ⟨span, listed, covers⟩
      obtain ⟨call, among, rfl⟩ := List.mem_map.mp listed
      obtain ⟨present, outside⟩ := (mem_of_filterM tested).mp among
      exact ⟨call, present, outside, covers⟩
    · rintro ⟨call, present, outside, covers⟩
      have among := (mem_of_filterM tested).mpr ⟨present, outside⟩
      exact ⟨call.span, List.mem_map.mpr ⟨call, among, rfl⟩, covers⟩

/-- Storage objects are searched for as names. -/
theorem storagePattern?_eq {storage : StorageInterface}
    (whole : ∀ name ∈ storage.identifiers, IsWhole name.toList) :
    storagePattern? storage =
      if storage.identifiers = [] then none
      else some (Pattern.oneOf (sorted storage.identifiers)) := by
  unfold storagePattern?
  dsimp only
  cases names : sorted storage.identifiers with
  | nil =>
    have none : storage.identifiers = [] :=
      ((names ▸ sorted_perm storage.identifiers).nil_eq).symm
    rw [if_pos none]
    rfl
  | cons first rest =>
    have listed : first ∈ storage.identifiers := by
      rw [← mem_sorted, names]
      exact List.mem_cons_self
    have filled : (joinWith "|" (first :: rest) == "") = false := by
      rw [beq_eq_false_iff_ne]
      intro empty
      have letters := congrArg String.toList empty
      cases rest with
      | nil => exact (whole first listed).ne_nil (by simpa [joinWith] using letters)
      | cons second others =>
        simp only [joinWith, String.intercalate_cons_cons, String.toList_append] at letters
        exact (whole first listed).ne_nil
          (List.append_eq_nil_iff.mp (List.append_eq_nil_iff.mp letters).1).1
    rw [if_neg (List.ne_nil_of_mem listed), filled]
    rfl

/-- What is left in a file is what is found of its storage objects outside of the calls that are out
of scope. -/
theorem mem_residuesOf_iff (some : scope.storage.identifiers ≠ [])
    (whole : ∀ name ∈ scope.storage.identifiers, IsWhole name.toList) {found : List Diagnostic}
    (run : residuesOf scope (Pattern.oneOf (sorted scope.storage.identifiers)) move content =
      .ok found) :
    ∃ calls masked code, Searched scope move.source content.toList calls masked code ∧
      ∀ line, (∃ name, .residual move.destination move.source line name ∈ found) ↔
        ∃ place, Stored scope code place ∧ ¬ Excused scope calls place ∧
          line = lineAt content.toList place := by
  obtain ⟨checked, searched, same⟩ := bind_eq_ok.mp run
  obtain rfl := Except.ok.inj same
  obtain ⟨calls, masked, code, spans, input, rfl, bracketed, covered⟩ := exists_searched searched
  have filled : sorted scope.storage.identifiers ≠ [] := by
    obtain ⟨name, rest, first⟩ := List.exists_cons_of_ne_nil some
    exact List.ne_nil_of_mem (mem_sorted.mpr (first ▸ List.mem_cons_self))
  have names : ∀ name ∈ sorted scope.storage.identifiers, IsWhole name.toList :=
    fun name listed => whole name (mem_sorted.mp listed)
  have shown : Blanked code masked := StringLayer.blanked_of_mask input.shown
  have lines (place : Nat) :
      lineAt (spans.foldl blankSpan code) place = lineAt content.toList place :=
    (((blanked_foldl spans code).trans shown).trans
      (CommentLayer.blanked_of_mask input.read)).lineAt_eq place
  refine ⟨calls, masked, code, input, fun line => ?_⟩
  constructor
  · rintro ⟨name, listed⟩
    obtain ⟨matched, among, same⟩ := List.mem_map.mp listed
    obtain ⟨other, present, -, -, stands⟩ :=
      Pattern.exists_standsAt_of_mem_search names filled among
    obtain ⟨inCode, outside⟩ :=
      (standsAt_foldl_iff shown bracketed (names other present)).mp stands
    obtain ⟨-, -, rfl, -⟩ := Diagnostic.residual.inj same
    exact ⟨matched.span.start, ⟨other, mem_sorted.mp present, inCode⟩,
      mt (covered _).mpr outside, lines _⟩
  · rintro ⟨place, ⟨name, present, stands⟩, outside, rfl⟩
    have left := (standsAt_foldl_iff shown bracketed (whole name present)).mpr
      ⟨stands, mt (covered place).mp outside⟩
    obtain ⟨matched, among, rfl⟩ :=
      Pattern.exists_mem_search names filled (mem_sorted.mpr present) left
    refine ⟨String.ofList matched.text, List.mem_map.mpr ⟨matched, among, ?_⟩⟩
    rw [lines]

/-- A storage object is reported exactly when it is found in a feature's file. -/
theorem residual_mem_errors_iff
    (ran : ofStaged scope classification layout staged = .ok validation)
    {left : List Diagnostic} (searched : residues scope layout staged = .ok left)
    {destination source identifier : String} {line : Nat} :
    .residual destination source line identifier ∈ validation.errors ↔
      .residual destination source line identifier ∈ left :=
  mem_errors_iff ran searched

/-- The storage objects that are found in a feature's file are those that are left in it. -/
theorem exists_residuesOf {pattern : Pattern Unit} {left : List Diagnostic}
    (known : storagePattern? scope.storage = some pattern)
    (searched : residues scope layout staged = .ok left) {feature : String}
    (listed : move ∈ layout.moves.values) (owned : move.owner = .feature feature)
    (holds : staged.find? move.source = some content) :
    ∃ found, residuesOf scope pattern move content = .ok found ∧ ∀ line name,
      .residual move.destination move.source line name ∈ left ↔
        .residual move.destination move.source line name ∈ found := by
  rw [residues, known] at searched
  obtain ⟨results, each, rfl⟩ := map_eq_ok.mp searched
  have every := mapM_eq_ok.mp each
  obtain ⟨found, among, run⟩ := exists_of_rel_mem every listed
  rw [owned, holds] at run
  refine ⟨found, run, fun line name => ?_⟩
  constructor
  · intro reported
    obtain ⟨others, also, inside⟩ := List.mem_flatten.mp reported
    obtain ⟨other, -, came⟩ := exists_of_rel_mem every.flip also
    split at came
    · next text _ stored =>
      obtain ⟨checked, input, same⟩ := bind_eq_ok.mp came
      obtain rfl := Except.ok.inj same
      obtain ⟨matched, there, equal⟩ := List.mem_map.mp inside
      obtain ⟨destination, source, -, -⟩ := Diagnostic.residual.inj equal
      -- The same file may be planned twice only with the same text.
      rw [source, holds] at stored
      obtain rfl := Option.some.inj stored
      obtain ⟨again, input', same⟩ := bind_eq_ok.mp run
      rw [source] at input
      obtain rfl := Except.ok.inj (input.symm.trans input')
      obtain rfl := Except.ok.inj same
      exact List.mem_map.mpr ⟨matched, there, by rw [← equal, destination, source]⟩
    · obtain rfl := Except.ok.inj came
      exact absurd inside List.not_mem_nil
  · intro reported
    exact List.mem_flatten.mpr ⟨found, among, reported⟩

/-- A storage object is reported for a line of a planned file. -/
def Reported (validation : Validation) (move : Move) (line : Nat) : Prop :=
  ∃ name, .residual move.destination move.source line name ∈ validation.errors

/-- In a feature's file, the storage objects in code that stand outside of all calls out of scope are
reported, and nothing else is. -/
theorem exists_reported_iff (ran : ofStaged scope classification layout staged = .ok validation)
    (listed : move ∈ layout.moves.values) {feature : String} (owned : move.owner = .feature feature)
    (holds : staged.find? move.source = some content) (filled : scope.storage.identifiers ≠ [])
    (whole : ∀ name ∈ scope.storage.identifiers, IsWhole name.toList) :
    ∃ calls masked code, Searched scope move.source content.toList calls masked code ∧
      ∀ line, Reported validation move line ↔ ∃ place, Stored scope code place ∧
        ¬ Excused scope calls place ∧ line = lineAt content.toList place := by
  obtain ⟨left, searched, -, -⟩ := errors_of_ofStaged ran
  have known := storagePattern?_eq whole
  rw [if_neg filled] at known
  obtain ⟨found, run, same⟩ := exists_residuesOf known searched listed owned holds
  obtain ⟨calls, masked, code, input, exact⟩ := mem_residuesOf_iff filled whole run
  refine ⟨calls, masked, code, input, fun line => ?_⟩
  rw [← exact, Reported]
  exact exists_congr fun name => (residual_mem_errors_iff ran searched).trans (same line name)

/-- Nothing is reported when no storage object is configured. -/
theorem not_reported (ran : ofStaged scope classification layout staged = .ok validation)
    (empty : scope.storage.identifiers = []) (line : Nat) : ¬ Reported validation move line := by
  have known : storagePattern? scope.storage = none := by
    rw [storagePattern?_eq, if_pos empty]
    intro name present
    rw [empty] at present
    exact absurd present List.not_mem_nil
  rintro ⟨name, reported⟩
  rw [residual_mem_errors_iff ran (by rw [residues, known])] at reported
  exact absurd reported List.not_mem_nil

/-- A call that starts in code, to a function made of names and dots, has its storage object in
code. -/
theorem Searched.exists_stored {source : String} {text masked code : List Char}
    {calls : List StorageCall} (input : Searched scope source text calls masked code)
    (whole : ∀ name ∈ scope.storage.identifiers, IsWhole name.toList) {call : StorageCall}
    (among : call ∈ calls) (dotted : IsDotted call.callee)
    (shows : code[call.span.start]? = masked[call.span.start]?) :
    ∃ place, call.span.start ≤ place ∧ place < call.span.stop ∧ Stored scope code place := by
  obtain ⟨way, name, names⟩ := StorageCall.exists_names input.found input.read whole among
  have isWhole := whole _ names.listed
  rw [String.toList_ofList] at isWhole
  have stands := names.standsAt isWhole dotted input.shown shows
  exact ⟨call.span.start + way.length, Nat.le_add_right _ _, names.inside, _, names.listed,
    by rwa [String.toList_ofList]⟩

/-- In a feature's file, a storage object in code is reported exactly when it stands outside of all
calls that are out of scope. So every call that starts in code, to a function made of names and
dots, has its storage object reported, or inside of a call that is out of scope. -/
theorem residues_exact (ran : ofStaged scope classification layout staged = .ok validation)
    (listed : move ∈ layout.moves.values) {feature : String} (owned : move.owner = .feature feature)
    (holds : staged.find? move.source = some content)
    (whole : ∀ name ∈ scope.storage.identifiers, IsWhole name.toList) :
    (scope.storage.identifiers ≠ [] → ∃ calls masked code,
      Searched scope move.source content.toList calls masked code) ∧
    ∀ calls masked code, Searched scope move.source content.toList calls masked code →
      (∀ line, Reported validation move line ↔ ∃ place, Stored scope code place ∧
        ¬ Excused scope calls place ∧ line = lineAt content.toList place) ∧
      ∀ call ∈ calls, IsDotted call.callee →
        code[call.span.start]? = masked[call.span.start]? →
          ∃ place, call.span.start ≤ place ∧ place < call.span.stop ∧ Stored scope code place ∧
            (Excused scope calls place ∨
              Reported validation move (lineAt content.toList place)) := by
  by_cases empty : scope.storage.identifiers = []
  · have stores (code : List Char) (place : Nat) : ¬ Stored scope code place := by
      rintro ⟨name, present, -⟩
      rw [empty] at present
      exact absurd present List.not_mem_nil
    refine ⟨fun filled => absurd empty filled, fun calls masked code input => ⟨fun line => ?_, ?_⟩⟩
    · constructor
      · exact fun reported => absurd reported (not_reported ran empty line)
      · exact fun ⟨place, stored, _⟩ => absurd stored (stores code place)
    · intro call among dotted shows
      obtain ⟨place, -, -, stored⟩ := input.exists_stored whole among dotted shows
      exact absurd stored (stores code place)
  · obtain ⟨calls, masked, code, input, lines⟩ :=
      exists_reported_iff ran listed owned holds empty whole
    refine ⟨fun _ => ⟨calls, masked, code, input⟩, fun others shown also again => ?_⟩
    obtain ⟨rfl, rfl, rfl⟩ := input.unique again
    refine ⟨lines, fun call among dotted shows => ?_⟩
    obtain ⟨place, start, stop, stored⟩ := input.exists_stored whole among dotted shows
    refine ⟨place, start, stop, stored, ?_⟩
    by_cases excused : Excused scope calls place
    · exact Or.inl excused
    · exact Or.inr ((lines _).mpr ⟨place, stored, excused, rfl⟩)

end Reported

section Nested

/-- A scope of one feature that owns no resource. -/
def nestedScope : Scope where
  root := []
  features := [⟨"one", ["pages/OnePage.tsx"], []⟩]
  excluded := []
  retain := []
  sourceAlias := .text "~/"
  targetAlias := .text "@/"
  bucket kind := .text kind.usualBucket
  storage :=
    { StorageInterface.usual with calls := Ledger.ofList [("localStorage.setItem", .write)] }
  contract := []
  jobs := 1
  configFile := none

/-- A call that is out of scope and refers to the storage object once more in its arguments. -/
def nestedText : String := "localStorage.setItem('out', localStorage.length)"

/-- The call. -/
def nestedCall : StorageCall where
  operation := .write
  resource := .text "out"
  file := "pages/OnePage.tsx"
  line := 1
  span := ⟨0, 48⟩
  arguments := ["localStorage.length"]
  callee := "localStorage.setItem"

/-- The text without the contents of its literal. -/
def nestedCode : List Char := "localStorage.setItem('   ', localStorage.length)".toList

/-- The move of the page. -/
def nestedMove : Move :=
  ⟨"pages/OnePage.tsx", "features/one/pages/OnePage.tsx", "features/one/pages/OnePage",
    .feature "one", .page⟩

/-- The layout that plans the page. -/
def nestedLayout : Layout := ⟨Ledger.ofList [("pages/OnePage.tsx", nestedMove)], []⟩

/-- The page belongs to its feature. -/
def nestedClassification : Classification where
  owners := Ledger.ofList [("pages/OnePage.tsx", .feature "one")]
  reaching := .empty
  unreached := []
  retained := []
  cycles := []
  errors := []

/-- The staged text. -/
def nestedStaged : Ledger String String := Ledger.ofList [("pages/OnePage.tsx", nestedText)]

/-- The page imports nothing. -/
def nestedEdges : Ledger String (List String) := Ledger.ofList [("pages/OnePage.tsx", [])]

theorem searched_nested : Searched nestedScope "pages/OnePage.tsx" nestedText.toList [nestedCall]
    nestedText.toList nestedCode where
  found := by cbv
  read := by cbv
  shown := by cbv

theorem edgesOf_nested : edgesOf nestedScope nestedLayout nestedStaged = ⟨nestedEdges, []⟩ := by
  obtain ⟨one, parsed, none⟩ : ∃ found,
      Code.Module.ofText nestedText.toList "pages/OnePage.tsx" = .ok found ∧ found.imports = [] :=
    Code.Module.exists_ofText_iff.mpr ⟨nestedText.toList, by cbv, by cbv⟩
  have order : sortedBy Prod.fst nestedStaged.entries = [("pages/OnePage.tsx", nestedText)] :=
    List.mergeSort_of_pairwise (by decide)
  have nothing : targetsOf nestedScope.targetAlias.content nestedLayout.byModulePath one = [] := by
    rw [targetsOf, none]
    rfl
  rw [edgesOf, order, List.foldl_cons, List.foldl_nil]
  simp only [addText, parsed, nothing]
  rfl

theorem isWhole_nested : ∀ name ∈ nestedScope.storage.identifiers, IsWhole name.toList := by
  have names : nestedScope.storage.identifiers = ["localStorage"] := by cbv
  intro name listed
  rw [names, List.mem_singleton] at listed
  subst listed
  exact ⟨List.all_eq_true.mp (by decide), 'e', by decide, by decide⟩

theorem residues_nested : residues nestedScope nestedLayout nestedStaged = .ok [] := by
  have names : sorted nestedScope.storage.identifiers = ["localStorage"] := by cbv
  have known := storagePattern?_eq isWhole_nested
  rw [names, if_neg (by decide)] at known
  have checked : checkedText nestedScope "pages/OnePage.tsx" nestedText.toList =
      .ok (List.replicate 48 ' ') := by
    cbv
  have none : (Pattern.oneOf ["localStorage"]).search (List.replicate 48 ' ') = [] := by
    decide
  rw [residues, known]
  exact map_eq_ok.mpr
    ⟨[[]], mapM_eq_ok.mpr (.cons (residuesOf_eq_nil checked none) .nil), rfl⟩

theorem ofStaged_nested : ofStaged nestedScope nestedClassification nestedLayout nestedStaged =
    .ok ⟨nestedEdges, []⟩ := by
  have isText : aliasProblem? nestedScope nestedStaged = none := rfl
  have crossing : crossings nestedClassification nestedEdges = [] := by cbv
  have missing : missingPages nestedScope nestedLayout nestedEdges = [] := by cbv
  have shared : unreferenced nestedLayout nestedEdges = [] := rfl
  rw [ofStaged, isText, edgesOf_nested, residues_nested]
  simp only [bind, Except.bind, pure, Except.pure, crossing, missing, shared, List.append_nil]

theorem stored_nested : Stored nestedScope nestedCode 28 := by
  have front : nestedCode = "localStorage.setItem('   ', ".toList ++ "localStorage.length)".toList :=
    rfl
  refine ⟨"localStorage", by decide, ?_⟩
  rw [front]
  exact standsAt_append_iff.mpr ⟨by decide, ".length)".toList, rfl, by decide⟩

theorem residues_exact_nested :
    ofStaged nestedScope nestedClassification nestedLayout nestedStaged = .ok ⟨nestedEdges, []⟩ ∧
      Excused nestedScope [nestedCall] 28 := by
  refine ⟨ofStaged_nested, ?_⟩
  by_contra outside
  have exact := residues_exact ofStaged_nested (List.mem_singleton_self nestedMove) rfl rfl
    isWhole_nested
  obtain ⟨name, reported⟩ := ((exact.2 _ _ _ searched_nested).1 (lineAt nestedText.toList 28)).mpr
    ⟨28, stored_nested, outside, rfl⟩
  exact absurd reported List.not_mem_nil

/-- A storage object in the arguments of a call that is out of scope is not reported, although no
call that is out of scope starts there. -/
theorem residues_missed :
    ofStaged nestedScope nestedClassification nestedLayout nestedStaged = .ok ⟨nestedEdges, []⟩ ∧
      nestedMove ∈ nestedLayout.moves.values ∧ nestedMove.owner = .feature "one" ∧
      nestedStaged.find? nestedMove.source = some nestedText ∧
      Searched nestedScope nestedMove.source nestedText.toList [nestedCall] nestedText.toList
        nestedCode ∧
      Stored nestedScope nestedCode 28 ∧ (∀ call ∈ [nestedCall], call.span.start ≠ 28) ∧
      ∀ line, ¬ Reported ⟨nestedEdges, []⟩ nestedMove line := by
  refine ⟨ofStaged_nested, List.mem_singleton_self _, rfl, rfl, searched_nested, stored_nested,
    by decide, ?_⟩
  rintro line ⟨name, reported⟩
  exact absurd reported List.not_mem_nil

end Nested

end Validation

end FeatureLayout
