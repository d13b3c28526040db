import FeatureLayout.Proofs.Code.Inserted
import FeatureLayout.Proofs.Persistence.Closed
import FeatureLayout.Proofs.Persistence.Processed

/-!
# The import that replaced calls need

A text with replaced calls gets the import line of the interface unless the line occurs in it
anywhere, be it in a comment. Otherwise the line is inserted where a line starts: at the start of
the text, behind the line on which its last static import or its directives end, or at its end.
Nothing else of the text is changed there, since a replaced call ends with a bracket and not with a
line break. So the import is code exactly when the text in front of it ends in code, and this is not
asked for: behind the line on which an import ends, a comment or a template may be open.

A line that occurs is left alone. Where no call is replaced in front of it and nothing follows on its
line, it is code exactly when it was before, so one in a comment does not become an import.
-/

namespace FeatureLayout

open Text Code

namespace Substitution

section Place

variable {text : List Char} {imports : List ImportRef} {line newline : String}

/-- Where the static imports of a text end, or, without any, the directives at its start. -/
inductive Anchor (text : List Char) (imports : List ImportRef) : Nat → Prop where
  | imports {last : Nat}
      (latest : ((imports.filter (!·.dynamic)).map (·.span.stop)).max? = some last) :
      Anchor text imports last
  | directives {masked : List Char}
      (none : ((imports.filter (!·.dynamic)).map (·.span.stop)).max? = none)
      (read : maskComments text = .ok masked) :
      Anchor text imports (directivesLength masked.length masked)

/-- The line break that an added line gets: the two characters if the text has them anywhere. -/
inductive Breaks (text : List Char) : String → Prop where
  | feed (plain : ¬ "\r\n".toList <:+: text) : Breaks text "\n"
  | carriage (paired : "\r\n".toList <:+: text) : Breaks text "\r\n"

/-- The edits that add a line to a text: at its start when it begins with no import or directive,
else behind the line on which these end, and at the end of the text when it ends with that line. -/
inductive Adds (line newline : String) (text : List Char) (imports : List ImportRef) :
    Edit → Prop where
  | first (anchor : Anchor text imports 0) :
      Adds line newline text imports ⟨⟨0, 0⟩, line ++ newline⟩
  | behind (offset : Nat) (front back : List Char) (anchor : Anchor text imports offset)
      (whole : text = front ++ '\n' :: back) (reaches : offset ≤ front.length)
      (same : '\n' ∉ front.drop offset) :
      Adds line newline text imports ⟨⟨front.length + 1, front.length + 1⟩, line ++ newline⟩
  | last (offset : Nat) (anchor : Anchor text imports offset) (same : '\n' ∉ text.drop offset) :
      Adds line newline text imports ⟨⟨text.length, text.length⟩, newline ++ line⟩

theorem adds_insertAfter {offset : Nat} (anchor : Anchor text imports offset) :
    Adds line newline text imports (insertAfter text offset line newline) := by
  rcases Text.afterLine_cases (text.drop offset) with
    ⟨none, apart⟩ | ⟨front, back, some, whole, apart⟩
  · rw [insertAfter, nextLine?, none]
    exact .last offset anchor apart
  · have split : text = (text.take offset ++ front) ++ '\n' :: back := by
      rw [List.append_assoc, ← whole, List.take_append_drop]
    have inside : offset < text.length := by
      refine Nat.lt_of_not_le fun beyond => ?_
      rw [List.drop_eq_nil_of_le beyond] at whole
      exact absurd whole.symm (by simp)
    have start : (text.take offset).length = offset := by
      rw [List.length_take, Nat.min_eq_left (Nat.le_of_lt inside)]
    have place : text.length - back.length = (text.take offset ++ front).length + 1 := by
      have total := congrArg List.length split
      rw [List.length_append, List.length_cons] at total
      omega
    rw [insertAfter, nextLine?, some, Option.map_some, place]
    refine .behind offset _ back anchor split ?_ ?_
    · rw [List.length_append, start]
      exact Nat.le_add_right _ _
    · rw [List.drop_append_of_le_length (Nat.le_of_eq start.symm),
        List.drop_eq_nil_of_le (Nat.le_of_eq start), List.nil_append]
      exact apart

/-- The line of an interface is added unless it occurs in the text. -/
theorem cases_of_interfaceImport {storage : StorageInterface} {added : Option Edit}
    (given : storage.importLine = .text line) (filled : line ≠ "")
    (imported : interfaceImport storage text imports = .ok added) :
    (added = none ∧ line.toList <:+: text) ∨
      ∃ edit newline, added = some edit ∧ ¬ line.toList <:+: text ∧
        Breaks text newline ∧ Adds line newline text imports edit := by
  have content : storage.importLine.content = line := by
    rw [given]
    rfl
  have plain : storage.importLine.isMisfit = false := by
    simp [given, Value.isMisfit, Value.isText, Value.text?]
  unfold interfaceImport at imported
  rw [plain, content] at imported
  have found := eq_ok_of_mapError imported
  unfold importEdit at found
  split at found
  · next there =>
    obtain rfl := Except.ok.inj found
    rw [beq_eq_false_iff_ne.mpr filled, Bool.false_or] at there
    exact Or.inl ⟨rfl, Text.occursIn_iff.mp there⟩
  · next absent =>
    rw [beq_eq_false_iff_ne.mpr filled, Bool.false_or, Text.occursIn_iff] at absent
    have breaks : Breaks text (if occursIn "\r\n".toList text then "\r\n" else "\n") := by
      split
      · next paired => exact .carriage (Text.occursIn_iff.mp paired)
      · next plain => exact .feed (mt Text.occursIn_iff.mpr plain)
    refine Or.inr ?_
    dsimp only at found
    split at found
    · next last latest =>
      obtain rfl := Except.ok.inj found
      exact ⟨_, _, rfl, absent, breaks, adds_insertAfter (.imports latest)⟩
    · next none =>
      obtain ⟨masked, read, found⟩ := map_eq_ok.mp found
      have anchor : Anchor text imports (directivesLength masked.length masked) :=
        .directives none read
      split at found
      · next start =>
        rw [start] at anchor
        exact ⟨_, _, found.symm, absent, breaks, .first anchor⟩
      · exact ⟨_, _, found.symm, absent, breaks, adds_insertAfter anchor⟩

end Place

section Composed

variable {text result : List Char} {imports : List ImportRef} {line newline : String}
  {calls : List Edit} {edit : Edit}

/-- An edit replaces a call: a stretch that ends with a bracket. -/
structure Replaces (text : List Char) (edit : Edit) : Prop where
  forward : edit.span.start < edit.span.stop
  closing : ∃ c, text[edit.span.stop - 1]? = some c ∧ isClosing c = true

theorem Replaces.within (replaces : Replaces text edit) : edit.Within text := by
  obtain ⟨c, there, -⟩ := replaces.closing
  have inside := (List.getElem?_eq_some_iff.mp there).1
  have forward := replaces.forward
  exact ⟨Nat.le_of_lt forward, by omega⟩

/-- A call that ends in the front of a text is replaced there. -/
theorem Replaces.of_append {front back : List Char} (replaces : Replaces (front ++ back) edit)
    (stops : edit.span.stop ≤ front.length) : Replaces front edit := by
  obtain ⟨forward, c, there, closing⟩ := replaces
  rw [List.getElem?_append_left (by omega)] at there
  exact ⟨forward, c, there, closing⟩

/-- When all calls start behind a place, none of them ends in front of it. -/
theorem eq_nil_of_behind {before : List Edit} {place : Nat}
    (replace : ∀ call ∈ calls, Replaces text call)
    (early : ∀ call ∈ before, call ∈ calls ∧ call.span.stop ≤ place)
    (behind : ∀ call ∈ calls, place ≤ call.span.start) : before = [] := by
  refine List.eq_nil_iff_forall_not_mem.mpr fun call listed => ?_
  obtain ⟨among, stops⟩ := early call listed
  have forward := (replace call among).forward
  have starts := behind call among
  omega

theorem Adds.empty (adds : Adds line newline text imports edit) :
    edit.span.start = edit.span.stop ∧ edit.span.stop ≤ text.length := by
  cases adds with
  | first anchor => exact ⟨rfl, Nat.zero_le _⟩
  | behind offset front back anchor whole reaches same =>
    refine ⟨rfl, ?_⟩
    rw [whole, List.length_append, List.length_cons]
    dsimp only
    omega
  | last offset anchor same => exact ⟨rfl, Nat.le_refl _⟩

/-- When the edits of calls and of a line are applied, some calls are replaced in front of the line
and the others behind it. -/
theorem exists_splices (adds : Adds line newline text imports edit)
    (replace : ∀ call ∈ calls, Replaces text call)
    (applied : Edit.applyAll (calls ++ [edit]) text = .ok result) :
    ∃ before after, (∀ call ∈ before, call ∈ calls ∧ call.span.stop ≤ edit.span.start) ∧
      (∀ call ∈ after, call ∈ calls ∧ edit.span.start ≤ call.span.start) ∧
      result = Edit.spliced (text.take edit.span.start) 0 before ++
        (edit.replacement.toList ++ Edit.spliced text edit.span.start after) := by
  obtain ⟨empty, ends⟩ := adds.empty
  have within : ∀ other ∈ calls ++ [edit], other.Within text := by
    intro other listed
    rcases List.mem_append.mp listed with call | line
    · exact (replace other call).within
    · obtain rfl := List.mem_singleton.mp line
      exact ⟨Nat.le_of_eq empty, ends⟩
  obtain ⟨row, rfl⟩ := Edit.spliced_of_applyAll within applied
  have kept := Edit.ordered_perm (calls ++ [edit])
  obtain ⟨before, after, order⟩ :=
    List.append_of_mem (kept.mem_iff.mpr (List.mem_append_right calls List.mem_cons_self))
  rw [order] at kept row ⊢
  have others : (before ++ after).Perm calls :=
    (List.perm_middle.symm.trans (kept.trans (List.perm_append_singleton edit calls))).cons_inv
  obtain ⟨-, behind, ahead⟩ := List.pairwise_append.mp row
  have early : ∀ call ∈ before, call ∈ calls ∧ call.span.stop ≤ edit.span.start := fun call listed =>
    ⟨others.mem_iff.mp (List.mem_append_left _ listed), ahead call listed edit List.mem_cons_self⟩
  refine ⟨before, after, early, fun call listed =>
    ⟨others.mem_iff.mp (List.mem_append_right _ listed), ?_⟩, ?_⟩
  · rw [empty]
    exact (List.pairwise_cons.mp behind).1 call listed
  · rw [Edit.spliced_append text 0 (fun call listed => ?_) after, ← empty]
    exact (Nat.le_of_lt (replace call (early call listed).1).forward).trans (early call listed).2

theorem Breaks.startsLine (breaks : Breaks text newline) (front : List Char) :
    StartsLine (front ++ newline.toList) := by
  refine Or.inr ?_
  rw [List.getLast?_append]
  cases breaks <;> rfl

theorem Breaks.endsLine (breaks : Breaks text newline) (back : List Char) :
    EndsLine (newline.toList ++ back) := by
  intro c first
  cases breaks with
  | feed plain => exact Or.inl (Option.some.inj first).symm
  | carriage paired => exact Or.inr (Option.some.inj first).symm

/-- Behind the replaced calls of a text that ends a line, a line starts. -/
theorem startsLine_spliced {front : List Char} {before : List Edit}
    (replaced : ∀ call ∈ before, Replaces (front ++ ['\n']) call) :
    StartsLine (Edit.spliced (front ++ ['\n']) 0 before) := by
  refine Or.inr ?_
  rw [Edit.getLast?_spliced (by simp) fun call listed => ?_, List.getLast?_concat]
  obtain ⟨c, there, closing⟩ := (replaced call listed).closing
  have ends := (replaced call listed).within.ends
  -- The last character is a line break and closes nothing.
  refine Nat.lt_of_le_of_ne ends fun last => ?_
  rw [last, List.length_append, List.length_singleton, Nat.add_sub_cancel, List.getElem?_append_right
    (Nat.le_refl _), Nat.sub_self] at there
  obtain rfl := Option.some.inj there
  cases closing

/-- In front of replaced calls that start behind the end of a line, the line ends. -/
theorem endsLine_spliced {front back : List Char} {after : List Edit}
    (replaced : ∀ call ∈ after, Replaces (front ++ back) call)
    (starts : ∀ call ∈ after, front.length < call.span.start) (ends : EndsLine back) :
    EndsLine (Edit.spliced (front ++ back) front.length after) := by
  intro c first
  cases back with
  | nil =>
    -- No call starts behind the end of the text.
    have none : after = [] := by
      refine List.eq_nil_iff_forall_not_mem.mpr fun call listed => ?_
      have forward := (replaced call listed).forward
      have stops := (replaced call listed).within.ends
      have behind := starts call listed
      rw [List.append_nil] at stops
      omega
    rw [none, Edit.spliced, List.append_nil, List.drop_length] at first
    cases first
  | cons d rest =>
    have inside : front.length < (front ++ d :: rest).length := by simp
    rw [Edit.head?_spliced inside starts, List.getElem?_append_right (Nat.le_refl _),
      Nat.sub_self] at first
    exact ends c first

/-- When calls are replaced and a line is added, it stands on a line of its own, and what is in
front of it comes from what is in front of its place. -/
theorem exists_composed (adds : Adds line newline text imports edit)
    (breaks : Breaks text newline) (replace : ∀ call ∈ calls, Replaces text call)
    (applied : Edit.applyAll (calls ++ [edit]) text = .ok result) :
    ∃ front back, result = front ++ (line.toList ++ back) ∧ StartsLine front ∧ EndsLine back ∧
      ((∀ call ∈ calls, edit.span.start ≤ call.span.start) →
        front = text.take edit.span.start ∨ front = text.take edit.span.start ++ newline.toList) := by
  obtain ⟨before, after, early, late, rfl⟩ := exists_splices adds replace applied
  have untouched (behind : ∀ call ∈ calls, edit.span.start ≤ call.span.start) :
      Edit.spliced (text.take edit.span.start) 0 before = text.take edit.span.start := by
    rw [eq_nil_of_behind replace early behind]
    rfl
  cases adds with
  | first anchor =>
    refine ⟨_, newline.toList ++ Edit.spliced text 0 after, ?_, Or.inl ?_,
      breaks.endsLine _, fun behind => Or.inl (untouched behind)⟩
    · rw [String.toList_append, List.append_assoc]
    · exact untouched fun call _ => Nat.zero_le _
  | behind offset front back anchor whole reaches same =>
    refine ⟨_, newline.toList ++ Edit.spliced text (front.length + 1) after, ?_, ?_,
      breaks.endsLine _, fun behind => Or.inl (untouched behind)⟩
    · rw [String.toList_append, List.append_assoc]
    · have split : text = (front ++ ['\n']) ++ back := by simp [whole]
      have length : front.length + 1 = (front ++ ['\n']).length := by simp
      have start : text.take (front.length + 1) = front ++ ['\n'] := by
        rw [split, length, List.take_left]
      rw [start]
      refine startsLine_spliced fun call listed => ?_
      obtain ⟨among, stops⟩ := early call listed
      exact (split ▸ replace call among).of_append (length ▸ stops)
  | last offset anchor same =>
    have none : after = [] := by
      refine List.eq_nil_iff_forall_not_mem.mpr fun call listed => ?_
      obtain ⟨among, starts⟩ := late call listed
      have forward := (replace call among).forward
      have ends := (replace call among).within.ends
      dsimp only at starts
      omega
    refine ⟨Edit.spliced (text.take text.length) 0 before ++ newline.toList, [], ?_,
      breaks.startsLine _, endsLine_nil, fun behind => Or.inr ?_⟩
    · rw [none, Edit.spliced, List.drop_length, String.toList_append]
      simp only [List.append_assoc, List.append_nil]
    · rw [untouched behind]

/-- When calls are replaced that reach neither into a line nor into its break, the line is kept, and
what is in front of it comes from what was in front. -/
theorem exists_kept {front line back : List Char} (whole : text = front ++ (line ++ back))
    (replace : ∀ call ∈ calls, Replaces text call)
    (apart : ∀ call ∈ calls, call.span.stop ≤ front.length ∨
      front.length + line.length < call.span.start)
    (applied : Edit.applyAll calls text = .ok result) :
    ∃ before behind, result = before ++ (line ++ behind) ∧
      (StartsLine front → StartsLine before) ∧ (EndsLine back → EndsLine behind) ∧
      ((∀ call ∈ calls, front.length ≤ call.span.start) → before = front) := by
  obtain ⟨row, rfl⟩ :=
    Edit.spliced_of_applyAll (fun call listed => (replace call listed).within) applied
  have kept := Edit.ordered_perm calls
  have replaces : ∀ call ∈ Edit.ordered calls, Replaces text call := fun call listed =>
    replace call (kept.mem_iff.mp listed)
  obtain ⟨before, after, order, stops, starts⟩ := row.exists_append
    (fun call listed => (replaces call listed).within.forward)
    fun call listed => apart call (kept.mem_iff.mp listed)
  have early : ∀ call ∈ before, call ∈ calls ∧ call.span.stop ≤ front.length := fun call listed =>
    ⟨kept.mem_iff.mp (order ▸ List.mem_append_left after listed), stops call listed⟩
  have split : text = (front ++ line) ++ back := by rw [whole, List.append_assoc]
  have length : front.length + line.length = (front ++ line).length := List.length_append.symm
  have upTo : text.take front.length = front := by rw [whole, List.take_left]
  have stretch : slice text front.length (front.length + line.length) = line := by
    rw [slice, split, length, List.take_left, List.drop_left]
  refine ⟨Edit.spliced front 0 before, Edit.spliced text (front.length + line.length) after,
    ?_, ?_, ?_, ?_⟩
  · rw [order, Edit.spliced_append_of_le (Nat.zero_le front.length), upTo,
      Edit.spliced_eq_slice_append (Nat.le_add_right front.length line.length), stretch]
    · exact fun call listed => Nat.le_of_lt (starts call listed)
    · exact fun call listed =>
        ⟨(replaces call (order ▸ List.mem_append_left after listed)).within.forward,
          stops call listed⟩
    · exact fun call listed => (Nat.le_add_right _ _).trans (Nat.le_of_lt (starts call listed))
  · rintro (rfl | last)
    · have none : before = [] :=
        eq_nil_of_behind replace early fun _ _ => Nat.zero_le _
      exact Or.inl (by rw [none]; rfl)
    · obtain ⟨start, rfl⟩ := List.getLast?_eq_some_iff.mp last
      exact startsLine_spliced fun call listed =>
        (whole ▸ replace call (early call listed).1).of_append (early call listed).2
  · rw [length] at starts ⊢
    rw [split]
    exact endsLine_spliced (fun call listed =>
      split ▸ replaces call (order ▸ List.mem_append_right before listed)) starts
  · intro behind
    rw [eq_nil_of_behind replace early behind]
    rfl

end Composed

section Imports

/-- How the import line of an interface comes into a text whose calls are replaced: an edit adds it
unless it occurs there. Around the added line stands what the calls are replaced to, and the line is
code exactly when the text in front of it ends in code. A line that occurs is kept where no call
reaches into it or its end. When a line end follows, it is code exactly when it was, as long as no
call is replaced in front of it, and where it starts a line, exactly when the text in front of it ends
in code. -/
structure Imports (line : String) (file : SourceFile) (content : String) (edits calls : List Edit)
    (added : Option Edit) : Prop where
  replaced : ∀ call ∈ calls, Replaces content.toList call
  composed : edits.Perm (calls ++ added.toList)
  spared : added = none ↔ line.toList <:+: content.toList
  adds : ∀ edit, added = some edit → ∃ newline, Breaks content.toList newline ∧
    Adds line newline content.toList file.imports edit ∧
    ∀ text, Edit.applyAll edits content.toList = .ok text → ∃ front back,
      text = front ++ (line.toList ++ back) ∧
      ((∀ call ∈ calls, edit.span.start ≤ call.span.start) →
        front = content.toList.take edit.span.start ∨
          front = content.toList.take edit.span.start ++ newline.toList) ∧
      (StandsInCode line.toList text front.length ↔
        StandsInCode [] front front.length ∧ ∃ masked, maskComments text = .ok masked)
  kept : added = none → ∀ front back, content.toList = front ++ (line.toList ++ back) →
    (∀ call ∈ calls, call.span.stop ≤ front.length ∨
      front.length + line.toList.length < call.span.start) →
    ∀ text, Edit.applyAll edits content.toList = .ok text → ∃ before behind,
      text = before ++ (line.toList ++ behind) ∧
      ((∀ call ∈ calls, front.length ≤ call.span.start) → before = front ∧ (EndsLine back →
        (StandsInCode line.toList text front.length ↔
          StandsInCode line.toList content.toList front.length ∧
            ∃ masked, maskComments text = .ok masked))) ∧
      (StartsLine front → EndsLine back →
        (StandsInCode line.toList text before.length ↔
          StandsInCode [] before before.length ∧ ∃ masked, maskComments text = .ok masked))

variable {scope : Scope} {index : SourceIndex} {layout : Layout} {binding : Binding}
  {substitution : Substitution} {source content : String} {file : SourceFile}
  {outcomes : List (StorageCall × Outcome)} {added : Option Edit}
  {pair : StorageCall × ContractEntry}

/-- The replacements of a text replace calls. -/
theorem Processed.replaces
    (processed : Processed scope index binding substitution source file content outcomes added)
    {edit : Edit} (listed : edit ∈ replacements outcomes) : Replaces content.toList edit := by
  obtain ⟨call, entry, among, span, -, -⟩ := processed.exists_of_mem_replacements listed
  have forward := (StorageCall.standsIn_of_mem processed.calls among).forward
  obtain ⟨masked, matched, arguments, read, -, -⟩ :=
    StorageCall.exists_matched_of_mem processed.calls among
  obtain ⟨start, -, closes⟩ := StorageCall.exists_closesAt_of_mem read processed.calls among
  obtain ⟨c, there, closing⟩ := closes.closing
  have plain : c ≠ ' ' := by
    rintro rfl
    cases closing
  rw [← span] at forward there
  exact ⟨forward, c, (CommentLayer.blanked_of_mask read).getElem?_eq there plain, closing⟩

/-- The edits of a text with a replaced call are those of its calls and, unless the import line of
the interface occurs in the text, wherever this is, one that adds it on a line of its own. When the
edits are applied, the added line is code exactly when the text in front of it ends in code and the
whole can be scanned. Where no call is replaced in front of it, that is the text that was there. A
line that occurs is kept where no call reaches into it, and with no call replaced in front of it and
a line end behind, it is code exactly when it was. -/
theorem imported_exact (made : ofLayout scope index layout = .ok substitution)
    (listed : pair ∈ substitution.substituted) {line : String}
    (given : scope.storage.importLine = .text line) (filled : line ≠ "")
    (plain : Unmarked line.toList) :
    ∃ file content calls added, index.file? pair.1.file = some file ∧ file.content = some content ∧
      Imports line file content (substitution.editsFor pair.1.file) calls added := by
  obtain ⟨binding, covered⟩ := exists_covered made
  obtain ⟨file, content, outcomes, added, processed, -⟩ := covered pair listed
  have replaced : ∀ call ∈ replacements outcomes, Replaces content.toList call :=
    fun call among => processed.replaces among
  have composed : (substitution.editsFor pair.1.file).Perm
      (replacements outcomes ++ added.toList) := by
    rw [processed.edits]
    exact Edit.ordered_perm _
  refine ⟨file, content, replacements outcomes, added, processed.indexed, processed.read, replaced,
    composed, ?_, ?_, ?_⟩
  · rcases cases_of_interfaceImport given filled processed.imported with
      ⟨none, occurs⟩ | ⟨edit, newline, some, absent, -, -⟩
    · exact iff_of_true none occurs
    · rw [some]
      exact iff_of_false (Option.some_ne_none edit) absent
  · rintro edit rfl
    rcases cases_of_interfaceImport given filled processed.imported with
      ⟨none, -⟩ | ⟨other, newline, same, absent, breaks, adds⟩
    · cases none
    · obtain rfl := Option.some.inj same
      refine ⟨newline, breaks, adds, fun text applied => ?_⟩
      rw [Edit.applyAll_congr composed] at applied
      obtain ⟨front, back, rfl, starts, ends, untouched⟩ :=
        exists_composed adds breaks replaced applied
      exact ⟨front, back, rfl, untouched, standsInCode_iff starts plain ends⟩
  · rintro rfl front back whole apart text applied
    rw [Edit.applyAll_congr composed, Option.toList_none, List.append_nil] at applied
    obtain ⟨before, behind, rfl, starts, ends, untouched⟩ :=
      exists_kept whole replaced apart applied
    obtain ⟨masked, -, read, -⟩ := StorageCall.exists_stands_of_allIn processed.calls
    have some : line.toList ≠ [] := by simpa using filled
    refine ⟨before, behind, rfl, fun none => ?_, fun first last =>
      standsInCode_iff (starts first) plain (ends last)⟩
    obtain rfl := untouched none
    refine ⟨rfl, fun last => ⟨fun code => ?_, fun ⟨code, scanned⟩ => ?_⟩⟩
    · obtain ⟨shown, scanned, -⟩ := id code
      rw [whole] at read ⊢
      exact ⟨code.of_scanned some plain last ⟨_, read⟩, shown, scanned⟩
    · rw [whole] at code
      exact code.of_scanned some plain (ends last) scanned

section Commented

theorem unmarked_usualImport : Unmarked StorageInterface.usualImport.toList := by
  constructor
  · rw [← Text.occursIn_iff]
    decide +kernel
  · rw [← Text.occursIn_iff]
    decide +kernel

/-- The text with the import added and the first call replaced. -/
def clientText : String :=
  "import './b';\nimport \x7b api \x7d from '@/api/client';\napi.loadUser();\n" ++
    "localStorage.getItem('theme');\n"

/-- A file of the feature with some text and some imports. -/
def clientFile (text : String) (imports : List ImportRef) : SourceFile :=
  ⟨"a.ts", .util, [], imports, some text⟩

/-- The index of the file. -/
def clientIndex (text : String) (imports : List ImportRef) : SourceIndex :=
  ⟨Ledger.ofList [("a.ts", clientFile text imports)], [], []⟩

/-- The file belongs to the feature. -/
def clientLayout (text : String) (imports : List ImportRef) : Layout :=
  .ofOwners storingScope (clientIndex text imports) (Ledger.ofList [("a.ts", .feature "one")])

/-- In a file in which the import line occurs, the only call is replaced and nothing is added. -/
theorem ofLayout_client {text : String} {imports : List ImportRef} {call : StorageCall}
    {edit : Edit}
    (calls : StorageCall.allIn storingScope.storage text.toList "a.ts" = .ok [call])
    (came : outcomeOf storingScope (.grouped storingScope.contract) call =
      .ok ⟨some edit, some loadUser, false, none⟩)
    (imported : interfaceImport storingScope.storage text.toList imports = .ok none) :
    ofLayout storingScope (clientIndex text imports) (clientLayout text imports) =
      .ok ⟨Ledger.ofList [("a.ts", [edit])], [(call, loadUser)], [], []⟩ := by
  let outcomes : List (StorageCall × Outcome) :=
    [(call, ⟨some edit, some loadUser, false, none⟩)]
  have moves : (clientLayout text imports).moves.values =
      [⟨"a.ts", "features/one/utils/a.ts", "features/one/utils/a", .feature "one", .util⟩] := by
    cbv
  have results : ∀ outcome ∈ outcomes,
      outcomeOf storingScope (.grouped storingScope.contract) outcome.1 = .ok outcome.2 :=
    List.forall_mem_singleton.mpr came
  have order : Edit.ordered (replacements outcomes ++ []) = [edit] := List.mergeSort_singleton _
  have processed : addFile storingScope (.grouped storingScope.contract) ⟨.empty, [], [], []⟩
      (clientFile text imports) "a.ts" text =
        .ok ⟨Ledger.ofList [("a.ts", [edit])], [(call, loadUser)], [], []⟩ := by
    rw [addFile_eq_ok calls results (List.cons_ne_nil _ _) imported, Option.toList_none, order]
    rfl
  rw [ofLayout_eq, moves]
  exact bind_eq_ok.mpr ⟨_, rfl, bind_eq_ok.mpr ⟨_, processed, rfl⟩⟩

/-- A text that imports the client. -/
def importingText : String :=
  "import \x7b api \x7d from '@/api/client';\nlocalStorage.getItem('user');\n"

/-- The import of the client. -/
def importingRefs : List ImportRef := [⟨"a.ts", "api", "@/api/client", 1, ⟨21, 33⟩, none, false⟩]

/-- The call in the text. -/
def importingCall : StorageCall :=
  ⟨.read, .text "user", "a.ts", 2, ⟨36, 64⟩, [], "localStorage.getItem"⟩

/-- The text with the call replaced. -/
def importedText : String :=
  "import \x7b api \x7d from '@/api/client';\napi.loadUser();\n"

/-- What becomes of the call. -/
def importingSubstitution : Substitution :=
  ⟨Ledger.ofList [("a.ts", [⟨⟨36, 64⟩, "api.loadUser()"⟩])], [(importingCall, loadUser)], [], []⟩

theorem ofLayout_importing :
    ofLayout storingScope (clientIndex importingText importingRefs)
      (clientLayout importingText importingRefs) = .ok importingSubstitution :=
  ofLayout_client (by cbv) (by cbv) rfl

/-- A line that is added is code of the text, and so is one that was there. -/
theorem imported_exact_storing :
    StorageInterface.usualImport ≠ "" ∧ Unmarked StorageInterface.usualImport.toList ∧
      storingScope.storage.importLine = .text StorageInterface.usualImport ∧
      (ofLayout storingScope storingIndex storingLayout = .ok storingSubstitution ∧
        (userCall, loadUser) ∈ storingSubstitution.substituted ∧
        Edit.applyAll (storingSubstitution.editsFor userCall.file) storingText.toList =
          .ok clientText.toList ∧
        StandsInCode StorageInterface.usualImport.toList clientText.toList 14) ∧
      (ofLayout storingScope (clientIndex importingText importingRefs)
          (clientLayout importingText importingRefs) = .ok importingSubstitution ∧
        (importingCall, loadUser) ∈ importingSubstitution.substituted ∧
        Edit.applyAll (importingSubstitution.editsFor importingCall.file) importingText.toList =
          .ok importedText.toList ∧
        StandsInCode StorageInterface.usualImport.toList importedText.toList 0) := by
  have filled : StorageInterface.usualImport ≠ "" := by decide
  refine ⟨filled, unmarked_usualImport, rfl, ?added, ?kept⟩
  case added =>
    have listed : (userCall, loadUser) ∈ storingSubstitution.substituted :=
      List.mem_singleton.mpr rfl
    have applied : Edit.applyAll (storingSubstitution.editsFor userCall.file) storingText.toList =
        .ok clientText.toList := by cbv
    obtain ⟨file, content, calls, added, indexed, read, imports⟩ :=
      imported_exact ofLayout_storing listed rfl filled unmarked_usualImport
    obtain rfl : storingFile = file := Option.some.inj indexed
    obtain rfl : storingText = content := Option.some.inj read
    have absent : ¬ StorageInterface.usualImport.toList <:+: storingText.toList := by
      rw [← Text.occursIn_iff]
      decide +kernel
    obtain ⟨edit, given⟩ := Option.ne_none_iff_exists'.mp (mt imports.spared.mp absent)
    obtain ⟨newline, breaks, -, placed⟩ := imports.adds edit given
    obtain ⟨front, back, whole, untouched, code⟩ := placed _ applied
    -- All edits start at the same place, which is that of the line.
    have starts : ∀ other ∈ storingSubstitution.editsFor userCall.file, other.span.start = 14 := by
      decide
    have place : edit.span.start = 14 :=
      starts edit (imports.composed.mem_iff.mpr (by simp [given]))
    have behind : ∀ call ∈ calls, edit.span.start ≤ call.span.start := fun call among =>
      Nat.le_of_eq (place.trans (starts call (imports.composed.mem_iff.mpr
        (List.mem_append_left _ among))).symm)
    have same : front = "import './b';\n".toList := by
      rcases untouched behind with alone | broken
      · rw [alone, place]
        decide
      · -- No line break stands at the place.
        have there : clientText.toList[14]? =
            ((storingText.toList.take 14 ++ newline.toList) ++
              (StorageInterface.usualImport.toList ++ back))[14]? := by
          rw [whole, broken, place]
        cases breaks <;>
          exact absurd (there.trans (List.getElem?_append_left (by decide))) (by decide)
    subst same
    have inside : StandsInCode [] "import './b';\n".toList 14 :=
      ⟨"import './b';\n".toList, by cbv, List.nil_prefix, by cbv, by cbv⟩
    exact ⟨ofLayout_storing, listed, applied, code.mpr ⟨inside, clientText.toList, by cbv⟩⟩
  case kept =>
    have listed : (importingCall, loadUser) ∈ importingSubstitution.substituted :=
      List.mem_singleton.mpr rfl
    have applied : Edit.applyAll (importingSubstitution.editsFor importingCall.file)
        importingText.toList = .ok importedText.toList := by cbv
    obtain ⟨file, content, calls, added, indexed, read, imports⟩ :=
      imported_exact ofLayout_importing listed rfl filled unmarked_usualImport
    obtain rfl : clientFile importingText importingRefs = file := Option.some.inj indexed
    obtain rfl : importingText = content := Option.some.inj read
    have occurs : StorageInterface.usualImport.toList <:+: importingText.toList := by
      rw [← Text.occursIn_iff]
      decide +kernel
    have none := imports.spared.mpr occurs
    have starts : ∀ edit ∈ importingSubstitution.editsFor importingCall.file,
        36 ≤ edit.span.start := by
      decide
    obtain ⟨before, behind, -, untouched, code⟩ := imports.kept none []
      "\nlocalStorage.getItem('user');\n".toList (by decide)
      (fun call among => Or.inr
        (starts call (imports.composed.mem_iff.mpr (List.mem_append_left _ among)))) _ applied
    obtain ⟨rfl, -⟩ := untouched fun _ _ => Nat.zero_le _
    have inside : StandsInCode [] [] 0 := ⟨[], rfl, List.nil_prefix, rfl, rfl⟩
    exact ⟨ofLayout_importing, listed, applied,
      (code (Or.inl rfl) fun c first => Or.inl (Option.some.inj first).symm).mpr
        ⟨inside, importedText.toList, by cbv⟩⟩

/-- A text whose import of the client is a comment. -/
def commentedText : String :=
  "// import \x7b api \x7d from '@/api/client';\nlocalStorage.getItem('user');\n"

/-- The file with the text. -/
def commentedFile : SourceFile := ⟨"a.ts", .util, [], [], some commentedText⟩

/-- The index of the file. -/
def commentedIndex : SourceIndex := ⟨Ledger.ofList [("a.ts", commentedFile)], [], []⟩

/-- The file belongs to the feature. -/
def commentedLayout : Layout :=
  .ofOwners storingScope commentedIndex (Ledger.ofList [("a.ts", .feature "one")])

/-- The call in the text. -/
def commentedCall : StorageCall :=
  ⟨.read, .text "user", "a.ts", 2, ⟨39, 67⟩, [], "localStorage.getItem"⟩

/-- The only edit of the text. -/
def commentedEdit : Edit := ⟨⟨39, 67⟩, "api.loadUser()"⟩

/-- What becomes of the call. -/
def commentedSubstitution : Substitution :=
  ⟨Ledger.ofList [("a.ts", [commentedEdit])], [(commentedCall, loadUser)], [], []⟩

/-- The text with the call replaced. -/
def uncommentedText : String :=
  "// import \x7b api \x7d from '@/api/client';\napi.loadUser();\n"

theorem ofLayout_commented :
    ofLayout storingScope commentedIndex commentedLayout = .ok commentedSubstitution :=
  ofLayout_client (by cbv) (by cbv) rfl

/-- A line that occurs in a comment is not added, and then it is no code of the text. -/
theorem not_imported :
    ofLayout storingScope commentedIndex commentedLayout = .ok commentedSubstitution ∧
      (commentedCall, loadUser) ∈ commentedSubstitution.substituted ∧
      storingScope.storage.importLine = .text StorageInterface.usualImport ∧
      '\n' ∉ StorageInterface.usualImport.toList ∧ Unmarked StorageInterface.usualImport.toList ∧
      Edit.applyAll (commentedSubstitution.editsFor commentedCall.file) commentedText.toList =
        .ok uncommentedText.toList ∧
      ∃ masked, maskComments uncommentedText.toList = .ok masked ∧
        ¬ StorageInterface.usualImport.toList <:+: masked := by
  refine ⟨ofLayout_commented, List.mem_singleton.mpr rfl, rfl, by decide, unmarked_usualImport,
    by cbv,
    ("                                      \napi.loadUser();\n").toList, by cbv, ?_⟩
  rw [← Text.occursIn_iff]
  decide +kernel

end Commented

end Imports

end Substitution

end FeatureLayout
