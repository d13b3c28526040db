import FeatureLayout.Proofs.Code.Literal
import FeatureLayout.Proofs.Code.Nesting
import FeatureLayout.Proofs.Code.Separated

/-!
# Where a template ends

A template may hold expressions. The scan that blanks comments and the one that lists arguments look
no deeper than the text of a template, and stop behind the first backtick that no backslash escapes.
The one that blanks the contents of literals reads the expressions of a template as code, with the
literals in them. Whenever it finds an end the other two find one, never behind it, and all of them
agree exactly when every backtick in an expression of the template is escaped.

So a template in an expression, or a backtick in a quoted literal there, makes the scans take
different stretches for the same template. For a template in an expression, the scan of literals
itself stops where the other two would.
-/

namespace FeatureLayout.Code

open Text

/-- The offset behind the template whose backtick stands at an offset, when the expressions in it
are read as code; none when the text does not reach that far. -/
def templateEnd (text : List Char) (start : Nat) : Option (Except OpenTemplate Nat) :=
  match text.drop start with
  | [] => none
  | _ :: rest => some ((templateLength rest).map fun length => start + 1 + length)

/-- A backslash escapes the character at a place. -/
def IsEscaped (text : List Char) (place : Nat) : Prop := escapes (text.take place) = true

instance (text : List Char) (place : Nat) : Decidable (IsEscaped text place) :=
  inferInstanceAs (Decidable (escapes (text.take place) = true))

/-- The layer at a place of the template whose backtick stands at an offset. -/
def templateAt (text : List Char) (start place : Nat) : StringLayer :=
  layerAt StringLayer.next (.template false) (text.drop (start + 1)) (place - (start + 1))

/-- A place behind the backtick of a template stands in an expression of the template, in code or in
a literal. -/
def InExpression (text : List Char) (start place : Nat) : Prop :=
  start < place ∧ ∃ depth reading, templateAt text start place = .hole depth reading

section Escaped

variable {text : List Char} {place : Nat} {c : Char}

/-- A character is escaped when it follows a backslash that is not. -/
theorem escapes_take_succ (there : text[place]? = some c) :
    escapes (text.take (place + 1)) = (!escapes (text.take place) && c == '\\') := by
  rw [List.take_add_one, there, Option.toList_some, escapes, escapes, List.foldl_append,
    List.foldl_cons, List.foldl_nil]

theorem not_isEscaped_succ (there : text[place]? = some c) (other : c ≠ '\\') :
    escapes (text.take (place + 1)) = false := by
  rw [escapes_take_succ there, beq_eq_false_iff_ne.mpr other, Bool.and_false]

end Escaped

/-- The first backtick from a place on that no backslash escapes. -/
structure FirstBacktick (text : List Char) (place close : Nat) : Prop where
  forward : place ≤ close
  there : text[close]? = some '`'
  plain : ¬ IsEscaped text close
  earlier : ∀ between, place ≤ between → between < close → text[between]? = some '`' →
    IsEscaped text between

namespace Reading

/-- A literal goes on, behind an escape if it comes to one, or ends. -/
theorem next_inside (quote : Char) (escaped : Bool) (c : Char) :
    (Reading.inside quote escaped).next c = .inside quote (!escaped && c == '\\') ∨
      (Reading.inside quote escaped).next c = .outside := by
  cases escaped with
  | true => exact Or.inl rfl
  | false =>
    rw [Reading.next]
    split_ifs with slash same line
    · exact Or.inl (by rw [slash]; rfl)
    · exact Or.inr rfl
    · exact Or.inr rfl
    · exact Or.inl (by rw [beq_eq_false_iff_ne.mpr slash]; rfl)

/-- A template goes on over everything but a backtick that no backslash escapes. -/
theorem next_template {escaped : Bool} {c : Char} (passed : c = '`' → escaped = true) :
    (Reading.inside '`' escaped).next c = .inside '`' (!escaped && c == '\\') := by
  cases escaped with
  | true => rfl
  | false =>
    have other : c ≠ '`' := fun same => Bool.false_ne_true (passed same)
    by_cases slash : c = '\\'
    · simp [Reading.next, slash]
    · simp [Reading.next, slash, other]

end Reading

section First

variable {text : List Char} {place close : Nat}

theorem FirstBacktick.tail (first : FirstBacktick text place close) (further : place < close) :
    FirstBacktick text (place + 1) close :=
  ⟨further, first.there, first.plain, fun between after =>
    first.earlier between (Nat.le_of_succ_le after)⟩

/-- A backtick in front of the first one that is not escaped is. -/
theorem FirstBacktick.passed (first : FirstBacktick text place close) {between : Nat}
    (behind : place ≤ between) (before : between < close) {c : Char}
    (there : text[between]? = some c) : c = '`' → escapes (text.take between) = true := by
  rintro rfl
  exact first.earlier between behind before there

/-- There is a first backtick that is not escaped in front of any. -/
theorem exists_firstBacktick {last : Nat} (behind : place ≤ last) (there : text[last]? = some '`')
    (plain : ¬ IsEscaped text last) : ∃ close ≤ last, FirstBacktick text place close := by
  induction behind using Nat.decreasingInduction with
  | self => exact ⟨last, Nat.le_refl _, Nat.le_refl _, there, plain, fun between after before =>
      absurd after (Nat.not_le.mpr before)⟩
  | of_succ place further inductionHypothesis =>
    by_cases here : text[place]? = some '`' ∧ ¬ IsEscaped text place
    · exact ⟨place, Nat.le_of_lt further, Nat.le_refl _, here.1, here.2,
        fun between after before => absurd after (Nat.not_le.mpr before)⟩
    · obtain ⟨close, within, first⟩ := inductionHypothesis
      refine ⟨close, within, Nat.le_of_succ_le first.forward, first.there, first.plain, ?_⟩
      intro between after before also
      rcases Nat.eq_or_lt_of_le after with rfl | later
      · exact not_not.mp fun bare => here ⟨also, bare⟩
      · exact first.earlier between later before also

/-- A scan that looks no deeper than the text of a template stops behind the first backtick that is
not escaped.

Induct on the stretch in front of it: it is read as the text of the template. -/
theorem FirstBacktick.literalLength (first : FirstBacktick text place close) :
    literalLength (.inside '`' (escapes (text.take place))) (text.drop place) =
      .ok (close + 1 - place) := by
  obtain ⟨count, rfl⟩ := Nat.exists_eq_add_of_le first.forward
  induction count generalizing place with
  | zero =>
    have plain : escapes (text.take place) = false := Bool.eq_false_iff.mpr first.plain
    rw [Nat.add_zero] at first
    rw [drop_eq_cons first.there, plain, literalLength_of_outside rfl, if_pos rfl]
    congr 1
    omega
  | succ count inductionHypothesis =>
    obtain ⟨c, there⟩ : ∃ c, text[place]? = some c := by
      have inside := (List.getElem?_eq_some_iff.mp first.there).1
      exact ⟨_, List.getElem?_eq_getElem (Nat.lt_of_le_of_lt (Nat.le_add_right _ _) inside)⟩
    have before : place < place + (count + 1) := Nat.lt_add_of_pos_right (Nat.succ_pos _)
    have further := first.tail before
    have whole : place + (count + 1) = place + 1 + count := by omega
    rw [whole] at further ⊢
    have later := inductionHypothesis further
    rw [drop_eq_cons there, literalLength_of_inside
      (Reading.next_template (first.passed (Nat.le_refl _) before there)),
      ← escapes_take_succ there]
    refine map_eq_ok.mpr ⟨_, later, ?_⟩
    omega

theorem literalEnd_of_firstBacktick {start : Nat} (opening : text[start]? = some '`')
    (first : FirstBacktick text (start + 1) close) :
    literalEnd text start = some (.ok (close + 1)) := by
  have forward := first.forward
  have length := first.literalLength
  rw [not_isEscaped_succ opening (by decide)] at length
  rw [literalEnd_eq opening]
  refine congrArg some (map_eq_ok.mpr ⟨_, length, ?_⟩)
  omega

/-- A scan of a text passes over the template whose backtick stands at an offset: it is in that
literal up to another offset, and outside of literals there. -/
structure PassesOver (view : Nat → Option Reading) (start stop : Nat) : Prop where
  inside : ∀ place, start < place → place < stop →
    ∃ escaped, view place = some (.inside '`' escaped)
  behind : view stop = some .outside

/-- A scan that opens a template and follows it passes over it up to the first backtick that is not
escaped. -/
theorem FirstBacktick.passesOver {start : Nat} {view : Nat → Option Reading}
    (tracks : ∀ place escaped c, start < place → text[place]? = some c →
      view place = some (.inside '`' escaped) →
        view (place + 1) = some ((Reading.inside '`' escaped).next c))
    (opening : text[start]? = some '`') (opened : view (start + 1) = some (.inside '`' false))
    (first : FirstBacktick text (start + 1) close) : PassesOver view start (close + 1) := by
  have inside (count : Nat) (within : start + 1 + count ≤ close) :
      view (start + 1 + count) =
        some (.inside '`' (escapes (text.take (start + 1 + count)))) := by
    induction count with
    | zero => rw [Nat.add_zero, opened, not_isEscaped_succ opening (by decide)]
    | succ count inductionHypothesis =>
      have before : start + 1 + count < close := by omega
      have last := (List.getElem?_eq_some_iff.mp first.there).1
      have there := List.getElem?_eq_getElem (Nat.lt_trans before last)
      have here := inductionHypothesis (Nat.le_of_lt before)
      rw [← Nat.add_assoc, tracks _ _ _ (by omega) there here,
        Reading.next_template (first.passed (Nat.le_add_right _ _) before there),
        ← escapes_take_succ there]
  constructor
  · intro place after before
    obtain ⟨count, rfl⟩ := Nat.exists_eq_add_of_le (Nat.succ_le_of_lt after)
    exact ⟨_, inside count (Nat.le_of_lt_succ before)⟩
  · obtain ⟨count, rfl⟩ := Nat.exists_eq_add_of_le first.forward
    have plain := Bool.eq_false_iff.mpr first.plain
    rw [tracks _ _ _ (by omega) first.there (inside count (Nat.le_refl _)), plain]
    rfl

end First

namespace StringLayer

section Run

variable {layer : StringLayer} {c : Char} {behind : Option Char} {text : List Char} {length : Nat}

/-- A template is left only from its text, over a backtick. -/
theorem next_opened_cases (opened : layer.opensTemplate = true) :
    (layer.next c behind).opensTemplate = true ∨
      layer = .template false ∧ c = '`' ∧ layer.next c behind = .flat .outside := by
  unfold next
  split
  · exact Or.inl rfl
  · cases opened
  · exact Or.inl rfl
  · exact Or.inl rfl
  · exact Or.inr ⟨rfl, rfl, rfl⟩
  · exact Or.inl rfl
  · exact Or.inl rfl
  · exact Or.inl rfl
  · split <;> exact Or.inl rfl
  · exact Or.inl rfl

/-- The length of a template counts up to the backtick over which it is left.

Induct on the text. -/
theorem exists_close (opened : layer.opensTemplate = true)
    (measured : layer.templateLength text = .ok length) :
    ∃ count, length = count + 1 ∧ text[count]? = some '`' ∧
      layerAt StringLayer.next layer text count = .template false ∧
      ∀ shift ≤ count, (layerAt StringLayer.next layer text shift).opensTemplate = true := by
  induction text generalizing layer length with
  | nil =>
    cases layer with
    | flat reading => cases opened
    | template escaped | hole depth reading => cases measured
  | cons c rest inductionHypothesis =>
    have further : ((layer.next c rest.head?).templateLength rest).map (· + 1) = .ok length := by
      cases layer with
      | flat reading => cases opened
      | template escaped | hole depth reading => exact measured
    obtain ⟨remaining, later, rfl⟩ := map_eq_ok.mp further
    have step : (layer.next c rest.head?).opensTemplate = true ∨
        layer = .template false ∧ c = '`' ∧ layer.next c rest.head? = .flat .outside :=
      next_opened_cases opened
    rcases step with onwards | ⟨rfl, rfl, left⟩
    · obtain ⟨count, rfl, there, closing, inside⟩ := inductionHypothesis onwards later
      refine ⟨count + 1, rfl, there, closing, fun shift within => ?_⟩
      cases shift with
      | zero => exact opened
      | succ shift => exact inside shift (Nat.le_of_succ_le_succ within)
    · rw [left] at later
      obtain rfl : 0 = remaining := by
        rw [templateLength] at later
        exact Except.ok.inj later
      refine ⟨0, rfl, rfl, rfl, fun shift none => ?_⟩
      rw [Nat.le_zero.mp none, layerAt_zero]
      rfl

end Run

/-- What the scan of a template takes for escaped, in its text or in a literal of an expression, is
escaped. In the code of an expression nothing is. -/
inductive Aligned : StringLayer → Bool → Prop
  | text (escaped : Bool) : Aligned (.template escaped) escaped
  | code (depth : Nat) (escaped : Bool) : Aligned (.hole depth .outside) escaped
  | literal (depth : Nat) (quote : Char) (escaped : Bool) :
    Aligned (.hole depth (.inside quote escaped)) escaped

/-- A character leads on alike, as long as the template is not left. -/
theorem Aligned.next {layer : StringLayer} {escaped : Bool} {c : Char} {behind : Option Char}
    (aligned : Aligned layer escaped) (inside : (layer.next c behind).opensTemplate = true) :
    Aligned (layer.next c behind) (!escaped && c == '\\') := by
  cases aligned with
  | text escaped =>
    cases escaped with
    | true => exact .text false
    | false =>
      by_cases slash : c = '\\'
      · subst slash
        exact .text true
      · have bare : (!false && c == '\\') = false := beq_eq_false_iff_ne.mpr slash
        rw [bare]
        by_cases tick : c = '`'
        · subst tick
          cases inside
        · by_cases leads : c = '$' ∧ behind = some '{'
          · obtain ⟨rfl, rfl⟩ := leads
            exact .code 0 false
          · rw [Agrees.next_text slash tick leads]
            exact .text false
  | code depth escaped =>
    by_cases opening : c = '{'
    · subst opening
      exact .code (depth + 1) _
    · by_cases closing : c = '}'
      · subst closing
        have bare : (!escaped && '}' == '\\') = false := Bool.and_false _
        rw [bare, StringLayer.next]
        split_ifs
        · exact .text false
        · exact .code (depth - 1) false
      · rw [Agrees.next_hole opening closing]
        split_ifs with quote
        · have bare : (c == '\\') = false := by
            rw [beq_eq_false_iff_ne]
            rintro rfl
            exact absurd quote (by decide)
          rw [bare, Bool.and_false]
          exact .literal depth c false
        · exact .code depth _
  | literal depth quote escaped =>
    rw [Agrees.next_nested]
    rcases Reading.next_inside quote escaped c with stays | ends
    · rw [stays]
      exact .literal depth quote _
    · rw [ends]
      exact .code depth _

end StringLayer

section Template

variable {text : List Char} {start stop place : Nat} {c : Char}

theorem templateAt_start : templateAt text start (start + 1) = .template false := by
  rw [templateAt, Nat.sub_self, layerAt_zero]

/-- A character in a template leads from the layer of its place to that of the next one. -/
theorem templateAt_succ (behind : start < place) (there : text[place]? = some c) :
    templateAt text start (place + 1) =
      (templateAt text start place).next c text[place + 1]? := by
  obtain ⟨count, rfl⟩ := Nat.exists_eq_add_of_lt behind
  have whole : start + count + 1 = start + 1 + count := by omega
  have also : start + 1 + count + 1 - (start + 1) = count + 1 := by omega
  rw [whole] at there ⊢
  rw [← List.getElem?_drop] at there
  rw [templateAt, templateAt, also, Nat.add_sub_cancel_left, layerAt_succ _ there,
    List.getElem?_drop, Nat.add_assoc (start + 1)]

/-- A template ends behind a backtick in its text, and up to there all is in it. -/
theorem exists_close_of_templateEnd (closes : templateEnd text start = some (.ok stop)) :
    ∃ close, stop = close + 1 ∧ start < close ∧ text[close]? = some '`' ∧
      templateAt text start close = .template false ∧
      ∀ place ≤ close, (templateAt text start place).opensTemplate = true := by
  rw [templateEnd] at closes
  cases left : text.drop start with
  | nil =>
    rw [left] at closes
    cases closes
  | cons c rest =>
    rw [left] at closes
    obtain ⟨length, measured, rfl⟩ := map_eq_ok.mp (Option.some.inj closes)
    have next : text.drop (start + 1) = rest := by rw [← List.drop_drop, left]; rfl
    obtain ⟨count, rfl, there, closing, inside⟩ := StringLayer.exists_close rfl measured
    rw [← next, List.getElem?_drop] at there
    rw [← next] at closing inside
    refine ⟨start + 1 + count, rfl, by omega, there, ?_, fun place within => ?_⟩
    · rw [templateAt, Nat.add_sub_cancel_left, closing]
    · exact inside _ (by omega)

/-- As long as a template is not left, what its scan takes for escaped is. -/
theorem aligned_templateAt (opening : text[start]? = some '`') {close : Nat}
    (inside : ∀ place ≤ close, (templateAt text start place).opensTemplate = true)
    (there : ∃ c, text[close]? = some c) (behind : start < place) (within : place ≤ close) :
    (templateAt text start place).Aligned (escapes (text.take place)) := by
  obtain ⟨count, rfl⟩ := Nat.exists_eq_add_of_le (Nat.succ_le_of_lt behind)
  induction count with
  | zero =>
    rw [Nat.add_zero, templateAt_start, not_isEscaped_succ opening (by decide)]
    exact .text false
  | succ count inductionHypothesis =>
    obtain ⟨last, ends⟩ := there
    have reached := (List.getElem?_eq_some_iff.mp ends).1
    have here : text[start + 1 + count]? = some _ := List.getElem?_eq_getElem (by omega)
    have later := inside (start + 1 + (count + 1)) within
    have aligned := inductionHypothesis (by omega) (by omega)
    rw [← Nat.add_assoc, templateAt_succ (by omega) here] at later ⊢
    rw [escapes_take_succ here]
    exact aligned.next later

/-- Within a template, a backtick that no backslash escapes and that does not end the template
stands in an expression. -/
theorem inExpression_of_plain (opening : text[start]? = some '`') {close : Nat}
    (inside : ∀ place ≤ close, (templateAt text start place).opensTemplate = true)
    (behind : start < place) (before : place < close) (there : text[place]? = some '`')
    (plain : ¬ IsEscaped text place) (ends : ∃ c, text[close]? = some c) :
    InExpression text start place := by
  have aligned := aligned_templateAt opening inside ends behind (Nat.le_of_lt before)
  rw [Bool.eq_false_iff.mpr plain] at aligned
  have later := inside (place + 1) before
  rw [templateAt_succ behind there] at later
  generalize layer : templateAt text start place = here at aligned later
  cases aligned with
  | text => cases later
  | code depth => exact ⟨behind, depth, _, layer⟩
  | literal depth quote => exact ⟨behind, depth, _, layer⟩

end Template

namespace CommentLayer

/-- Where a place of a text stands for the scan of comments, unless it is in a comment. -/
def readingAt (text : List Char) (place : Nat) : Option Reading :=
  (layerAt CommentLayer.next (.text .outside) text place).reading?

end CommentLayer

/-- What the scans of a text take for the template whose backtick stands at an offset, if they come
to the backtick in code: the scans of comments and of arguments take the stretch up to one offset,
and the scan of literals that up to another one, unless the template stands in an expression. -/
structure Extents (text : List Char) (start first stop : Nat) : Prop where
  comments : CommentLayer.readingAt text start = some .outside →
    PassesOver (CommentLayer.readingAt text) start first
  arguments : ∀ paren < start, readingAt text paren start = .outside →
    PassesOver (fun place => some (readingAt text paren place)) start first
  nested : ∀ depth, layerAt StringLayer.next (.flat .outside) text start = .hole depth .outside →
    PassesOver (StringLayer.readingAt text) start first
  literals : layerAt StringLayer.next (.flat .outside) text start = .flat .outside →
    (∀ place, start < place → place < stop →
      (layerAt StringLayer.next (.flat .outside) text place).opensTemplate = true) ∧
    layerAt StringLayer.next (.flat .outside) text stop = .flat .outside

section Scans

variable {text : List Char} {start close stop : Nat}

/-- The scan of comments passes over a template up to the first backtick that is not escaped. -/
theorem CommentLayer.passesOver (opening : text[start]? = some '`')
    (first : FirstBacktick text (start + 1) close)
    (outside : CommentLayer.readingAt text start = some .outside) :
    PassesOver (CommentLayer.readingAt text) start (close + 1) := by
  refine first.passesOver (fun place escaped c _ there inside => ?tracks) opening ?opened
  case tracks =>
    rw [CommentLayer.readingAt, layerAt_succ _ there]
    exact CommentLayer.tracksLiterals _ _ _ _ _ inside
  case opened =>
    rw [CommentLayer.readingAt, layerAt_succ _ opening]
    rw [CommentLayer.readingAt] at outside
    generalize layerAt CommentLayer.next (.text .outside) text start = layer at outside
    cases layer with
    | text reading =>
      obtain rfl := Option.some.inj outside
      rfl
    | line | opening | block | closing => cases outside

/-- The scan of arguments passes over a template up to the first backtick that is not escaped. -/
theorem passesOver_arguments (opening : text[start]? = some '`')
    (first : FirstBacktick text (start + 1) close) {paren : Nat} (behind : paren < start)
    (outside : readingAt text paren start = .outside) :
    PassesOver (fun place => some (readingAt text paren place)) start (close + 1) := by
  refine first.passesOver (fun place escaped c later there inside => ?tracks) opening ?opened
  case tracks =>
    rw [readingAt_succ (Nat.lt_trans behind later) there, Option.some.inj inside]
  case opened =>
    rw [readingAt_succ behind opening, outside]
    rfl

/-- In an expression, the scan of literals passes over a template up to the first backtick that is
not escaped. -/
theorem StringLayer.passesOver (opening : text[start]? = some '`')
    (first : FirstBacktick text (start + 1) close) {depth : Nat}
    (code : layerAt StringLayer.next (.flat .outside) text start = .hole depth .outside) :
    PassesOver (StringLayer.readingAt text) start (close + 1) := by
  refine first.passesOver (fun place escaped c _ there inside => ?tracks) opening ?opened
  case tracks =>
    rw [StringLayer.readingAt, layerAt_succ _ there]
    exact StringLayer.tracksLiterals _ _ _ _ _ inside
  case opened =>
    rw [StringLayer.readingAt, layerAt_succ _ opening, code]
    rfl

/-- In code, the scan of literals goes through a template in the layers of the template. -/
theorem layerAt_eq_templateAt (opening : text[start]? = some '`')
    (code : layerAt StringLayer.next (.flat .outside) text start = .flat .outside) {place : Nat}
    (behind : start < place) :
    layerAt StringLayer.next (.flat .outside) text place = templateAt text start place := by
  obtain ⟨count, rfl⟩ := Nat.exists_eq_add_of_le (Nat.succ_le_of_lt behind)
  have opened : layerAt StringLayer.next (.flat .outside) text (start + 1) = .template false := by
    rw [layerAt_succ _ opening, code]
    rfl
  rw [templateAt, Nat.add_sub_cancel_left, ← opened, layerAt_drop]

end Scans

/-- A template that ends when the expressions in it are read as code also ends when they are read as
text, and not behind the former end. The two ends are one exactly when every backtick in an
expression of the template is escaped. The scans of comments and of arguments take the template up
to the latter end; so does the scan of literals for a template in an expression, and for one outside
of expressions it takes the former. -/
theorem template_extents {text : List Char} {start stop : Nat} (opening : text[start]? = some '`')
    (closes : templateEnd text start = some (.ok stop)) :
    ∃ first, literalEnd text start = some (.ok first) ∧ first ≤ stop ∧
      (first = stop ↔ ∀ place < stop, InExpression text start place → text[place]? = some '`' →
        IsEscaped text place) ∧
      Extents text start first stop := by
  obtain ⟨last, rfl, behind, there, closing, inside⟩ := exists_close_of_templateEnd closes
  have plain : ¬ IsEscaped text last := by
    have aligned := aligned_templateAt opening inside ⟨_, there⟩ behind (Nat.le_refl _)
    rw [closing] at aligned
    intro escaped
    rw [IsEscaped] at escaped
    rw [escaped] at aligned
    cases aligned
  obtain ⟨close, within, first⟩ := exists_firstBacktick (Nat.succ_le_of_lt behind) there plain
  refine ⟨close + 1, literalEnd_of_firstBacktick opening first, Nat.succ_le_succ within,
    ⟨?agree, ?escaped⟩, ?extents⟩
  case agree =>
    intro same place before expression tick
    obtain rfl : close = last := Nat.succ.inj same
    refine first.earlier place expression.1 ?_ tick
    refine Nat.lt_of_le_of_ne (Nat.le_of_lt_succ before) ?_
    rintro rfl
    obtain ⟨-, depth, reading, layer⟩ := expression
    rw [closing] at layer
    cases layer
  case escaped =>
    intro escaped
    refine congrArg Nat.succ (Nat.le_antisymm within (Nat.le_of_not_lt fun before => ?_))
    have expression := inExpression_of_plain opening inside first.forward before first.there
      first.plain ⟨_, there⟩
    exact first.plain (escaped close (Nat.lt_succ_of_lt before) expression first.there)
  case extents =>
    refine ⟨CommentLayer.passesOver opening first,
      fun paren before => passesOver_arguments opening first before,
      fun depth => StringLayer.passesOver opening first, fun code => ⟨?inside, ?behind⟩⟩
    case inside =>
      intro place later before
      rw [layerAt_eq_templateAt opening code later]
      exact inside place (Nat.le_of_lt_succ before)
    case behind =>
      rw [layerAt_eq_templateAt opening code (Nat.lt_succ_of_lt behind),
        templateAt_succ behind there, closing]
      rfl

/-- A template with another one in its expression. -/
def nestedTemplate : List Char := "`a$\x7b`b`\x7dc`".toList

theorem template_extents_nested :
    templateEnd nestedTemplate 0 = some (.ok 10) ∧ literalEnd nestedTemplate 0 = some (.ok 5) ∧
      (¬ ∀ place < 10, InExpression nestedTemplate 0 place → nestedTemplate[place]? = some '`' →
        IsEscaped nestedTemplate place) ∧
      Extents nestedTemplate 0 5 10 := by
  have closes : templateEnd nestedTemplate 0 = some (.ok 10) := rfl
  have shallow : literalEnd nestedTemplate 0 = some (.ok 5) := rfl
  obtain ⟨first, ends, -, same, extents⟩ := template_extents rfl closes
  obtain rfl : 5 = first := Except.ok.inj (Option.some.inj (shallow.symm.trans ends))
  exact ⟨closes, shallow, fun escaped => absurd (same.mpr escaped) (by decide), extents⟩

/-- The two ends of a template differ when another one stands in its expression. Then what the inner
one holds is code for the scan of comments, and two slashes there blank the rest of the line. -/
theorem template_extents_differ :
    (¬ ∀ text start first stop, text[start]? = some '`' → literalEnd text start = some (.ok first) →
      templateEnd text start = some (.ok stop) → first = stop) ∧
    templateEnd "`a$\x7b`//b`\x7dc`".toList 0 = some (.ok 12) ∧
    maskComments "`a$\x7b`//b`\x7dc`".toList = .ok "`a$\x7b`       ".toList := by
  refine ⟨fun same => ?_, rfl, rfl⟩
  exact absurd (same nestedTemplate 0 5 10 rfl rfl rfl) (by decide)

end FeatureLayout.Code
