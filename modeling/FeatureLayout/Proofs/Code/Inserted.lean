import FeatureLayout.Proofs.Code.Brackets
import FeatureLayout.Proofs.Code.Literal

/-!
# Lines that are inserted into a text

How a text is read up to the start of a line depends on nothing behind it. A line that is inserted
there, and in which no comment starts, is shown as it is when the layer in front of it is code, and it
is in a comment or in a literal when the text in front of it ends in one. So it is code exactly when
the text in front of it ends in code, whatever follows, as long as the whole can be scanned.

What is shown of a text is read by its literals like the text itself, and so it ends outside of
templates.
-/

namespace FeatureLayout.Text

/-- What follows the first line break of a text. -/
theorem afterLine_cases (text : List Char) :
    (afterLine text = none ∧ '\n' ∉ text) ∨
      ∃ front back, afterLine text = some back ∧ text = front ++ '\n' :: back ∧ '\n' ∉ front := by
  induction text with
  | nil => exact Or.inl ⟨rfl, List.not_mem_nil⟩
  | cons c rest inductionHypothesis =>
    by_cases line : c = '\n'
    · subst line
      exact Or.inr ⟨[], rest, rfl, rfl, List.not_mem_nil⟩
    · have other : (c == '\n') = false := beq_eq_false_iff_ne.mpr line
      have onwards : afterLine (c :: rest) = afterLine rest := by
        rw [afterLine, other]
        rfl
      rw [onwards]
      rcases inductionHypothesis with ⟨none, apart⟩ | ⟨front, back, some, rfl, apart⟩
      · exact Or.inl ⟨none, List.not_mem_cons_of_ne_of_not_mem (Ne.symm line) apart⟩
      · exact Or.inr ⟨c :: front, back, some, rfl,
          List.not_mem_cons_of_ne_of_not_mem (Ne.symm line) apart⟩

end FeatureLayout.Text

namespace FeatureLayout.Code

open Text

namespace CommentLayer

/-- Where a place stands with respect to the literals of what is shown. A comment is shown as blanks
outside of literals. -/
def reading (layer : CommentLayer) : Reading := layer.reading?.getD .outside

/-- What is shown of a character is read like the character itself. -/
theorem reading_next (layer : CommentLayer) (c : Char) (behind : Option Char) :
    layer.reading.next (layer.shown (layer.next c behind) c) = (layer.next c behind).reading := by
  have blank : Reading.outside.next ' ' = .outside := rfl
  have line : Reading.outside.next '\n' = .outside := rfl
  unfold CommentLayer.next
  split <;> simp only [shown, isText, reading, reading?, Option.getD_some, Option.getD_none,
    Bool.and_false, Bool.and_true, Bool.false_or, Bool.true_or, if_true]
  all_goals split_ifs <;> simp_all

/-- What is shown of a text leaves no template open. -/
theorem opensTemplate_behind_of_mask {layer : CommentLayer} {text masked : List Char}
    (read : layer.mask text = .ok masked) :
    (layer.reading.behind masked).opensTemplate = false := by
  induction text generalizing layer masked with
  | nil =>
    rw [mask] at read
    split at read
    · cases read
    · next fine =>
      obtain rfl := Except.ok.inj read
      cases layer with
      | text reading => simpa [problem?, CommentLayer.reading, reading?] using fine
      | line | opening | block | closing => rfl
  | cons c rest inductionHypothesis =>
    obtain ⟨remaining, inside, rfl⟩ := map_eq_ok.mp read
    rw [Reading.behind_cons, reading_next]
    exact inductionHypothesis inside

end CommentLayer

/-- Behind a text, a line starts. -/
def StartsLine (text : List Char) : Prop := text = [] ∨ text.getLast? = some '\n'

/-- In front of a text, a line ends. -/
def EndsLine (text : List Char) : Prop := ∀ c, text.head? = some c → c = '\n' ∨ c = '\r'

theorem endsLine_nil : EndsLine [] := by
  intro c absent
  cases absent

/-- A text in which no comment starts. -/
structure Unmarked (text : List Char) : Prop where
  line : ¬ ['/', '/'] <:+: text
  block : ¬ ['/', '*'] <:+: text

/-- A line stands in the code of a text: it is shown when comments are blanked, and its place is
outside of comments and literals, for the scan of comments and for that of literals. -/
def StandsInCode (line text : List Char) (place : Nat) : Prop :=
  ∃ masked, maskComments text = .ok masked ∧ line <+: masked.drop place ∧
    CommentLayer.IsOutsideAt text place ∧
    layerAt StringLayer.next (.flat .outside) masked place = .flat .outside

theorem startsLine_cons {c : Char} {rest : List Char} :
    StartsLine (c :: rest) ↔ (rest = [] ∧ c = '\n') ∨ (rest ≠ [] ∧ StartsLine rest) := by
  cases rest with
  | nil => simp [StartsLine]
  | cons d more => simp [StartsLine]

/-- Up to a character, the first character of a text does not depend on what follows. -/
theorem head?_append_cons (front : List Char) (c : Char) (rest : List Char) :
    (front ++ c :: rest).head? = (front ++ [c]).head? := by
  cases front <;> rfl

section Scan

variable {Layer : Type} {next : Layer → Char → Option Char → Layer}

/-- A scan that reads a line break alike, whatever follows it. -/
def BreaksLines (next : Layer → Char → Option Char → Layer) : Prop :=
  ∀ layer behind other, next layer '\n' behind = next layer '\n' other

/-- A character in front of the start of a line is read alike, whatever follows the line start. -/
theorem BreaksLines.next_head? (breaks : BreaksLines next) {c : Char} {front : List Char}
    (starts : StartsLine (c :: front)) (layer : Layer) (rest : List Char) :
    next layer c (front ++ rest).head? = next layer c front.head? := by
  rcases startsLine_cons.mp starts with ⟨rfl, rfl⟩ | ⟨filled, -⟩
  · exact breaks layer _ _
  · rw [List.head?_append_of_ne_nil _ filled]

/-- The layer at the start of a line does not depend on what follows. -/
theorem BreaksLines.layerAt_append (breaks : BreaksLines next) {layer : Layer} {front : List Char}
    (starts : StartsLine front) (rest : List Char) :
    layerAt next layer (front ++ rest) front.length = layerAt next layer front front.length := by
  induction front generalizing layer with
  | nil => rw [List.length_nil, layerAt_zero, layerAt_zero]
  | cons c more inductionHypothesis =>
    rw [List.cons_append, List.length_cons, layerAt, layerAt, breaks.next_head? starts]
    rcases startsLine_cons.mp starts with ⟨rfl, -⟩ | ⟨-, later⟩
    · exact inductionHypothesis (Or.inl rfl)
    · exact inductionHypothesis later

/-- The layer in front of a character does not depend on what follows the character. -/
theorem layerAt_append_cons (layer : Layer) (front : List Char) (c : Char) (rest : List Char) :
    layerAt next layer (front ++ c :: rest) front.length =
      layerAt next layer (front ++ [c]) front.length := by
  induction front generalizing layer with
  | nil => rw [List.length_nil, layerAt_zero, layerAt_zero]
  | cons d more inductionHypothesis =>
    rw [List.cons_append, List.cons_append, List.length_cons, layerAt, layerAt,
      head?_append_cons more c rest]
    exact inductionHypothesis _

end Scan

theorem StringLayer.breaksLines : BreaksLines StringLayer.next := by
  intro layer behind other
  cases layer with
  | flat reading => cases reading <;> rfl
  | template escaped => cases escaped <;> rfl
  | hole depth reading => cases reading <;> rfl

namespace CommentLayer

theorem breaksLines : BreaksLines CommentLayer.next := by
  intro layer behind other
  cases layer with
  | text reading => cases reading <;> rfl
  | line | opening | block | closing => rfl

/-- Up to the start of a line, a text is shown alike whatever follows. -/
theorem exists_mask_append (layer : CommentLayer) {front : List Char} (starts : StartsLine front) :
    ∃ shown, shown.length = front.length ∧ StartsLine shown ∧ ∀ rest, layer.mask (front ++ rest) =
      ((layerAt CommentLayer.next layer front front.length).mask rest).map (shown ++ ·) := by
  induction front generalizing layer with
  | nil =>
    refine ⟨[], rfl, Or.inl rfl, fun rest => ?_⟩
    rw [List.length_nil, layerAt_zero, List.nil_append]
    cases layer.mask rest <;> rfl
  | cons c more inductionHypothesis =>
    have later : StartsLine more := by
      rcases startsLine_cons.mp starts with ⟨rfl, -⟩ | ⟨-, later⟩
      · exact Or.inl rfl
      · exact later
    obtain ⟨shown, length, ends, same⟩ := inductionHypothesis (layer.next c more.head?) later
    refine ⟨layer.shown (layer.next c more.head?) c :: shown, congrArg (· + 1) length,
      startsLine_cons.mpr ?_, fun rest => ?_⟩
    · rcases startsLine_cons.mp starts with ⟨rfl, rfl⟩ | ⟨filled, -⟩
      · exact Or.inl ⟨List.length_eq_zero_iff.mp length, by simp [CommentLayer.shown]⟩
      · refine Or.inr ⟨fun none => filled ?_, ends⟩
        rw [none] at length
        exact List.length_eq_zero_iff.mp length.symm
    · rw [List.cons_append, mask, breaksLines.next_head? starts, same, List.length_cons, layerAt]
      cases (layerAt CommentLayer.next (layer.next c more.head?) more more.length).mask rest <;> rfl

/-- Up to a character, a text is shown alike whatever follows the character. -/
theorem exists_mask_append_cons (layer : CommentLayer) (front : List Char) (c : Char) :
    ∃ shown, shown.length = front.length ∧ ∀ rest, layer.mask (front ++ c :: rest) =
      ((layerAt CommentLayer.next layer (front ++ [c]) front.length).mask (c :: rest)).map
        (shown ++ ·) := by
  induction front generalizing layer with
  | nil =>
    refine ⟨[], rfl, fun rest => ?_⟩
    rw [List.length_nil, layerAt_zero, List.nil_append]
    cases layer.mask (c :: rest) <;> rfl
  | cons d more inductionHypothesis =>
    let follower := layer.next d (more ++ [c]).head?
    obtain ⟨shown, length, same⟩ := inductionHypothesis follower
    refine ⟨layer.shown follower d :: shown, congrArg (· + 1) length, fun rest => ?_⟩
    rw [List.cons_append, List.cons_append, mask, head?_append_cons more c rest, same,
      List.length_cons, layerAt]
    cases (layerAt CommentLayer.next follower (more ++ [c]) more.length).mask (c :: rest) <;> rfl

/-- Text in which no comment starts is shown as it is, in front of the end of a line. -/
theorem mask_unmarked {reading : Reading} {line back : List Char} (plain : Unmarked line)
    (ends : EndsLine back) : (CommentLayer.text reading).mask (line ++ back) =
      ((CommentLayer.text (reading.behind line)).mask back).map (line ++ ·) := by
  induction line generalizing reading with
  | nil =>
    rw [List.nil_append, Reading.behind_nil]
    cases (CommentLayer.text reading).mask back <;> rfl
  | cons c more inductionHypothesis =>
    have later : Unmarked more :=
      ⟨fun inside => plain.line (List.infix_cons inside),
        fun inside => plain.block (List.infix_cons inside)⟩
    have still : c ≠ '/' ∨ ((more ++ back).head? ≠ some '/' ∧ (more ++ back).head? ≠ some '*') := by
      refine Classical.or_iff_not_imp_left.mpr fun slash => ?_
      obtain rfl := not_not.mp slash
      cases more with
      | nil => exact ⟨fun same => by simpa using ends _ same, fun same => by simpa using ends _ same⟩
      | cons d others =>
        refine ⟨fun same => plain.line ⟨[], others, ?_⟩, fun same => plain.block ⟨[], others, ?_⟩⟩
        · rw [Option.some.inj same]
          rfl
        · rw [Option.some.inj same]
          rfl
    rw [List.cons_append, mask_text (next_text still), inductionHypothesis later,
      Reading.behind_cons]
    cases (CommentLayer.text ((reading.next c).behind more)).mask back <;> rfl

/-- Only outside of comments and literals is a place read as code. -/
theorem eq_text_of_reading? {layer : CommentLayer} (outside : layer.reading? = some .outside) :
    layer = .text .outside := by
  cases layer with
  | text reading => exact congrArg text (Option.some.inj outside)
  | line | opening | block | closing => cases outside

end CommentLayer

/-- A line in which no comment starts is code in a text that can be scanned exactly when what is in
front of it ends in code. -/
theorem standsInCode_iff {front line back : List Char} (starts : StartsLine front)
    (plain : Unmarked line) (ends : EndsLine back) :
    StandsInCode line (front ++ (line ++ back)) front.length ↔
      StandsInCode [] front front.length ∧
        ∃ masked, maskComments (front ++ (line ++ back)) = .ok masked := by
  obtain ⟨shown, length, also, same⟩ := CommentLayer.exists_mask_append (.text .outside) starts
  have layers (rest : List Char) : layerAt StringLayer.next (.flat .outside) (shown ++ rest)
      front.length = layerAt StringLayer.next (.flat .outside) shown front.length := by
    rw [← length]
    exact StringLayer.breaksLines.layerAt_append also rest
  have outside (rest : List Char) : CommentLayer.IsOutsideAt (front ++ rest) front.length ↔
      CommentLayer.IsOutsideAt front front.length := by
    unfold CommentLayer.IsOutsideAt
    rw [CommentLayer.breaksLines.layerAt_append starts rest]
  have alone (here : CommentLayer.IsOutsideAt front front.length) :
      maskComments front = .ok shown := by
    have whole := same []
    rw [List.append_nil, CommentLayer.eq_text_of_reading? here] at whole
    exact whole.trans (congrArg Except.ok (List.append_nil shown))
  constructor
  · rintro ⟨masked, read, -, place, code⟩
    have here := (outside _).mp place
    obtain ⟨rest, -, rfl⟩ := map_eq_ok.mp ((same _).symm.trans read)
    exact ⟨⟨shown, alone here, List.nil_prefix, here, (layers rest).symm.trans code⟩, _, read⟩
  · rintro ⟨⟨masked, reads, -, here, code⟩, whole, read⟩
    obtain rfl := Except.ok.inj ((alone here).symm.trans reads)
    obtain ⟨rest, inside, rfl⟩ := map_eq_ok.mp ((same _).symm.trans read)
    rw [CommentLayer.eq_text_of_reading? here, CommentLayer.mask_unmarked plain ends] at inside
    obtain ⟨remaining, -, rfl⟩ := map_eq_ok.mp inside
    refine ⟨_, read, ?_, (outside _).mpr here, (layers _).trans code⟩
    rw [← length, List.drop_left]
    exact ⟨remaining, rfl⟩

/-- A line that is code stays code whatever else follows it, as long as the whole can be scanned. -/
theorem StandsInCode.of_scanned {front line back other : List Char} (filled : line ≠ [])
    (plain : Unmarked line) (ends : EndsLine other)
    (code : StandsInCode line (front ++ (line ++ back)) front.length)
    (scanned : ∃ masked, maskComments (front ++ (line ++ other)) = .ok masked) :
    StandsInCode line (front ++ (line ++ other)) front.length := by
  obtain ⟨c, more, rfl⟩ := List.exists_cons_of_ne_nil filled
  obtain ⟨masked, reads, shows, here, outside⟩ := code
  obtain ⟨whole, read⟩ := scanned
  obtain ⟨shown, length, same⟩ :=
    CommentLayer.exists_mask_append_cons (.text .outside) front c
  rw [List.cons_append] at reads read here
  obtain ⟨tail, -, rfl⟩ := map_eq_ok.mp ((same _).symm.trans reads)
  obtain ⟨rest, inside, rfl⟩ := map_eq_ok.mp ((same _).symm.trans read)
  unfold CommentLayer.IsOutsideAt at here
  rw [layerAt_append_cons] at here
  rw [CommentLayer.eq_text_of_reading? here, ← List.cons_append,
    CommentLayer.mask_unmarked plain ends] at inside
  obtain ⟨remaining, -, rfl⟩ := map_eq_ok.mp inside
  rw [← length, List.drop_left] at shows
  obtain ⟨behind, rfl⟩ := shows
  refine ⟨_, read, ?_, ?_, ?_⟩
  · rw [← length, List.drop_left]
    exact List.prefix_append _ _
  · unfold CommentLayer.IsOutsideAt
    rw [List.cons_append, layerAt_append_cons]
    exact here
  · rw [← length, List.cons_append, layerAt_append_cons] at outside ⊢
    exact outside

end FeatureLayout.Code
