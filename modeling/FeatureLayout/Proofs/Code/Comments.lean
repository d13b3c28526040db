import FeatureLayout.Code.Comments
import FeatureLayout.Proofs.Code.Blanked
import FeatureLayout.Proofs.Code.Specifier

/-!
# Blanking comments around a replaced specifier

Safe characters leave the reading of a text as it is: they open and close no literal, escape
nothing, and no comment starts among them. What stands outside of comments is shown as it is, so a
specifier that is found in a text without comments stands in the text itself, and replacing it there
by another safe one replaces it in what is shown and nothing else.
-/

namespace FeatureLayout.Code

open Specifier

/-- A reading that a text can lead to: literals are opened by quotes. -/
def Reading.Sound : Reading → Prop
  | .outside => True
  | .inside quote _ => isQuote quote = true

/-- A sound reading right behind which nothing is escaped. -/
def Reading.Calm : Reading → Prop
  | .outside => True
  | .inside quote escaped => isQuote quote = true ∧ escaped = false

namespace Reading

variable {reading : Reading}

theorem Sound.next (sound : reading.Sound) (c : Char) : (reading.next c).Sound := by
  cases reading with
  | outside =>
    rw [Reading.next]
    split
    · assumption
    · trivial
  | inside quote escaped =>
    cases escaped with
    | true => exact sound
    | false =>
      rw [Reading.next]
      split_ifs
      · exact sound
      · trivial
      · trivial
      · exact sound

/-- A quote is read without escaping what follows. -/
theorem Sound.calm_next (sound : reading.Sound) {quote : Char}
    (isQuote : quote = '\'' ∨ quote = '"') : (reading.next quote).Calm := by
  have opens : Code.isQuote quote = true := by rcases isQuote with rfl | rfl <;> rfl
  have plain : quote ≠ '\\' := by rcases isQuote with rfl | rfl <;> decide
  cases reading with
  | outside =>
    rw [Reading.next, if_pos opens]
    exact ⟨opens, rfl⟩
  | inside other escaped =>
    cases escaped with
    | true => exact ⟨sound, rfl⟩
    | false =>
      rw [Reading.next, if_neg plain]
      split_ifs
      · trivial
      · trivial
      · exact ⟨sound, rfl⟩

/-- Safe characters do not change a calm reading. -/
theorem Calm.next_eq (calm : reading.Calm) {c : Char} (safe : isSafeChar c = true) :
    reading.next c = reading := by
  have other (refused : Char) (rejected : isSafeChar refused = false) : c ≠ refused :=
    ne_of_isSafeChar safe rejected
  cases reading with
  | outside =>
    have opens : isQuote c = false := by
      simp [isQuote, other '\'' (by decide), other '"' (by decide), other '`' (by decide)]
    rw [Reading.next, opens]
    rfl
  | inside quote escaped =>
    obtain ⟨isQuote, rfl⟩ := calm
    have apart : c ≠ quote := by
      simp only [Code.isQuote, Bool.or_eq_true, beq_iff_eq] at isQuote
      rcases isQuote with (rfl | rfl) | rfl
      · exact other _ (by decide)
      · exact other _ (by decide)
      · exact other _ (by decide)
    rw [Reading.next, if_neg (other '\\' (by decide)), if_neg apart, if_neg]
    rintro ⟨rfl, -⟩
    exact other '\n' (by decide) rfl

/-- What a specifier may contain keeps a literal open. -/
theorem next_of_isInner {quote c : Char} (isQuote : quote = '\'' ∨ quote = '"')
    (plain : isInner c = true) (escaped : Bool) :
    (Reading.inside quote escaped).next c = .inside quote (!escaped && c == '\\') := by
  cases escaped with
  | true => rfl
  | false =>
    simp only [isInner, Bool.and_eq_true, bne_iff_ne] at plain
    have apart : c ≠ quote := by
      rcases isQuote with rfl | rfl
      · exact plain.1.1
      · exact plain.1.2
    by_cases slash : c = '\\'
    · simp [Reading.next, slash]
    · simp [Reading.next, slash, apart, plain.2]

end Reading

namespace CommentLayer

/-- A layer that a text can lead to. -/
def Sound : CommentLayer → Prop
  | .text reading => reading.Sound
  | _ => True

theorem Sound.next {layer : CommentLayer} (sound : layer.Sound) (c : Char) (ahead : Option Char) :
    (layer.next c ahead).Sound := by
  unfold CommentLayer.next
  split
  · trivial
  · trivial
  · exact Reading.Sound.next sound c
  all_goals trivial

/-- What does not start a comment is read as text. -/
theorem next_text {reading : Reading} {c : Char} {ahead : Option Char}
    (plain : c ≠ '/' ∨ (ahead ≠ some '/' ∧ ahead ≠ some '*')) :
    (CommentLayer.text reading).next c ahead = .text (reading.next c) := by
  unfold CommentLayer.next
  split <;> simp_all

/-- Text outside of comments is shown as it is. -/
theorem mask_text {reading following : Reading} {c : Char} {rest : List Char}
    (next : (CommentLayer.text reading).next c rest.head? = .text following) :
    (CommentLayer.text reading).mask (c :: rest) =
      ((CommentLayer.text following).mask rest).map (c :: ·) := by
  simp [mask, next, shown, isText]

/-- A safe specifier is shown as it is and leaves the reading as it is. -/
theorem mask_safe {reading : Reading} (calm : reading.Calm) {text : List Char}
    (letters : ∀ c ∈ text, isSafeChar c = true) (slashes : ¬ ['/', '/'] <:+: text) {quote : Char}
    (isQuote : quote = '\'' ∨ quote = '"') (rest : List Char) :
    (CommentLayer.text reading).mask (text ++ quote :: rest) =
      ((CommentLayer.text reading).mask (quote :: rest)).map (text ++ ·) := by
  induction text with
  | nil =>
    rw [List.nil_append]
    cases (CommentLayer.text reading).mask (quote :: rest) <;> rfl
  | cons c more inductionHypothesis =>
    have shorter := inductionHypothesis (fun d listed => letters d (List.mem_cons_of_mem c listed))
      (fun inside => slashes (List.infix_cons inside))
    have plain : c ≠ '/' ∨ ((more ++ quote :: rest).head? ≠ some '/' ∧
        (more ++ quote :: rest).head? ≠ some '*') := by
      refine Classical.or_iff_not_imp_left.mpr fun slash => ?_
      obtain rfl := not_not.mp slash
      cases more with
      | nil => rcases isQuote with rfl | rfl <;> simp
      | cons d others =>
        have star : d ≠ '*' := ne_of_isSafeChar
          (letters d (List.mem_cons_of_mem _ List.mem_cons_self)) (by decide)
        have apart : d ≠ '/' := by
          rintro rfl
          exact slashes ⟨[], others, rfl⟩
        simp [star, apart]
    have next : (CommentLayer.text reading).next c (more ++ quote :: rest).head? =
        .text reading := by
      rw [next_text plain, calm.next_eq (letters c List.mem_cons_self)]
    rw [List.cons_append, mask_text next, shorter]
    cases (CommentLayer.text reading).mask (quote :: rest) <;> rfl

/-- Outside of comments, text without slashes is shown as it is. -/
theorem mask_text_append {reading : Reading} {word rest masked : List Char} (slashes : '/' ∉ word)
    (read : (CommentLayer.text reading).mask (word ++ rest) = .ok masked) :
    ∃ more, masked = word ++ more := by
  induction word generalizing reading masked with
  | nil => exact ⟨masked, rfl⟩
  | cons c letters inductionHypothesis =>
    obtain ⟨other, later⟩ := not_or.mp (mt List.mem_cons.mpr slashes)
    rw [List.cons_append, mask_text (next_text (Or.inl (Ne.symm other)))] at read
    obtain ⟨remaining, inside, rfl⟩ := map_eq_ok.mp read
    obtain ⟨more, rfl⟩ := inductionHypothesis later inside
    exact ⟨more, rfl⟩

/-- Text without slashes is shown as a whole when its first character is shown. -/
theorem exists_append_of_mask {layer : CommentLayer} {front word rest masked : List Char}
    (slashes : '/' ∉ word) (first : ∃ c letters, word = c :: letters ∧ c ≠ ' ' ∧ c ≠ '\n')
    (read : layer.mask (front ++ (word ++ rest)) = .ok masked)
    (shows : masked[front.length]? = word.head?) :
    ∃ before more, masked = before ++ (word ++ more) ∧ before.length = front.length := by
  induction front generalizing layer masked with
  | nil =>
    obtain ⟨c, letters, rfl, filled, line⟩ := first
    obtain ⟨remaining, inside, rfl⟩ := map_eq_ok.mp read
    have here := Option.some.inj shows
    unfold shown at here
    split at here
    · next outside =>
      have text : layer.isText = true := by
        rw [beq_eq_false_iff_ne.mpr line, Bool.or_false, Bool.and_eq_true] at outside
        exact outside.1
      cases layer with
      | text reading =>
        obtain ⟨more, same⟩ := mask_text_append slashes read
        exact ⟨[], more, same, rfl⟩
      | line | opening | block | closing => cases text
    · exact absurd here.symm filled
  | cons d others inductionHypothesis =>
    rw [List.cons_append] at read
    obtain ⟨remaining, inside, rfl⟩ := map_eq_ok.mp read
    obtain ⟨before, more, rfl, length⟩ := inductionHypothesis inside shows
    exact ⟨_ :: before, more, rfl, congrArg (· + 1) length⟩

/-- A quote that is shown stands outside of comments. -/
theorem text_of_shown {layer following : CommentLayer} {quote : Char}
    (isQuote : quote = '\'' ∨ quote = '"') (shows : layer.shown following quote = quote) :
    layer.isText = true := by
  unfold shown at shows
  split at shows
  · next inside =>
    rcases isQuote with rfl | rfl
    all_goals
      simp at inside
      exact inside.1
  · rcases isQuote with rfl | rfl <;> exact absurd shows (by decide)

/-- Replacing a specifier between quotes replaces it in what is shown.

Induct on the text in front of the opening quote. At the quote the reading is calm, and it is the
same behind the old and behind the new specifier. -/
theorem mask_replaced {quote : Char} (isQuote : quote = '\'' ∨ quote = '"') {old new : List Char}
    (filled : IsSafe old) (refilled : IsSafe new) {front shownFront back shownBack : List Char}
    (length : front.length = shownFront.length) {layer : CommentLayer} (sound : layer.Sound)
    (read : layer.mask (front ++ quote :: (old ++ quote :: back)) =
      .ok (shownFront ++ quote :: (old ++ quote :: shownBack))) :
    layer.mask (front ++ quote :: (new ++ quote :: back)) =
      .ok (shownFront ++ quote :: (new ++ quote :: shownBack)) := by
  induction front generalizing shownFront layer with
  | nil =>
    obtain rfl := List.length_eq_zero_iff.mp length.symm
    obtain ⟨remaining, inside, same⟩ := map_eq_ok.mp read
    obtain ⟨shows, rfl⟩ := List.cons.inj same
    cases layer with
    | text reading =>
      have calm : (reading.next quote).Calm := Reading.Sound.calm_next sound isQuote
      have next (ahead : Option Char) :
          (CommentLayer.text reading).next quote ahead = .text (reading.next quote) :=
        next_text (Or.inl (by rcases isQuote with rfl | rfl <;> decide))
      rw [next, mask_safe calm filled.letters filled.slashes isQuote] at inside
      obtain ⟨rest, behind, whole⟩ := map_eq_ok.mp inside
      obtain rfl := List.append_cancel_left whole
      rw [List.nil_append, mask_text (next _),
        mask_safe calm refilled.letters refilled.slashes isQuote, behind]
      rfl
    | line | opening | block | closing =>
      exact absurd (text_of_shown isQuote shows) (by simp [isText])
  | cons c more inductionHypothesis =>
    cases shownFront with
    | nil => exact absurd length (by simp)
    | cons d others =>
      rw [List.cons_append, List.cons_append, mask] at read
      obtain ⟨remaining, inside, same⟩ := map_eq_ok.mp read
      obtain ⟨shows, rfl⟩ := List.cons.inj same
      have head (text : List Char) : (more ++ quote :: text).head? = (more ++ [quote]).head? := by
        cases more <;> rfl
      have length : more.length = others.length := by simpa using length
      rw [head] at inside shows
      have later := inductionHypothesis length (sound.next c _) inside
      rw [List.cons_append, mask, head, later, ← shows]
      rfl

end CommentLayer

/-- A specifier that is found without comments is there, and replacing it replaces nothing else. -/
theorem maskComments_replaced {text front old back : List Char} {quote : Char}
    (isQuote : quote = '\'' ∨ quote = '"') (filled : IsSafe old)
    (read : maskComments text = .ok (front ++ quote :: (old ++ quote :: back))) :
    ∃ before after, text = before ++ quote :: (old ++ quote :: after) ∧
      before.length = front.length ∧
      ∀ new, IsSafe new → maskComments (before ++ quote :: (new ++ quote :: after)) =
        .ok (front ++ quote :: (new ++ quote :: back)) := by
  have shown := CommentLayer.blanked_of_mask read
  have grouped : front ++ quote :: (old ++ quote :: back) =
      front ++ ((quote :: (old ++ [quote])) ++ back) := by
    simp
  rw [grouped] at shown
  obtain ⟨before, rest, shownBefore, shownRest, rfl⟩ := exists_append_of_rel shown
  obtain ⟨middle, after, shownMiddle, -, rfl⟩ := exists_append_of_rel shownRest
  have plain : ∀ c ∈ quote :: (old ++ [quote]), c ≠ ' ' := by
    have quoted : quote ≠ ' ' := by rcases isQuote with rfl | rfl <;> decide
    intro c listed
    simp only [List.mem_cons, List.mem_append, List.not_mem_nil, or_false] at listed
    rcases listed with rfl | listed | rfl
    · exact quoted
    · exact ne_of_isSafeChar (filled.letters c listed) (by decide)
    · exact quoted
  obtain rfl := Text.Blanked.eq_of_plain shownMiddle plain
  have whole : before ++ (quote :: (old ++ [quote]) ++ after) =
      before ++ quote :: (old ++ quote :: after) := by
    simp
  have length : before.length = front.length := shownBefore.length_eq.symm
  rw [whole] at read ⊢
  exact ⟨before, after, rfl, length, fun new refilled =>
    CommentLayer.mask_replaced isQuote filled refilled length trivial read⟩

end FeatureLayout.Code
