import FeatureLayout.Proofs.Basic
import FeatureLayout.Text.Blank
import FeatureLayout.Text.Slice
import FeatureLayout.Text.Word
import Mathlib.Data.Bool.AllAny

/-!
# Blanks and words

No blank stands in a name. A text that is made of words with blanks in between is split into these
words, and trimming leaves alone what starts and ends with something else than a blank. Two texts
that are cut at the first place of a kind, or at the last one, are cut into the same parts.
-/

namespace FeatureLayout.Text

theorem occursIn_iff {part text : List Char} : occursIn part text = true ↔ part <:+: text := by
  induction text with
  | nil => rw [occursIn, List.isEmpty_iff, List.infix_nil]
  | cons c rest inductionHypothesis =>
    rw [occursIn, Bool.or_eq_true, List.isPrefixOf_iff_prefix, inductionHypothesis,
      List.infix_cons_iff]

section Letter

variable {c other : Char}

/-- Blanks are no word characters. -/
theorem isWord_of_isBlank (blank : isBlank c = true) : isWord c = false := by
  obtain ⟨codes, apart, listed⟩ : ∃ codes : List Nat,
      (∀ code ∈ codes, isWord (Char.ofNat code) = false) ∧ c.toNat ∈ codes := by
    refine ⟨[0x09, 0x0a, 0x0b, 0x0c, 0x0d, 0x1c, 0x1d, 0x1e, 0x1f, 0x20, 0x85, 0xa0, 0x1680, 0x2000,
      0x2001, 0x2002, 0x2003, 0x2004, 0x2005, 0x2006, 0x2007, 0x2008, 0x2009, 0x200a, 0x2028,
      0x2029, 0x202f, 0x205f, 0x3000], by decide +kernel, ?_⟩
    simp only [isBlank, Bool.or_eq_true, Bool.and_eq_true, decide_eq_true_eq, beq_iff_eq] at blank
    simp only [List.mem_cons, List.not_mem_nil, or_false]
    omega
  rw [← Char.ofNat_toNat c]
  exact apart _ listed

theorem ne_of_isBlank (blank : isBlank c = true) (refused : isBlank other = false) : c ≠ other := by
  rintro rfl
  rw [blank] at refused
  cases refused

theorem ne_of_isNameChar (letter : isNameChar c = true) (refused : isNameChar other = false) :
    c ≠ other := by
  rintro rfl
  rw [letter] at refused
  cases refused

theorem isNameChar_of_isBlank (blank : isBlank c = true) : isNameChar c = false := by
  have other : c ≠ '$' := ne_of_isBlank blank (by decide)
  simp [isNameChar, isWord_of_isBlank blank, other]

theorem isBlank_of_isNameChar (letter : isNameChar c = true) : isBlank c = false := by
  cases blank : isBlank c with
  | false => rfl
  | true =>
    rw [isNameChar_of_isBlank blank] at letter
    cases letter

end Letter

section Cut

variable {α : Type} (kind : α → Bool) {front back before behind : List α} {one other : α}

/-- Two texts that are cut at the first item of a kind are cut into the same parts. -/
theorem cut_first (same : front ++ one :: back = before ++ other :: behind)
    (clear : ∀ item ∈ front, kind item = false) (also : ∀ item ∈ before, kind item = false)
    (here : kind one = true) (there : kind other = true) :
    front = before ∧ one = other ∧ back = behind := by
  induction front generalizing before with
  | nil =>
    cases before with
    | nil => exact ⟨rfl, List.cons.inj same⟩
    | cons first rest =>
      obtain ⟨rfl, -⟩ := List.cons.inj same
      rw [also _ List.mem_cons_self] at here
      cases here
  | cons item more inductionHypothesis =>
    cases before with
    | nil =>
      obtain ⟨rfl, -⟩ := List.cons.inj same
      rw [clear _ List.mem_cons_self] at there
      cases there
    | cons first rest =>
      obtain ⟨rfl, later⟩ := List.cons.inj same
      obtain ⟨rfl, parts⟩ := inductionHypothesis later
        (fun item listed => clear item (List.mem_cons_of_mem _ listed))
        (fun item listed => also item (List.mem_cons_of_mem _ listed))
      exact ⟨rfl, parts⟩

/-- Two texts that are cut at the last item of a kind are cut into the same parts. -/
theorem cut_last (same : front ++ one :: back = before ++ other :: behind)
    (clear : ∀ item ∈ back, kind item = false) (also : ∀ item ∈ behind, kind item = false)
    (here : kind one = true) (there : kind other = true) :
    front = before ∧ one = other ∧ back = behind := by
  have turned : back.reverse ++ one :: front.reverse = behind.reverse ++ other :: before.reverse := by
    simpa using congrArg List.reverse same
  obtain ⟨ends, rfl, starts⟩ := cut_first kind turned
    (fun item listed => clear item (List.mem_reverse.mp listed))
    (fun item listed => also item (List.mem_reverse.mp listed)) here there
  exact ⟨List.reverse_injective starts, rfl, List.reverse_injective ends⟩

/-- A text with one item of a kind is cut there, wherever it is cut at such an item. -/
theorem cut_only (same : front ++ one :: back = before ++ other :: behind)
    (clear : ∀ item ∈ front, kind item = false) (also : ∀ item ∈ back, kind item = false)
    (there : kind other = true) : front = before ∧ one = other ∧ back = behind := by
  rcases List.append_eq_append_iff.mp same with ⟨between, rfl, split⟩ | ⟨between, rfl, split⟩
  · cases between with
    | nil => exact ⟨(List.append_nil _).symm, List.cons.inj split⟩
    | cons first rest =>
      obtain ⟨rfl, rfl⟩ := List.cons.inj split
      rw [also _ (List.mem_append_right _ List.mem_cons_self)] at there
      cases there
  · cases between with
    | nil =>
      obtain ⟨rfl, rfl⟩ := List.cons.inj split
      exact ⟨List.append_nil _, rfl, rfl⟩
    | cons first rest =>
      obtain ⟨rfl, rfl⟩ := List.cons.inj split
      rw [clear _ (List.mem_append_right _ List.mem_cons_self)] at there
      cases there

end Cut

section Words

variable {c : Char} {word text rest : List Char}

theorem wordsFrom_append (letters : ∀ c ∈ word, isBlank c = false) (current rest : List Char) :
    wordsFrom current (word ++ rest) = wordsFrom (word.reverse ++ current) rest := by
  induction word generalizing current with
  | nil => rfl
  | cons c more inductionHypothesis =>
    obtain ⟨letter, later⟩ := List.forall_mem_cons.mp letters
    rw [List.cons_append, wordsFrom, if_neg (by rw [letter]; exact Bool.false_ne_true),
      inductionHypothesis later, List.reverse_cons, List.append_assoc, List.singleton_append]

/-- A blank in front makes no word. -/
theorem words_blank (blank : isBlank c = true) : words (c :: rest) = words rest := by
  rw [words, wordsFrom, if_pos blank]
  rfl

/-- A text without blanks is one word. -/
theorem words_word (filled : word ≠ []) (letters : ∀ c ∈ word, isBlank c = false) :
    words word = [word] := by
  have read := wordsFrom_append letters [] []
  rw [List.append_nil, List.append_nil, wordsFrom, if_neg (by simpa using filled),
    List.reverse_reverse] at read
  exact read

/-- A word ends at a blank. -/
theorem words_append (filled : word ≠ []) (letters : ∀ c ∈ word, isBlank c = false)
    (blank : isBlank c = true) : words (word ++ c :: rest) = word :: words rest := by
  rw [words, wordsFrom_append letters, List.append_nil, wordsFrom, if_pos blank,
    if_neg (by simpa using filled), List.reverse_reverse]
  rfl

/-- Trimming leaves alone what starts and ends with something else than a blank. -/
theorem trim_eq_self (first : ∀ c, text.head? = some c → isBlank c = false)
    (last : ∀ c, text.getLast? = some c → isBlank c = false) : trim text = text := by
  have kept {part : List Char} (visible : ∀ c, part.head? = some c → isBlank c = false) :
      part.dropWhile isBlank = part := by
    cases part with
    | nil => rfl
    | cons c more =>
      rw [List.dropWhile_cons, if_neg (by rw [visible c rfl]; exact Bool.false_ne_true)]
  rw [trim, trimFront, kept first, trimBack, kept, List.reverse_reverse]
  intro c there
  rw [List.head?_reverse] at there
  exact last c there

end Words

end FeatureLayout.Text
