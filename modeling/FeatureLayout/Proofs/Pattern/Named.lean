import FeatureLayout.Proofs.Code.Standing
import FeatureLayout.Proofs.Pattern.Order

/-!
# Searching for names

A search for some names finds one of them at every place where one stands, and nothing else. It
passes over none of these places: a name that it has found reaches over no place where another name
could start.
-/

namespace FeatureLayout

open Text Code

namespace Pattern

/-- One of some names, standing for itself. -/
def oneOf (names : List String) : Pattern Unit :=
  sequence [.notAfter isNameChar, choice (names.map exactly), .wordEdge]

/-- Whatever is looked for, what is found ends at the edge of a word and does not start behind one:
it reaches up to a word character. -/
theorem exists_word_of_mem_search {names : List String} {text : List Char} {found : Match Unit}
    (listed : found ∈ (oneOf names).search text) :
    ∃ place c, found.span.start ≤ place ∧ place ≤ found.span.stop ∧ text[place]? = some c ∧
      isWord c = true := by
  obtain ⟨front, cursor, leads, among⟩ := exists_place_of_mem_search listed
  obtain ⟨last, fits, rfl⟩ := List.mem_map.mp among
  obtain ⟨first, starts, fits⟩ := List.mem_flatMap.mp fits
  obtain ⟨middle, chosen, edge⟩ := List.mem_flatMap.mp fits
  obtain ⟨ends, rfl⟩ := mem_wordEdge.mp edge
  rw [successes_notAfter] at starts
  split at starts
  · exact absurd starts List.not_mem_nil
  · next fresh =>
    obtain rfl := List.mem_singleton.mp starts
    obtain ⟨⟨passed, passes⟩, -⟩ := leads_of_mem_successes chosen
    dsimp only at fresh passes ⊢
    have place : cursor.offset = front.length := leads.offset.trans (Nat.zero_add _)
    have stop := passes.offset
    have whole : text = front ++ (passed ++ last.cursor.ahead) := passes.text ▸ leads.text
    cases ahead : last.cursor.ahead.head?.any isWord with
    | true =>
      obtain ⟨c, next, word⟩ := (Option.any_eq_true _ _).mp ahead
      refine ⟨last.cursor.offset, c, by omega, Nat.le_refl _, ?_, word⟩
      rw [whole, List.getElem?_append_right (by omega), List.getElem?_append_right (by omega),
        ← next, List.head?_eq_getElem?]
      congr 1
      omega
    | false =>
      rw [Cursor.atWordEdge, ahead, Bool.bne_false] at ends
      obtain ⟨c, before, word⟩ := (Option.any_eq_true _ _).mp ends
      -- the word in front of the end cannot be in front of the start as well
      have filled : passed ≠ [] := by
        rintro rfl
        rw [passes.eq_of_nil] at before
        rw [before, Option.any_some, isNameChar, word] at fresh
        exact fresh rfl
      have length := List.length_pos_iff.mpr filled
      rw [passes.before, List.getLast?_eq_some_getLast filled, Option.some_or,
        ← List.getLast?_eq_some_getLast filled, List.getLast?_eq_getElem?] at before
      refine ⟨last.cursor.offset - 1, c, by omega, by omega, ?_, word⟩
      rw [whole, List.getElem?_append_right (by omega), List.getElem?_append_left (by omega),
        ← before]
      congr 1
      omega

/-- A name stands at a place when it is ahead of it, in front of no word character and behind none
that it could continue. -/
theorem standsAt_iff {text front name : List Char} {cursor : Cursor}
    (leads : (Cursor.start text).Leads front cursor) :
    StandsAt name text cursor.offset ↔
      cursor.before.any isNameChar = false ∧
        ∃ rest, cursor.ahead = name ++ rest ∧ rest.head?.any isWord = false := by
  have whole : text = front ++ cursor.ahead := leads.text
  have place : cursor.offset = front.length := leads.offset.trans (Nat.zero_add _)
  have last : cursor.before = front.getLast? := leads.before.trans Option.or_none
  rw [place, last, whole]
  exact standsAt_append_iff

/-- Behind a whole name, a word ends where no word character follows. -/
theorem atWordEdge_iff {start cursor : Cursor} {name : List Char} (whole : IsWhole name)
    (leads : start.Leads name cursor) :
    cursor.atWordEdge = true ↔ cursor.ahead.head?.any isWord = false := by
  obtain ⟨c, last, word⟩ := whole.last
  rw [Cursor.atWordEdge, leads.before, last, Option.some_or, Option.any_some, word]
  cases cursor.ahead.head?.any isWord with
  | true => simp
  | false => simp

variable {names : List String} {text front : List Char} {cursor : Cursor}
  (whole : ∀ name ∈ names, IsWhole name.toList)

include whole

/-- What fits is a name that stands at the place. -/
theorem exists_standsAt (some : names ≠ []) (leads : (Cursor.start text).Leads front cursor)
    {found : Match Unit} (listed : found ∈ (oneOf names).matchesAt cursor) :
    ∃ name ∈ names, found.text = name.toList ∧
      found.span = ⟨cursor.offset, cursor.offset + name.toList.length⟩ ∧
      StandsAt name.toList text cursor.offset := by
  obtain ⟨last, fits, rfl⟩ := List.mem_map.mp listed
  obtain ⟨first, starts, fits⟩ := List.mem_flatMap.mp fits
  obtain ⟨middle, chosen, edge⟩ := List.mem_flatMap.mp fits
  obtain ⟨ends, rfl⟩ := mem_wordEdge.mp edge
  rw [successes_notAfter] at starts
  split at starts
  · exact absurd starts List.not_mem_nil
  · next fresh =>
    obtain rfl := List.mem_singleton.mp starts
    obtain ⟨name, among, passes⟩ := leads_of_mem_choice chosen
    have present := among.resolve_left fun none => some none.1
    have ahead : cursor.ahead = name.toList ++ last.cursor.ahead := passes.text
    have offset : last.cursor.offset = cursor.offset + name.toList.length := passes.offset
    refine ⟨name, present, ?_, ?_, (standsAt_iff leads).mpr ⟨by simpa using fresh, _, ahead, ?_⟩⟩
    · dsimp only
      rw [offset, Nat.add_sub_cancel_left, ahead, List.take_left]
    · rw [← offset]
    · exact (atWordEdge_iff (whole name present) passes).mp ends

/-- Where a name stands, something that is not empty fits. -/
theorem exists_mem_matchesAt {name : String} (listed : name ∈ names)
    (leads : (Cursor.start text).Leads front cursor)
    (stands : StandsAt name.toList text cursor.offset) :
    ∃ found ∈ (oneOf names).matchesAt cursor, found.span.stop ≠ cursor.offset := by
  obtain ⟨fresh, rest, ahead, edge⟩ := (standsAt_iff leads).mp stands
  have begins : (⟨cursor, []⟩ : Reached Unit).cursor.ahead = name.toList ++ rest := ahead
  obtain ⟨middle, fits⟩ := exists_mem_exactly begins
  have passes := leads_of_mem_exactly fits
  have behind : middle.cursor.ahead = rest :=
    (List.append_cancel_left (ahead.symm.trans passes.text)).symm
  have ends : middle.cursor.atWordEdge = true := by
    rw [atWordEdge_iff (whole name listed) passes, behind]
    exact edge
  have starts : (⟨cursor, []⟩ : Reached Unit) ∈
      (Pattern.notAfter isNameChar).successes ⟨cursor, []⟩ := by
    simp [successes_notAfter, fresh]
  have chosen := mem_choice (List.mem_map.mpr ⟨name, listed, rfl⟩) fits
  refine ⟨_, List.mem_map.mpr ⟨middle, List.mem_flatMap.mpr ⟨_, starts, List.mem_flatMap.mpr
    ⟨middle, chosen, mem_wordEdge.mpr ⟨ends, rfl⟩⟩⟩, rfl⟩, ?_⟩
  have offset : middle.cursor.offset = cursor.offset + name.toList.length := passes.offset
  have filled := List.length_pos_iff.mpr (whole name listed).ne_nil
  dsimp only
  omega

/-- What a search finds are names, where they stand. -/
theorem exists_standsAt_of_mem_search (some : names ≠ []) {found : Match Unit}
    (listed : found ∈ (oneOf names).search text) :
    ∃ name ∈ names, found.text = name.toList ∧
      found.span = ⟨found.span.start, found.span.start + name.toList.length⟩ ∧
      StandsAt name.toList text found.span.start := by
  obtain ⟨front, cursor, leads, fits⟩ := exists_place_of_mem_search listed
  obtain ⟨name, present, same, span, stands⟩ := exists_standsAt whole some leads fits
  have start : found.span.start = cursor.offset := by rw [span]
  rw [start]
  exact ⟨name, present, same, span, stands⟩

/-- A search finds something at every place where a name stands. -/
theorem exists_mem_search (some : names ≠ []) {name : String} (listed : name ∈ names) {place : Nat}
    (stands : StandsAt name.toList text place) :
    ∃ found ∈ (oneOf names).search text, found.span.start = place := by
  have inside : place ≤ text.length := by
    obtain ⟨c, rest, letters⟩ := List.exists_cons_of_ne_nil (whole name listed).ne_nil
    have there := stands.letters 0 c (by rw [letters]; rfl)
    exact Nat.le_of_lt (List.getElem?_eq_some_iff.mp there).1
  obtain ⟨front, cursor, leads, rfl⟩ := Cursor.Leads.exists_place inside
  obtain ⟨candidate, fits, filled⟩ := exists_mem_matchesAt whole listed leads stands
  obtain ⟨found, among, starts, covers⟩ := exists_covering leads fits filled
  refine ⟨found, among, Nat.le_antisymm starts ?_⟩
  obtain ⟨other, present, -, span, reaching⟩ := exists_standsAt_of_mem_search whole some among
  by_contra early
  -- The character in front of the place would belong to the name that was found.
  obtain ⟨shift, before⟩ := Nat.exists_eq_add_of_lt (Nat.lt_of_not_le early)
  have within : shift < other.toList.length := by
    have stop := congrArg Span.stop span
    dsimp only at stop
    omega
  have letter := (whole other present).letters _ (List.getElem_mem within)
  have there := reaching.letters shift _ (List.getElem?_eq_getElem within)
  rw [stands.fresh (found.span.start + shift) _ (by omega) there] at letter
  cases letter

end Pattern

end FeatureLayout
