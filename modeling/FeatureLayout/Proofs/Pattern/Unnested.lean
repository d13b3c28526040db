import FeatureLayout.Proofs.Pattern.Order

/-!
# Searches that jump over nothing

A search goes on behind what it has found, and so may jump over matches that start inside of another
one. When there are none of these, what it finds are the preferred matches of all places. What it
finds in two texts can then be compared place by place.
-/

namespace FeatureLayout

namespace Cursor

variable {text front : List Char} {place : Nat} {cursor : Cursor}

/-- The cursor at a place of a text. -/
def inText (text : List Char) (place : Nat) : Cursor :=
  ⟨(text.take place).getLast?, text.drop place, place⟩

theorem leads_inText (inside : place ≤ text.length) :
    (Cursor.start text).Leads (text.take place) (inText text place) where
  text := (List.take_append_drop place text).symm
  offset := by
    rw [List.length_take, Nat.min_eq_left inside]
    exact (Nat.zero_add place).symm
  before := Option.or_none.symm

/-- A cursor in a text is determined by its offset. -/
theorem Leads.eq_inText (leads : (Cursor.start text).Leads front cursor) :
    cursor = inText text cursor.offset ∧ cursor.offset ≤ text.length := by
  obtain ⟨whole, offset, before⟩ := leads
  obtain ⟨last, ahead, place⟩ := cursor
  obtain rfl : text = front ++ ahead := whole
  obtain rfl : place = front.length := offset.trans (Nat.zero_add _)
  obtain rfl : last = front.getLast? := before.trans Option.or_none
  simp [inText]

end Cursor

namespace Pattern

variable {κ : Type} {pattern : Pattern κ} {text rest : List Char} {found : Match κ}

/-- In a text, a pattern fits no empty stretches, and none starts inside of another. -/
structure Unnested (pattern : Pattern κ) (text : List Char) : Prop where
  filled : ∀ place, ∀ found ∈ pattern.matchesAt (.inText text place), place < found.span.stop
  apart : ∀ first, ∀ one ∈ pattern.matchesAt (.inText text first),
    ∀ second, ∀ two ∈ pattern.matchesAt (.inText text second),
      first < second → one.span.stop ≤ second

namespace Unnested

variable (unnested : Unnested pattern text)

include unnested

/-- Only the preferred match of a place is reported. -/
theorem head?_of_mem_report {place : Nat}
    (listed : found ∈ (pattern.report (.inText text place)).1) :
    (pattern.matchesAt (.inText text place)).head? = some found := by
  unfold report at listed
  dsimp only at listed
  cases matched : pattern.matchesAt (.inText text place) with
  | nil =>
    rw [matched] at listed
    exact absurd listed List.not_mem_nil
  | cons preferred others =>
    have filled := unnested.filled place preferred (matched ▸ List.mem_cons_self)
    rw [matched] at listed
    dsimp only at listed
    rw [if_neg (by simp only [Cursor.inText]; omega)] at listed
    rw [List.mem_singleton.mp listed, List.head?_cons]

/-- What a search finds is the preferred match of its place. -/
theorem exists_head?_of_mem_search (listed : found ∈ pattern.search text) :
    ∃ place ≤ text.length, (pattern.matchesAt (.inText text place)).head? = some found := by
  obtain ⟨front, cursor, leads, reported⟩ := exists_report_of_mem_search listed
  obtain ⟨same, inside⟩ := leads.eq_inText
  rw [same] at reported
  exact ⟨cursor.offset, inside, unnested.head?_of_mem_report reported⟩

/-- A search finds the preferred match of every place, and nothing else. -/
theorem mem_search_iff : found ∈ pattern.search text ↔
    ∃ place ≤ text.length, (pattern.matchesAt (.inText text place)).head? = some found := by
  constructor
  · exact unnested.exists_head?_of_mem_search
  · rintro ⟨place, inside, preferred⟩
    have fits := List.mem_of_mem_head? preferred
    have filled := unnested.filled place found fits
    obtain ⟨other, listed, early, covers⟩ :=
      exists_covering (Cursor.leads_inText inside) fits (Nat.ne_of_gt filled)
    obtain ⟨start, -, head⟩ := unnested.exists_head?_of_mem_search listed
    have there := List.mem_of_mem_head? head
    have starts : other.span.start = start := (span_of_mem_matchesAt there).1
    have same : start = place := by
      by_contra differs
      dsimp only [Cursor.inText] at early covers
      have ends := unnested.apart start other there place found fits (by omega)
      omega
    subst same
    obtain rfl := Option.some.inj (head.symm.trans preferred)
    exact listed

/-- The matches of a search start one behind the other. -/
theorem search_increasing :
    (pattern.search text).Pairwise fun first second => first.span.start < second.span.start := by
  refine (search_row pattern text).imp_of_mem fun {first} {second} listed also behind => ?_
  obtain ⟨place, -, preferred⟩ := unnested.mem_search_iff.mp listed
  have fits := List.mem_of_mem_head? preferred
  have starts := (span_of_mem_matchesAt fits).1
  have filled := unnested.filled place first fits
  dsimp only [Cursor.inText] at starts
  omega

/-- When the preferred matches of one text are those of another text at some of its places, a search
in the one finds what a search in the other finds at these places. -/
theorem search_eq_filter (also : Unnested pattern rest) (length : rest.length = text.length)
    {shows : Nat → Bool} (alike : ∀ place ≤ text.length, ∀ found,
      (pattern.matchesAt (.inText rest place)).head? = some found ↔
        shows place = true ∧ (pattern.matchesAt (.inText text place)).head? = some found) :
    pattern.search rest = (pattern.search text).filter fun found => shows found.span.start := by
  have increasing := unnested.search_increasing.filter fun found => shows found.span.start
  have distinct {matched : List (Match κ)}
      (row : matched.Pairwise fun first second => first.span.start < second.span.start) :
      matched.Nodup := row.imp fun behind same => absurd behind (by rw [same]; exact Nat.lt_irrefl _)
  refine List.Perm.eq_of_pairwise (fun first second _ _ behind before => ?_)
    also.search_increasing increasing ?_
  · exact absurd behind (Nat.lt_asymm before)
  refine (List.perm_ext_iff_of_nodup (distinct also.search_increasing) (distinct increasing)).mpr
    fun found => ?_
  rw [List.mem_filter, also.mem_search_iff, unnested.mem_search_iff, length]
  constructor
  · rintro ⟨place, inside, preferred⟩
    obtain ⟨shown, there⟩ := (alike place inside found).mp preferred
    have starts : found.span.start = place :=
      (span_of_mem_matchesAt (List.mem_of_mem_head? there)).1
    exact ⟨⟨place, inside, there⟩, starts ▸ shown⟩
  · rintro ⟨⟨place, inside, preferred⟩, shown⟩
    have starts : found.span.start = place :=
      (span_of_mem_matchesAt (List.mem_of_mem_head? preferred)).1
    exact ⟨place, inside, (alike place inside found).mpr ⟨starts ▸ shown, preferred⟩⟩

end Unnested

end Pattern

end FeatureLayout
