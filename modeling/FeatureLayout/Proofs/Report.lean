import FeatureLayout.Report
import FeatureLayout.Proofs.Text.Sorted
import Mathlib.Data.List.Perm.Basic

/-!
# Reports and the order of what was collected

The document of a report sorts all that a run collects, each list by a key of its own. The key of a
finding is all of it, except for what its code decides, so findings are always told apart; moves are
told apart by their sources and records of calls by their file and line, as long as no two of a
list have the same. Two reports then have one document exactly when they tell the same things,
however often and in whatever order these were collected: no list of the document shows an order
that is not made of what it lists, and none loses anything.
-/

namespace FeatureLayout

open Text

namespace ViolationCode

theorem text_injective : Function.Injective text := fun first second same =>
  Option.some.inj ((ofText?_text first).symm.trans (same ▸ ofText?_text second))

end ViolationCode

namespace Violation

variable {violations others : List Violation}

/-- Findings are compared by their codes, then by their paths, then by their messages. -/
theorem atMost_eq : Violation.atMost =
    refined Violation.code (fun first second => Text.atMost first.text second.text)
      (refined Violation.paths listAtMost fun first second =>
        Text.atMost first.message second.message) := by
  funext first second
  simp only [Violation.atMost, refined, ne_eq, ite_not]

/-- Codes are told apart by their names. -/
theorem tellsApart_code : TellsApart fun first second : ViolationCode =>
    Text.atMost first.text second.text :=
  fun _ _ one two => ViolationCode.text_injective (tellsApart_atMost _ _ one two)

theorem sorts_atMost : Sorts Violation.atMost := by
  rw [atMost_eq]
  exact (Text.sorts_atMost.on ViolationCode.text).refined tellsApart_code
    (sorts_listAtMost.refined tellsApart_listAtMost (Text.sorts_atMost.on Violation.message)
      Violation.paths) Violation.code

/-- The order of findings tells all of them apart. -/
theorem tellsApart_atMost : TellsApart Violation.atMost := by
  intro first second one two
  rw [atMost_eq] at one two
  obtain ⟨code, one, two⟩ := tellsApart_code.refined Violation.code one two
  obtain ⟨paths, one, two⟩ := tellsApart_listAtMost.refined Violation.paths one two
  have message := Text.tellsApart_atMost _ _ one two
  cases first
  cases second
  exact Violation.mk.injEq .. ▸ ⟨code, message, paths⟩

/-- Findings in order do not depend on the order in which they were found. -/
theorem ordered_congr (same : violations.Perm others) : ordered violations = ordered others :=
  sorts_atMost.mergeSort_congr same fun _ _ _ _ => tellsApart_atMost _ _

theorem ordered_perm (violations : List Violation) : (ordered violations).Perm violations :=
  List.mergeSort_perm violations _

theorem toJson_injective : Function.Injective Violation.toJson := by
  intro first second same
  simp only [Violation.toJson, Json.object.injEq, List.cons.injEq, Prod.mk.injEq, true_and,
    and_true, Json.text.injEq, Json.texts, Json.array.injEq] at same
  obtain ⟨code, message, -, paths⟩ := same
  have texts : Function.Injective Json.text := fun _ _ => Json.text.inj
  cases first
  cases second
  exact Violation.mk.injEq .. ▸ ⟨ViolationCode.text_injective code, message, texts.list_map paths⟩

end Violation

/-- The source that the document of a move tells. -/
def Move.sourceTold : Json → String
  | .object ((_, .text source) :: _) => source
  | _ => ""

/-- The owner and the source that the document of a move tells. -/
def Move.ownedTold : Json → String × String
  | .object ((_, .text source) :: _ :: (_, .text owner) :: _) => (owner, source)
  | _ => ("", "")

namespace CallRecord

/-- Where a call stands. -/
def place (record : CallRecord) : String × Int := (record.file, record.line)

/-- The place that the document of a record tells. -/
def placeTold : Json → String × Int
  | .object ((_, .text file) :: (_, .number line) :: _) => (file, line)
  | _ => ("", 0)

/-- The order of places: by file, then by line. -/
def placeAtMost : String × Int → String × Int → Bool :=
  refined Prod.fst Text.atMost fun first second => decide (first.2 ≤ second.2)

theorem sorts_placeAtMost : Sorts placeAtMost := by
  have byLine : Sorts fun first second : Int => decide (first ≤ second) :=
    ⟨fun _ _ _ => by simpa using Int.le_trans, fun _ _ => by simpa using Int.le_total _ _⟩
  exact sorts_atMost.refined tellsApart_atMost (byLine.on Prod.snd) Prod.fst

theorem tellsApart_placeAtMost : TellsApart placeAtMost := by
  intro first second one two
  obtain ⟨file, one, two⟩ := tellsApart_atMost.refined Prod.fst one two
  exact Prod.ext file (Int.le_antisymm (of_decide_eq_true one) (of_decide_eq_true two))

/-- Records that tell the same are told in the same order, when no two stand at one place. -/
theorem map_ordered_congr {records others : List CallRecord}
    (same : (records.map toJson).Perm (others.map toJson))
    (distinct : (records.map place).Nodup) :
    (ordered records).map toJson = (ordered others).map toJson :=
  sorts_placeAtMost.map_mergeSort_congr tellsApart_placeAtMost placeTold (fun _ => rfl) same
    distinct

end CallRecord

/-- Groups that are listed in another order, each with its members in another order. -/
def SameGroups (groups others : List (List String)) : Prop :=
  ∃ moved, groups.Perm moved ∧ List.Forall₂ List.Perm moved others

/-- Groups are the same exactly when they are after their members have been sorted. -/
theorem sameGroups_iff {groups others : List (List String)} :
    SameGroups groups others ↔ (groups.map sorted).Perm (others.map sorted) := by
  constructor
  · rintro ⟨moved, outer, inner⟩
    have same : moved.map sorted = others.map sorted := by
      induction inner generalizing groups with
      | nil => rfl
      | cons head _ inductionHypothesis =>
        rw [List.map_cons, List.map_cons, sorted_congr head, inductionHypothesis (.refl _)]
    exact same ▸ outer.map sorted
  · intro same
    have start : List.Forall₂ (fun group shown => sorted group = shown) groups
        (groups.map sorted) := by
      rw [List.forall₂_map_right_iff]
      exact List.forall₂_same.mpr fun _ _ => rfl
    have turned : Relation.Comp List.Perm
        (List.Forall₂ fun group shown => sorted group = shown) groups (others.map sorted) := by
      rw [← List.forall₂_comp_perm_eq_perm_comp_forall₂]
      exact ⟨_, start, same⟩
    obtain ⟨moved, outer, inner⟩ := turned
    rw [List.forall₂_map_right_iff] at inner
    refine ⟨moved, outer, inner.imp fun group other shown => ?_⟩
    exact (sorted_perm group).symm.trans (shown ▸ sorted_perm other)

namespace Report

/-- Two reports have collected the same, in whatever order. -/
structure SameCollected (first second : Report) : Prop where
  status : first.status = second.status
  dryRun : first.dryRun = second.dryRun
  moves : first.moves.Perm second.moves
  unreached : first.unreached.Perm second.unreached
  cycles : SameGroups first.cycles second.cycles
  substituted : first.substituted.Perm second.substituted
  flagged : first.flagged.Perm second.flagged
  violations : first.violations.Perm second.violations

/-- The keys of moves and of records of calls tell them apart: no two moves have one source, and no
two records of a list stand on one line of a file. -/
structure Distinct (report : Report) : Prop where
  moves : (report.moves.map (·.source)).Nodup
  substituted : (report.substituted.map CallRecord.place).Nodup
  flagged : (report.flagged.map CallRecord.place).Nodup

/-- Two reports have collected what documents tell alike. These do not tell the module path of a
move, nor the kind of a value that they write as a text. -/
structure ToldAlike (first second : Report) : Prop where
  status : first.status = second.status
  dryRun : first.dryRun = second.dryRun
  moves : (first.moves.map Move.toJson).Perm (second.moves.map Move.toJson)
  unreached : first.unreached.Perm second.unreached
  cycles : SameGroups first.cycles second.cycles
  substituted : (first.substituted.map CallRecord.toJson).Perm
    (second.substituted.map CallRecord.toJson)
  flagged : (first.flagged.map CallRecord.toJson).Perm (second.flagged.map CallRecord.toJson)
  violations : first.violations.Perm second.violations

variable {first second : Report}

/-- What has been collected alike is told alike. -/
theorem SameCollected.toldAlike (same : first.SameCollected second) : first.ToldAlike second :=
  { same with
    moves := same.moves.map _
    substituted := same.substituted.map _
    flagged := same.flagged.map _ }

/-- Sources under their owners, both sorted. -/
def grouped (owned : List (String × String)) : List (String × List String) :=
  (sortedDistinct (owned.map Prod.fst)).map fun owner =>
    (owner, sorted ((owned.filter (·.1 == owner)).map Prod.snd))

theorem grouped_congr {owned others : List (String × String)} (same : owned.Perm others) :
    grouped owned = grouped others := by
  rw [grouped, grouped, sortedDistinct_congr (same.map Prod.fst)]
  refine List.map_congr_left fun owner _ => ?_
  rw [sorted_congr ((same.filter _).map Prod.snd)]

/-- The files of each owner are read off what the documents of moves tell. -/
theorem filesByOwner_eq (report : Report) :
    report.filesByOwner = grouped ((report.moves.map Move.toJson).map Move.ownedTold) := by
  simp only [filesByOwner, grouped, List.map_map, List.filter_map]
  rfl

/-- Two lists that look alike in some order tell the same. -/
theorem perm_map_of_eq {α β : Type} {shown : α → β} {items others inOrder alsoInOrder : List α}
    (same : inOrder.map shown = alsoInOrder.map shown) (one : inOrder.Perm items)
    (two : alsoInOrder.Perm others) : (items.map shown).Perm (others.map shown) :=
  (one.map shown).symm.trans (same ▸ two.map shown)

theorem texts_injective : Function.Injective Json.texts := fun _ _ same => by
  have texts : Function.Injective Json.text := fun _ _ => Json.text.inj
  exact texts.list_map (Json.array.inj same)

/-- Findings with the fatal ones apart are the findings. -/
theorem perm_of_apart (fatal : first.fatal.Perm second.fatal)
    (warnings : first.warnings.Perm second.warnings) :
    first.violations.Perm second.violations :=
  (List.filter_append_perm Violation.isFatal first.violations).symm.trans
    ((fatal.append warnings).trans (List.filter_append_perm Violation.isFatal second.violations))

/-- Reports whose keys tell apart what they collected have one document exactly when they tell
alike. -/
theorem toJson_eq_iff (distinct : first.Distinct) :
    first.toJson = second.toJson ↔ first.ToldAlike second := by
  constructor
  · intro same
    simp only [toJson, Json.object.injEq, List.cons.injEq, Prod.mk.injEq, true_and, and_true,
      Json.text.injEq, Json.flag.injEq, Json.array.injEq] at same
    obtain ⟨status, dryRun, moves, -, unreached, cycles, substituted, flagged, warnings, fatal⟩ :=
      same
    exact
      { status := by
          revert status
          cases first.status <;> cases second.status <;> decide
        dryRun := dryRun
        moves := perm_map_of_eq moves (sortedBy_perm _ _) (sortedBy_perm _ _)
        unreached := (sorted_perm _).symm.trans (texts_injective unreached ▸ sorted_perm _)
        cycles := sameGroups_iff.mpr ((List.map_perm_map_iff texts_injective).mp
          (perm_map_of_eq cycles (List.mergeSort_perm _ _) (List.mergeSort_perm _ _)))
        substituted := perm_map_of_eq substituted (List.mergeSort_perm _ _)
          (List.mergeSort_perm _ _)
        flagged := perm_map_of_eq flagged (List.mergeSort_perm _ _) (List.mergeSort_perm _ _)
        violations := perm_of_apart
          ((List.map_perm_map_iff Violation.toJson_injective).mp
            (perm_map_of_eq fatal (Violation.ordered_perm _) (Violation.ordered_perm _)))
          ((List.map_perm_map_iff Violation.toJson_injective).mp
            (perm_map_of_eq warnings (Violation.ordered_perm _) (Violation.ordered_perm _))) }
  · intro alike
    have files : (sortedBy (·.source) first.moves).map Move.toJson =
        (sortedBy (·.source) second.moves).map Move.toJson :=
      sorts_atMost.map_mergeSort_congr tellsApart_atMost Move.sourceTold (fun _ => rfl) alike.moves
        distinct.moves
    have cycles : (first.cycles.map sorted).mergeSort listAtMost =
        (second.cycles.map sorted).mergeSort listAtMost :=
      sorts_listAtMost.mergeSort_congr (sameGroups_iff.mp alike.cycles)
        fun _ _ _ _ => tellsApart_listAtMost _ _
    have warnings : Violation.ordered first.warnings = Violation.ordered second.warnings :=
      Violation.ordered_congr (alike.violations.filter _)
    have fatal : Violation.ordered first.fatal = Violation.ordered second.fatal :=
      Violation.ordered_congr (alike.violations.filter _)
    rw [toJson, toJson, alike.status, alike.dryRun, files, filesByOwner_eq, filesByOwner_eq,
      grouped_congr (alike.moves.map _), sorted_congr alike.unreached, cycles,
      CallRecord.map_ordered_congr alike.substituted distinct.substituted,
      CallRecord.map_ordered_congr alike.flagged distinct.flagged, warnings, fatal]

/-- Reports that have collected the same, in whatever order, have one document and one summary. Any
other report has this document exactly when it tells alike. -/
theorem toJson_reordered (same : first.SameCollected second) (distinct : first.Distinct) :
    first.toJson = second.toJson ∧ first.summary = second.summary ∧
      first.isWritable = second.isWritable ∧
      ∀ other : Report, first.toJson = other.toJson ↔ first.ToldAlike other := by
  refine ⟨(toJson_eq_iff distinct).mpr same.toldAlike, ?summary, ?writable,
    fun other => toJson_eq_iff distinct⟩
  case summary =>
    have warnings : first.warnings.length = second.warnings.length :=
      (same.violations.filter _).length_eq
    have fatal : first.fatal.length = second.fatal.length := (same.violations.filter _).length_eq
    unfold summary
    rw [same.status, same.moves.length_eq, same.substituted.length_eq, warnings, fatal]
  case writable => rw [isWritable, isWritable, (same.substituted.append same.flagged).any_eq]

section Reordered

/-- A report with two of everything. -/
def pairedReport : Report :=
  { status := .failed
    dryRun := true
    moves := [⟨"b.ts", "utils/b.ts", "utils/b", .shared, .util⟩,
      ⟨"a.ts", "features/one/utils/a.ts", "features/one/utils/a", .feature "one", .util⟩]
    unreached := ["d.ts", "c.ts"]
    cycles := [["d.ts", "c.ts"], ["b.ts", "a.ts"]]
    substituted := [⟨"a.ts", 2, [("entry", .text "save")]⟩, ⟨"a.ts", 1, [("entry", .text "load")]⟩]
    flagged := [⟨"b.ts", 1, []⟩, ⟨"a.ts", 3, []⟩]
    violations := [⟨.deadCode, "unused", ["d.ts"]⟩, ⟨.missingPage, "no page", ["a.ts"]⟩] }

/-- The same report, collected the other way around. -/
def turnedReport : Report :=
  { pairedReport with
    moves := pairedReport.moves.reverse
    unreached := pairedReport.unreached.reverse
    cycles := [["a.ts", "b.ts"], ["c.ts", "d.ts"]]
    substituted := pairedReport.substituted.reverse
    flagged := pairedReport.flagged.reverse
    violations := pairedReport.violations.reverse }

theorem sameCollected_turned : pairedReport.SameCollected turnedReport where
  status := rfl
  dryRun := rfl
  moves := (List.reverse_perm _).symm
  unreached := (List.reverse_perm _).symm
  cycles := ⟨[["b.ts", "a.ts"], ["d.ts", "c.ts"]], .swap _ _ _,
    .cons (.swap _ _ _) (.cons (.swap _ _ _) .nil)⟩
  substituted := (List.reverse_perm _).symm
  flagged := (List.reverse_perm _).symm
  violations := (List.reverse_perm _).symm

theorem distinct_paired : pairedReport.Distinct := ⟨by decide, by decide, by decide⟩

theorem toJson_reordered_paired : pairedReport.SameCollected turnedReport ∧
    pairedReport.Distinct ∧ pairedReport.toJson = turnedReport.toJson :=
  ⟨sameCollected_turned, distinct_paired,
    (toJson_reordered sameCollected_turned distinct_paired).1⟩

end Reordered

end Report

end FeatureLayout
