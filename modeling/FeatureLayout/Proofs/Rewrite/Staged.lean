import FeatureLayout.Proofs.Ledger
import FeatureLayout.Rewrite.Staged

/-!
# What is staged

A text is staged for every planned file that has one, and for no other: its text with all of its
edits, or its own text when these overlap.
-/

namespace FeatureLayout

namespace Staged

/-- The staged form of a text with edits. -/
def textOf (edits : List Edit) (content : String) : String :=
  match Edit.applyAll edits content.toList with
  | .ok text => String.ofList text
  | .error _ => content

variable (index : SourceIndex) (layout : Layout) (rewrite : ImportRewrite)
  (substitution : Substitution)

/-- Staging a file enters its staged form. -/
theorem find?_addFile (staged : Staged) (source content : String) (edits : List Edit)
    (tested : String) :
    (staged.addFile source content edits).texts.find? tested =
      if source = tested then some (textOf edits content) else staged.texts.find? tested := by
  unfold addFile textOf
  cases Edit.applyAll edits content.toList with
  | ok text => exact Ledger.find?_put _ _ _ _
  | error overlap => exact Ledger.find?_put _ _ _ _

/-- Staging the file of a move enters its staged form, if it has a text. -/
theorem find?_addMove (staged : Staged) (move : Move) (tested : String) :
    (addMove index rewrite substitution staged move).texts.find? tested =
      if move.source = tested then
        (((index.file? tested).bind (·.content)).map
          (textOf (rewrite.editsFor tested ++ substitution.editsFor tested))).or
            (staged.texts.find? tested)
      else staged.texts.find? tested := by
  unfold addMove
  by_cases same : move.source = tested
  · subst same
    cases (index.file? move.source).bind (·.content) with
    | none => simp
    | some text => simp [find?_addFile]
  · cases (index.file? move.source).bind (·.content) with
    | none => simp [same]
    | some text => simp [find?_addFile, same]

/-- The staged texts are those of the planned files that have a text. -/
theorem find?_ofEdits (source : String) :
    (ofEdits index layout rewrite substitution).texts.find? source =
      if source ∈ layout.moves.values.map (·.source) then
        ((index.file? source).bind (·.content)).map
          (textOf (rewrite.editsFor source ++ substitution.editsFor source))
      else none := by
  have entered (moves : List Move) (staged : Staged) :
      (moves.foldl (addMove index rewrite substitution) staged).texts.find? source =
        if source ∈ moves.map (·.source) then
          (((index.file? source).bind (·.content)).map
            (textOf (rewrite.editsFor source ++ substitution.editsFor source))).or
              (staged.texts.find? source)
        else staged.texts.find? source := by
    induction moves generalizing staged with
    | nil => simp
    | cons move rest inductionHypothesis =>
      rw [List.foldl_cons, inductionHypothesis, find?_addMove]
      cases (index.file? source).bind (·.content) with
      | none => simp
      | some text =>
        by_cases same : move.source = source
        · simp [same]
        · simp [same, Ne.symm same]
  rw [ofEdits, entered]
  simp

/-- Staging a file keeps the findings, and adds one when its edits overlap. -/
theorem errors_addFile (staged : Staged) (source content : String) (edits : List Edit) :
    staged.errors ⊆ (staged.addFile source content edits).errors ∧
      ∀ overlap, Edit.applyAll edits content.toList = .error overlap →
        .overlappingEdits source overlap ∈ (staged.addFile source content edits).errors := by
  unfold addFile
  cases Edit.applyAll edits content.toList with
  | ok text => exact ⟨List.Subset.refl _, fun overlap fails => by cases fails⟩
  | error found =>
    refine ⟨List.subset_append_left _ _, fun overlap fails => ?_⟩
    obtain rfl := Except.error.inj fails
    exact List.mem_append_right _ List.mem_cons_self

/-- Staging files keeps the findings. -/
theorem errors_foldl_addMove (moves : List Move) (staged : Staged) :
    staged.errors ⊆ (moves.foldl (addMove index rewrite substitution) staged).errors := by
  induction moves generalizing staged with
  | nil => exact List.Subset.refl _
  | cons move rest inductionHypothesis =>
    rw [List.foldl_cons]
    refine List.Subset.trans ?_ (inductionHypothesis _)
    unfold addMove
    split
    · exact List.Subset.refl _
    · exact (errors_addFile staged _ _ _).1

/-- When nothing fatal is found, the edits of every planned text are applied. -/
theorem exists_applied_of_errors {index : SourceIndex} {layout : Layout} {rewrite : ImportRewrite}
    {substitution : Substitution}
    (fine : ∀ problem ∈ (ofEdits index layout rewrite substitution).errors,
      problem.isFatal = false)
    {move : Move} (planned : move ∈ layout.moves.values) {content : String}
    (read : (index.file? move.source).bind (·.content) = some content) :
    ∃ text, Edit.applyAll (rewrite.editsFor move.source ++ substitution.editsFor move.source)
      content.toList = .ok text := by
  cases applied : Edit.applyAll
      (rewrite.editsFor move.source ++ substitution.editsFor move.source) content.toList with
  | ok text => exact ⟨text, rfl⟩
  | error overlap =>
    obtain ⟨front, back, split⟩ := List.append_of_mem planned
    have reported : Diagnostic.overlappingEdits move.source overlap ∈
        (ofEdits index layout rewrite substitution).errors := by
      rw [ofEdits, split, List.foldl_append, List.foldl_cons]
      refine errors_foldl_addMove index rewrite substitution back _ ?_
      rw [addMove, read]
      exact (errors_addFile _ move.source content _).2 overlap applied
    cases fine _ reported

end Staged

end FeatureLayout
