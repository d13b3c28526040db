import FeatureLayout.Persistence.Substitution
import FeatureLayout.Rewrite.Imports

/-!
# Staged texts

The staged text of a planned source file is its text with the edits of its imports and of its
storage calls. When edits overlap, the text is staged unchanged and the overlap is an error.
-/

namespace FeatureLayout

/-- The rewritten texts by source. -/
structure Staged where
  texts : Ledger String String
  errors : List Diagnostic

namespace Staged

/-- Stages one file. -/
def addFile (staged : Staged) (source content : String) (edits : List Edit) : Staged :=
  match Edit.applyAll edits content.toList with
  | .ok text => { staged with texts := staged.texts.put source (String.ofList text) }
  | .error overlap =>
    ⟨staged.texts.put source content, staged.errors ++ [.overlappingEdits source overlap]⟩

/-- Stages the file of a move, if it has a text. -/
def addMove (index : SourceIndex) (rewrite : ImportRewrite) (substitution : Substitution)
    (staged : Staged) (move : Move) : Staged :=
  match (index.file? move.source).bind (·.content) with
  | none => staged
  | some content =>
    staged.addFile move.source content
      (rewrite.editsFor move.source ++ substitution.editsFor move.source)

/-- Stages all planned source files. -/
def ofEdits (index : SourceIndex) (layout : Layout) (rewrite : ImportRewrite)
    (substitution : Substitution) : Staged :=
  layout.moves.values.foldl (addMove index rewrite substitution) ⟨.empty, []⟩

end Staged

end FeatureLayout
