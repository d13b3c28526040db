/-!
# Sorted texts

Lists that an answer shows in sorted order are sorted by code point. All sorting is stable.
-/

namespace FeatureLayout.Text

/-- The order of texts by code point. -/
def atMost (first second : String) : Bool := decide (first ≤ second)

/-- Texts in increasing order. -/
def sorted (texts : List String) : List String := texts.mergeSort atMost

/-- Texts in increasing order, each once. -/
def sortedDistinct (texts : List String) : List String := sorted texts.eraseDups

/-- Items in increasing order of a text key; items of one key keep their order. -/
def sortedBy {α : Type} (key : α → String) (items : List α) : List α :=
  items.mergeSort fun first second => atMost (key first) (key second)

/-- The order of lists of texts, position by position; a list comes after its beginnings. -/
def listAtMost : List String → List String → Bool
  | [], _ => true
  | _ :: _, [] => false
  | a :: as, b :: bs => if a = b then listAtMost as bs else atMost a b

end FeatureLayout.Text
