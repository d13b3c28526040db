import FeatureLayout.Code.Literal

/-!
# Blanking comments

Line comments and block comments are replaced by blanks of the same length, so offsets and lines
stay valid. Literals are copied, and comment markers inside them mark nothing. A block comment that
is never closed, like a template that is never closed, is refused.
-/

namespace FeatureLayout.Code

/-- What keeps a text from being scanned. -/
inductive ScanProblem where
  | openComment
  | openTemplate
  deriving DecidableEq, Repr

/-- Where a place stands with respect to comments. -/
inductive CommentLayer where
  /-- Outside of comments. -/
  | text (reading : Reading)
  /-- In a comment that ends with its line. -/
  | line
  /-- At the second character of the marker that opens a block comment. -/
  | opening
  /-- In a block comment. -/
  | block
  /-- At the last character of a block comment. -/
  | closing
  deriving DecidableEq, Repr

namespace CommentLayer

/-- The layer after one more character, which the character behind it may decide. -/
def next : CommentLayer → Char → Option Char → CommentLayer
  | .text .outside, '/', some '/' => .line
  | .text .outside, '/', some '*' => .opening
  | .text reading, c, _ => .text (reading.next c)
  | .line, '\n', _ => .text .outside
  | .line, _, _ => .line
  | .opening, _, _ => .block
  | .block, '*', some '/' => .closing
  | .block, _, _ => .block
  | .closing, _, _ => .text .outside

/-- Whether a layer lies outside of comments. -/
def isText : CommentLayer → Bool
  | .text _ => true
  | _ => false

/-- What is wrong with a text that stops in a layer. -/
def problem? : CommentLayer → Option ScanProblem
  | .text reading => if reading.opensTemplate then some .openTemplate else none
  | .line => none
  | _ => some .openComment

/-- The character shown for one that lies between two layers: itself outside of comments, and a
blank for all of a comment but its line breaks. -/
def shown (layer following : CommentLayer) (c : Char) : Char :=
  if (layer.isText && following.isText) || c == '\n' then c else ' '

/-- Blanks the comments of the text that follows a layer. -/
def mask : CommentLayer → List Char → Except ScanProblem (List Char)
  | layer, [] =>
    match layer.problem? with
    | some problem => .error problem
    | none => .ok []
  | layer, c :: rest =>
    let following := layer.next c rest.head?
    (following.mask rest).map (layer.shown following c :: ·)

end CommentLayer

/-- A text with its comments blanked. -/
def maskComments (text : List Char) : Except ScanProblem (List Char) :=
  CommentLayer.mask (.text .outside) text

example : maskComments "a /* b\nc */ d // '\n'//'".toList =
    .ok "a     \n     d     \n'//'".toList := rfl

example : maskComments "/*/".toList = .error .openComment := rfl

end FeatureLayout.Code
