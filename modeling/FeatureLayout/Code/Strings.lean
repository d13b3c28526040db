import FeatureLayout.Code.Comments

/-!
# Blanking the contents of literals

The contents of string literals are replaced by blanks, between their quotes; so is the text of
template literals. The expressions inside a template are code and stay, together with any literals
they hold. A text without comments is expected.
-/

namespace FeatureLayout.Code

/-- Where a place stands with respect to literals and to the expressions inside templates. -/
inductive StringLayer where
  /-- In code, or in a quoted literal outside of templates. -/
  | flat (reading : Reading)
  /-- In the text of a template; `escaped` right after a backslash. -/
  | template (escaped : Bool)
  /-- In an expression inside a template, below `depth` open braces. -/
  | hole (depth : Nat) (reading : Reading)
  deriving DecidableEq, Repr

namespace StringLayer

/-- The layer after one more character, which the character behind it may decide. -/
def next : StringLayer → Char → Option Char → StringLayer
  | .flat .outside, '`', _ => .template false
  | .flat reading, c, _ => .flat (reading.next c)
  | .template true, _, _ => .template false
  | .template false, '\\', _ => .template true
  | .template false, '`', _ => .flat .outside
  | .template false, '$', some '{' => .hole 0 .outside
  | .template false, _, _ => .template false
  | .hole depth .outside, '{', _ => .hole (depth + 1) .outside
  | .hole depth .outside, '}', _ =>
    if depth ≤ 1 then .template false else .hole (depth - 1) .outside
  | .hole depth reading, c, _ => .hole depth (reading.next c)

/-- Whether a text that stops in a layer stops inside a template. -/
def opensTemplate : StringLayer → Bool
  | .flat _ => false
  | _ => true

/-- Whether a quoted literal is left open here: its line or the text ends. -/
def leftOpen (behind : Option Char) : Bool :=
  match behind with
  | none => true
  | some c => c == '\n'

/-- Whether a character is blanked. The quotes around a literal stay, and in a literal that is left
open an escaped quote at its very end passes for the closing one. -/
def blanks : StringLayer → Char → Option Char → Bool
  | .flat .outside, _, _ => false
  | .flat (.inside quote escaped), c, behind =>
    if escaped then !(c == quote && leftOpen behind) else c != quote
  | .template true, _, _ => true
  | .template false, c, behind => !(c == '`' || (c == '$' && behind == some '{'))
  | .hole _ _, _, _ => false

/-- The character shown for one in a layer. -/
def shown (layer : StringLayer) (c : Char) (behind : Option Char) : Char :=
  if layer.blanks c behind && c != '\n' then ' ' else c

/-- Blanks the contents of literals in the text that follows a layer. -/
def mask : StringLayer → List Char → Except ScanProblem (List Char)
  | layer, [] => if layer.opensTemplate then .error .openTemplate else .ok []
  | layer, c :: rest =>
    ((layer.next c rest.head?).mask rest).map (layer.shown c rest.head? :: ·)

/-- How many more characters belong to the template that is being read. -/
def templateLength : StringLayer → List Char → Except OpenTemplate Nat
  | .flat _, _ => .ok 0
  | _, [] => .error {}
  | layer, c :: rest => ((layer.next c rest.head?).templateLength rest).map (· + 1)

end StringLayer

/-- A text with the contents of its literals blanked. -/
def maskStrings (text : List Char) : Except ScanProblem (List Char) :=
  StringLayer.mask (.flat .outside) text

/-- How many characters after an opening backtick belong to its template, when the expressions in it
are read as code. -/
def templateLength (text : List Char) : Except OpenTemplate Nat :=
  StringLayer.templateLength (.template false) text

example : maskStrings "f('ab', `x$\x7bg('y')\x7dz`)".toList =
    .ok "f('  ', ` $\x7bg('y')\x7d `)".toList := rfl

end FeatureLayout.Code
