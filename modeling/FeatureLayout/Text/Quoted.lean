import FeatureLayout.Text.Printable

/-!
# Quoted texts

Messages show names and resources between quotes. Single quotes are used unless the text holds a
single quote and no double quote; the quote in use, the backslash and unprintable characters are
escaped.
-/

namespace FeatureLayout.Text

/-- A code point in lower-case hexadecimal, padded with zeros to a width. -/
def hex (digits code : Nat) : List Char :=
  let shown := Nat.toDigits 16 code
  List.replicate (digits - shown.length) '0' ++ shown

/-- The escape of a character by its code point, with as many digits as its size asks for. -/
def codeEscape (c : Char) : List Char :=
  if c.toNat < 0x100 then '\\' :: 'x' :: hex 2 c.toNat
  else if c.toNat < 0x10000 then '\\' :: 'u' :: hex 4 c.toNat
  else '\\' :: 'U' :: hex 8 c.toNat

/-- One character inside quotes. -/
def quotedChar (quote c : Char) : List Char :=
  if c = quote ∨ c = '\\' then ['\\', c]
  else if c = '\n' then ['\\', 'n']
  else if c = '\r' then ['\\', 'r']
  else if c = '\t' then ['\\', 't']
  else if isPrintable c then [c]
  else codeEscape c

/-- The quote to put around a text. -/
def quoteFor (text : List Char) : Char :=
  if text.contains '\'' && !text.contains '"' then '"' else '\''

/-- A text between quotes, printable characters shown as they are. -/
def quoted (text : String) : String :=
  let quote := quoteFor text.toList
  String.ofList (quote :: text.toList.flatMap (quotedChar quote) ++ [quote])

/-- A text with escapes for what is not ASCII. -/
def inAscii (text : String) : String :=
  String.ofList (text.toList.flatMap fun c => if c.toNat < 0x80 then [c] else codeEscape c)

end FeatureLayout.Text
