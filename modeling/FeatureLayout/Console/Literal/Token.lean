/-!
# Tokens of literals

Literals are made of numbers, quoted texts, a few words, signs, commas, colons and brackets. Numbers
may be written in four bases, with a fraction or a power of ten, and with a mark that makes them
imaginary; single underscores may stand between digits. A letter before a quote says whether
backslashes are escapes and whether the text is one of bytes. Behind a number sign all is comment.
-/

namespace FeatureLayout.Literal

/-- A token of a literal. -/
inductive Token where
  | real
  | imaginary
  | text (bytes : Bool)
  /-- A word or a mark that stands for one value. -/
  | constant
  /-- The word that makes an empty set when empty brackets follow. -/
  | setName
  | sign
  | comma
  | colon
  | opening (curly : Bool)
  | closing (curly : Bool)
  deriving DecidableEq, Repr

/-- Whether a character belongs to numbers and words. -/
def isWordChar (c : Char) : Bool := c.isAlphanum || c == '_'

/-- Whether a character is a hexadecimal digit. -/
def isHexDigit (c : Char) : Bool := c.isDigit || ('a' ≤ c.toLower && c.toLower ≤ 'f')

/-- Whether a text is made of digits, with single underscores between them. -/
def areDigits (isDigit : Char → Bool) : List Char → Bool
  | [] => false
  | [c] => isDigit c
  | c :: '_' :: rest => isDigit c && areDigits isDigit rest
  | c :: rest => isDigit c && areDigits isDigit rest

/-- Whether a text is made of digits behind the mark of a base, perhaps after an underscore. -/
def areMarkedDigits (isDigit : Char → Bool) : List Char → Bool
  | '_' :: digits => areDigits isDigit digits
  | digits => areDigits isDigit digits

/-- Whether a text is the power of a number: absent, or digits behind a letter and perhaps a sign.
-/
def isPower : List Char → Bool
  | [] => true
  | _ :: '+' :: digits | _ :: '-' :: digits => areDigits Char.isDigit digits
  | _ :: digits => areDigits Char.isDigit digits

/-- Whether a text is a number in base ten. Whole numbers do not begin with a zero, unless they are
zero or `loose`. -/
def isDecimalNumber (loose : Bool) (text : List Char) : Bool :=
  let isMark (c : Char) := c == 'e' || c == 'E'
  let front := text.takeWhile (!isMark ·)
  let power := text.dropWhile (!isMark ·)
  let whole := front.takeWhile (· != '.')
  isPower power &&
    match front.dropWhile (· != '.') with
    | [] =>
      areDigits Char.isDigit whole &&
        (loose || !power.isEmpty || whole.head? != some '0' ||
          whole.all fun c => c == '0' || c == '_')
    | _ :: fraction =>
      (whole.isEmpty || areDigits Char.isDigit whole) &&
        (fraction.isEmpty || areDigits Char.isDigit fraction) &&
        !(whole.isEmpty && fraction.isEmpty)

/-- The token of a number, if a text is one. -/
def numberToken? (text : List Char) : Option Token :=
  let real (holds : Bool) : Option Token := if holds then some .real else none
  match text with
  | '0' :: 'x' :: digits | '0' :: 'X' :: digits => real (areMarkedDigits isHexDigit digits)
  | '0' :: 'o' :: digits | '0' :: 'O' :: digits =>
    real (areMarkedDigits (fun c => '0' ≤ c && c ≤ '7') digits)
  | '0' :: 'b' :: digits | '0' :: 'B' :: digits =>
    real (areMarkedDigits (fun c => c == '0' || c == '1') digits)
  | text =>
    if text.getLast? == some 'j' || text.getLast? == some 'J' then
      if isDecimalNumber true text.dropLast then some .imaginary else none
    else real (isDecimalNumber false text)

/-- Whether a number at the front of a text may have a sign inside. -/
def maySign : List Char → Bool
  | '0' :: mark :: _ => !"xXoObB".toList.contains mark
  | _ => true

/-- What belongs to a number, given the character before. A sign belongs to it behind the mark of a
power. -/
def numberRun (signed : Bool) : Char → List Char → List Char
  | _, [] => []
  | before, c :: rest =>
    let isSign := signed && (c == '+' || c == '-') && (before == 'e' || before == 'E')
    if isWordChar c || c == '.' || isSign then c :: numberRun signed c rest else []

/-- Whether a backslash and a character begin an escape that what follows completes. -/
def isEscape (bytes : Bool) (mark : Char) (rest : List Char) : Bool :=
  let areHex (count : Nat) : Bool :=
    (rest.take count).length == count && (rest.take count).all isHexDigit
  if mark == 'x' then areHex 2
  else if bytes then mark.toNat < 0x80
  else if mark == 'u' then areHex 4
  else if mark == 'U' then
    areHex 8 && (rest.take 3 == "000".toList || rest.take 4 == "0010".toList)
  else mark != 'N'

/-- What follows a quoted text whose opening quotes were read. -/
def afterText (closing : List Char) (plain bytes : Bool) : List Char → Option (List Char)
  | [] => none
  | '\\' :: mark :: rest =>
    if (plain && !(bytes && 0x80 ≤ mark.toNat)) || (!plain && isEscape bytes mark rest) then
      afterText closing plain bytes rest
    else none
  | c :: rest =>
    if closing.isPrefixOf (c :: rest) then some (rest.drop (closing.length - 1))
    else if (c == '\n' && closing.length == 1) || (bytes && 0x80 ≤ c.toNat) then none
    else afterText closing plain bytes rest

/-- Reads a quoted text behind the letters in front of it. -/
def quotedToken? (letters text : List Char) : Option (Token × List Char) := do
  let kind := String.ofList (letters.map Char.toLower)
  let plain := kind == "r" || kind == "br" || kind == "rb"
  let bytes := kind == "b" || kind == "br" || kind == "rb"
  if !(plain || bytes || kind == "u" || kind == "") then none
  let quote ← text.head?
  let long := List.replicate 3 quote
  let closing := if long.isPrefixOf text then long else [quote]
  let rest ← afterText closing plain bytes (text.drop closing.length)
  return (.text bytes, rest)

/-- Reads the token at the front of a text. -/
def token? (text : List Char) : Option (Token × List Char) :=
  let isQuote (c : Char) : Bool := c == '\'' || c == '"'
  match text with
  | [] => none
  | '.' :: '.' :: '.' :: rest => some (.constant, rest)
  | ',' :: rest => some (.comma, rest)
  | ':' :: rest => some (.colon, rest)
  | '+' :: rest | '-' :: rest => some (.sign, rest)
  | '(' :: rest => some (.opening false, rest)
  | ')' :: rest => some (.closing false, rest)
  | '{' :: rest => some (.opening true, rest)
  | '}' :: rest => some (.closing true, rest)
  | c :: rest =>
    if c.isDigit || c == '.' then
      let number := c :: numberRun (maySign text) c rest
      (numberToken? number).map fun token => (token, text.drop number.length)
    else
      let word := text.takeWhile isWordChar
      let after := text.dropWhile isWordChar
      if after.head?.any isQuote then quotedToken? word after
      else
        match String.ofList word with
        | "True" | "False" | "None" => some (.constant, after)
        | "set" => some (.setName, after)
        | _ => none

/-- The tokens of a text, if it is made of them; `fuel` bounds their number. -/
def tokensFrom : Nat → List Char → Option (List Token)
  | _, [] => some []
  | 0, _ => none
  | fuel + 1, c :: rest =>
    if c == ' ' || c == '\t' then tokensFrom fuel rest
    else if c == '#' then (if rest.contains '\n' then none else some [])
    else do
      let (token, after) ← token? (c :: rest)
      return token :: (← tokensFrom fuel after)

/-- The tokens of a text, if it is made of them. -/
def tokens? (text : List Char) : Option (List Token) := tokensFrom text.length text

end FeatureLayout.Literal
