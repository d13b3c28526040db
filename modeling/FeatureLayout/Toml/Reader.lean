import FeatureLayout.Toml.Tree

/-!
# Except Problem (TOML × List Char)

A document is a sequence of lines: a header, a double header, or a key with its value. Keys may be
bare or between quotes, with dots between their parts. Lists may span lines and hold comments;
tables between braces stay on one line.

Each reading consumes at least one character, so the length of the text bounds their number.
-/

namespace FeatureLayout.Toml

open Text

/-- A text without the blanks at its front. -/
def skipSpace (text : List Char) : List Char := text.dropWhile isSpace

/-- A text without the comment at its front. -/
def skipComment : List Char → List Char
  | '#' :: rest => rest.dropWhile (· != '\n')
  | text => text

/-- A text without the blanks, comments and line breaks at its front; `fuel` bounds their number. -/
def skipLines : Nat → List Char → List Char
  | 0, text => text
  | fuel + 1, text =>
    match skipComment (skipSpace text) with
    | '\n' :: rest => skipLines fuel rest
    | text => text

/-- Expects a character. -/
def expect (c : Char) : List Char → Except Problem (List Char)
  | found :: rest => if found = c then .ok rest else .error (.unexpected (found :: rest))
  | [] => .error (.unexpected [])

/-- Expects the end of a line. -/
def lineBreak (text : List Char) : Except Problem (List Char) :=
  match skipComment (skipSpace text) with
  | [] => .ok []
  | '\n' :: rest => .ok rest
  | text => .error (.unexpected text)

/-- Whether a character may stand in a bare key. -/
def isKeyChar (c : Char) : Bool := isWord c || c == '-'

/-- Reads one part of a key. -/
def keyPart (text : List Char) : Except Problem (String × List Char) :=
  match text with
  | '"' :: rest => (basicText false .plain rest).map fun (key, rest) => (String.ofList key, rest)
  | '\'' :: rest => (literalText false rest).map fun (key, rest) => (String.ofList key, rest)
  | text =>
    match text.takeWhile isKeyChar with
    | [] => .error (.unexpected text)
    | key => .ok (String.ofList key, text.dropWhile isKeyChar)

/-- Reads a key with dots; `fuel` bounds the number of its parts. -/
def key : Nat → List Char → Except Problem (List String × List Char)
  | 0, text => .error (.unexpected text)
  | fuel + 1, text => do
    let (part, rest) ← keyPart (skipSpace text)
    match skipSpace rest with
    | '.' :: more =>
      let (parts, rest) ← key fuel more
      return (part :: parts, rest)
    | rest => return ([part], rest)

mutual

/-- Reads a value. -/
def value : Nat → List Char → Except Problem (Value × List Char)
  | 0, text => .error (.unexpected text)
  | fuel + 1, text =>
    match quotedText? text with
    | some reading => reading.map fun (content, rest) => (.text (String.ofList content), rest)
    | none =>
      match text with
      | '[' :: rest => (listItems fuel rest).map fun (items, rest) => (.list items, rest)
      | '{' :: rest => (inlineEntries fuel true [] rest).map fun (entries, rest) =>
          (.table (finishedEntries entries), rest)
      | text =>
        let (front, rest) := word text
        if front.isEmpty then .error (.unexpected text)
        else (wordValue front).map fun value => (value, rest)

/-- Reads the items of a list, from behind its opening bracket or a comma. -/
def listItems : Nat → List Char → Except Problem (List Value × List Char)
  | 0, text => .error (.unexpected text)
  | fuel + 1, text =>
    match skipLines text.length text with
    | ']' :: rest => .ok ([], rest)
    | text => do
      let (item, rest) ← value fuel text
      match skipLines rest.length rest with
      | ',' :: rest =>
        let (items, rest) ← listItems fuel rest
        return (item :: items, rest)
      | ']' :: rest => return ([item], rest)
      | rest => throw (.unexpected rest)

/-- Reads the entries of a table between braces, from behind the opening brace or a comma. Only
right behind the opening brace may the table end. -/
def inlineEntries : Nat → Bool → Entries → List Char → Except Problem (Entries × List Char)
  | 0, _, _, text => .error (.unexpected text)
  | fuel + 1, first, entries, text =>
    match first, skipSpace text with
    | true, '}' :: rest => .ok (entries, rest)
    | _, text => do
      let (keys, rest) ← key text.length text
      let rest ← expect '=' rest
      let (content, rest) ← value fuel (skipSpace rest)
      let entries ← entries.enter content keys
      match skipSpace rest with
      | ',' :: rest => inlineEntries fuel false entries rest
      | '}' :: rest => return (entries, rest)
      | rest => throw (.unexpected rest)

end

/-- A document that has been read up to a place: its tables, and the header that is open. -/
structure Progress where
  entries : Entries
  header : List String

/-- Reads one line that holds something. -/
def line (progress : Progress) (text : List Char) : Except Problem (Progress × List Char) :=
  match text with
  | '[' :: '[' :: rest => do
    let (header, rest) ← key text.length rest
    let rest ← expect ']' rest
    let rest ← expect ']' rest
    let entries ← progress.entries.define Entries.appendTable header
    return (⟨entries, header⟩, ← lineBreak rest)
  | '[' :: rest => do
    let (header, rest) ← key text.length rest
    let rest ← expect ']' rest
    let entries ← progress.entries.define Entries.openTable header
    return (⟨entries, header⟩, ← lineBreak rest)
  | text => do
    let (keys, rest) ← key text.length text
    let rest ← expect '=' rest
    let (content, rest) ← value (text.length + 1) (skipSpace rest)
    let entries ← progress.entries.enterBelow progress.header keys content
    return ({ progress with entries := entries }, ← lineBreak rest)

/-- Reads all lines; `fuel` bounds their number. -/
def lines : Nat → Progress → List Char → Except Problem Entries
  | 0, progress, _ => .ok progress.entries
  | fuel + 1, progress, text =>
    match skipLines text.length text with
    | [] => .ok progress.entries
    | text => do
      let (progress, rest) ← line progress text
      lines fuel progress rest

/-- A text in which every line ends with the same character. -/
def unifyBreaks : List Char → List Char
  | '\r' :: '\n' :: rest => '\n' :: unifyBreaks rest
  | '\r' :: rest => '\n' :: unifyBreaks rest
  | c :: rest => c :: unifyBreaks rest
  | [] => []

/-- The table that a document describes. -/
def parse (document : String) : Except Problem Value :=
  let text := unifyBreaks document.toList
  (lines (text.length + 1) ⟨[], []⟩ text).map fun entries => .table (finishedEntries entries)

end FeatureLayout.Toml
