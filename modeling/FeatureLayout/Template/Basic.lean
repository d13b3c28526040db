import FeatureLayout.Template.Layout

/-!
# Templates

A template is text with replacement fields in braces; doubled braces stand for themselves. A field
names a value on offer, may go on to an item or a property of it, may ask for a conversion after `!`
(as messages show it, as texts show it, or as messages show it in ASCII) and for a layout after `:`.
A layout may itself hold fields, one level deep.

Fields are filled from left to right, and the first problem ends the work.
-/

namespace FeatureLayout

open Text

namespace Template

/-- Literal text up to the next field, doubled braces resolved, and what follows the field's opening
brace if there is one. -/
def literalRun : List Char → Except TemplateProblem (List Char × Option (List Char))
  | [] => .ok ([], none)
  | '{' :: '{' :: rest => (literalRun rest).map fun (run, after) => ('{' :: run, after)
  | '{' :: [] => .error .malformed
  | '{' :: rest => .ok ([], some rest)
  | '}' :: '}' :: rest => (literalRun rest).map fun (run, after) => ('}' :: run, after)
  | '}' :: _ => .error .malformed
  | c :: rest => (literalRun rest).map fun (run, after) => (c :: run, after)

/-- The name of a field, the character that ends it, and the rest. Inside square brackets only the
closing bracket counts. -/
def fieldName : Bool → List Char → Except TemplateProblem (List Char × Char × List Char)
  | _, [] => .error .malformed
  | true, c :: rest =>
    (fieldName (c != ']') rest).map fun (name, stop, after) => (c :: name, stop, after)
  | false, c :: rest =>
    if c = '{' then .error .malformed
    else if c = '}' ∨ c = ':' ∨ c = '!' then .ok ([], c, rest)
    else (fieldName (c == '[') rest).map fun (name, stop, after) => (c :: name, stop, after)

/-- The layout of a field up to its closing brace; `depth` counts the braces opened inside. -/
def layoutText : Nat → List Char → Except TemplateProblem (List Char × List Char)
  | _, [] => .error .malformed
  | depth, c :: rest =>
    if c = '}' then
      if depth = 0 then .ok ([], rest)
      else (layoutText (depth - 1) rest).map fun (layout, after) => (c :: layout, after)
    else
      (layoutText (if c = '{' then depth + 1 else depth) rest).map
        fun (layout, after) => (c :: layout, after)

/-- A replacement field. -/
structure Field where
  name : List Char
  conversion : Option Char
  layout : List Char

/-- Reads a field after its opening brace, and the text after it. -/
def field (text : List Char) : Except TemplateProblem (Field × List Char) := do
  let (name, stop, rest) ← fieldName false text
  if stop = '}' then
    return (⟨name, none, []⟩, rest)
  else if stop = ':' then
    let (layout, after) ← layoutText 0 rest
    return (⟨name, none, layout⟩, after)
  else
    match rest with
    | [] => throw .malformed
    | conversion :: '}' :: after => return (⟨name, some conversion, []⟩, after)
    | conversion :: ':' :: after =>
      let (layout, after) ← layoutText 0 after
      return (⟨name, some conversion, layout⟩, after)
    | _ => throw .malformed

/-- The item that square brackets ask for: digits ask for a position, all else for a key. -/
def item (subject : Subject) (key : List Char) : Except TemplateProblem Subject := do
  match ← position key with
  | some place => subject.itemAt place
  | none => if key.isEmpty then throw .malformed else subject.settingOf (String.ofList key)

/-- Follows the picks after a field's first name; `fuel` bounds their number. -/
def follow : Nat → Subject → List Char → Except TemplateProblem Subject
  | 0, subject, _ => .ok subject
  | _, subject, [] => .ok subject
  | fuel + 1, subject, '[' :: rest =>
    match rest.dropWhile (· != ']') with
    | [] => .error .malformed
    | _ :: after => do
      follow fuel (← item subject (rest.takeWhile (· != ']'))) after
  | fuel + 1, subject, '.' :: rest =>
    let isPart (c : Char) := c != '.' && c != '['
    let name := rest.takeWhile isPart
    if name.isEmpty then .error .malformed
    else
      match subject.property? (String.ofList name) with
      | none => .error .noProperty
      | some property => follow fuel property (rest.dropWhile isPart)
  | _ + 1, _, _ => .error .malformed

/-- What a field's name picks. -/
def pick (offered : String → Option Subject) (name : List Char) :
    Except TemplateProblem Subject := do
  let first := name.takeWhile fun c => c != '.' && c != '['
  let rest := name.dropWhile fun c => c != '.' && c != '['
  if first.isEmpty then throw .noSuchPosition
  match ← position first with
  | some _ => throw .noSuchPosition
  | none =>
    match offered (String.ofList first) with
    | none => throw .unknownName
    | some subject => follow (rest.length + 1) subject rest

/-- Applies the conversion of a field. -/
def convert (conversion : Option Char) (subject : Subject) : Except TemplateProblem Subject :=
  match conversion with
  | none => .ok subject
  | some 's' => .ok (.ofText subject.display)
  | some 'r' => .ok (.ofText subject.shown)
  | some 'a' => .ok (.ofText (inAscii subject.shown))
  | some _ => .error .malformed

/-- Fills a template whose fields may nest `depth` levels; `fuel` bounds the number of fields. -/
def fillFrom (offered : String → Option Subject) :
    Nat → Nat → List Char → Except TemplateProblem (List Char)
  | 0, _, _ => .error .malformed
  | _ + 1, 0, _ => .ok []
  | depth + 1, fuel + 1, text => do
    let (run, after) ← literalRun text
    match after with
    | none => return run
    | some opened =>
      let (found, rest) ← field opened
      let picked ← pick offered found.name
      let converted ← convert found.conversion picked
      let layout ←
        if found.layout.contains '{' then
          fillFrom offered depth (found.layout.length + 1) found.layout
        else pure found.layout
      let shown ← converted.layOut layout
      let following ← fillFrom offered (depth + 1) fuel rest
      return run ++ shown ++ following

/-- Fills a template with the values on offer. -/
def fill (template : String) (offered : String → Option Subject) :
    Except TemplateProblem String :=
  (fillFrom offered 2 (template.toList.length + 1) template.toList).map String.ofList

end Template

end FeatureLayout
