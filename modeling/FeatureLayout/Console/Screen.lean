import FeatureLayout.Console.Marked
import FeatureLayout.Console.Wrap

/-!
# Printing

Output is a sequence of blocks: marked lines, verbatim texts and tables. Printing goes on until a
block cannot be shown; what was printed before stays.

A table is drawn with heavy lines around its head and light ones around its body. Its title is
centred above it, and every column is as wide as the widest line of its cells. Tabs are not counted
there, so that a cell with tabs may have to be wrapped.
-/

namespace FeatureLayout

open Text

/-- A table of marked cells. -/
structure Table where
  title : String
  head : List String
  rows : List (List String)

namespace Table

/-- Whether a character ends a line where widths are measured. -/
def endsLine (c : Char) : Bool :=
  c == '\n' || [0x1c, 0x1d, 0x1e, 0x85, 0x2028, 0x2029].contains c.toNat

/-- The columns that a cell asks for: those of its widest line. -/
def cellWidth (cell : List Char) : Nat :=
  ((cell.splitOnP endsLine).map width).foldl max 0

/-- The widths of the columns of some rows. -/
def columnWidths (head : List String) (rows : List (List (List Char))) : List Nat :=
  head.zipIdx.map fun entry =>
    rows.foldl (fun widest row => max widest (cellWidth (row[entry.2]?.getD [])))
      (cellWidth entry.1.toList)

/-- A line between rows. -/
def rule (start line cross stop : String) (widths : List Nat) : String :=
  let segment (columns : Nat) := String.join (List.replicate (columns + 2) line)
  start ++ joinWith cross (widths.map segment) ++ stop

/-- The lines of a row, which is as high as its highest cell. -/
def rowLines (edge : String) (widths : List Nat) (row : List (List Char)) : List String :=
  let cells := (widths.zip row).map fun cell => (cell.1, Wrap.lines cell.1 cell.2)
  let height := (cells.map (·.2.length)).foldl max 0
  (List.range height).map fun line =>
    let parts := cells.map fun cell =>
      " " ++ String.ofList (Wrap.fill cell.1 (cell.2[line]?.getD [])) ++ " "
    edge ++ joinWith edge parts ++ edge

/-- A text centred in a number of columns, an odd blank on the right. -/
def centred (columns : Nat) (text : String) : String :=
  let missing := columns - width text.toList
  String.ofList (Wrap.fill columns (List.replicate (missing / 2) ' ' ++ text.toList))

/-- The lines of a table, given what its cells show. -/
def lines (table : Table) (rows : List (List (List Char))) : List String :=
  let widths := columnWidths table.head rows
  let total := widths.foldl (fun columns width => columns + (width + 3)) 1
  [centred total table.title, rule "┏" "━" "┳" "┓" widths] ++
  rowLines "┃" widths (table.head.map String.toList) ++
  [rule "┡" "━" "╇" "┩" widths] ++
  rows.flatMap (rowLines "│" widths) ++
  [rule "└" "─" "┴" "┘" widths]

/-- Reads the marked cells of a table column by column, to find the first that cannot be read. -/
def checkCells (table : Table) : Except MarkupProblem Unit :=
  table.head.zipIdx.forM fun entry =>
    table.rows.forM fun row => do
      let _ ← Marked.ofText (row[entry.2]?.getD "")

/-- The lines of a table, unless a cell cannot be shown. -/
def shown (table : Table) : Except MarkupProblem (List String) := do
  checkCells table
  return lines table (← table.rows.mapM fun (row : List String) => row.mapM Marked.plain)

end Table

/-- A part of the output. -/
inductive Block where
  /-- A marked text and a line break. -/
  | marked (text : String)
  /-- A text as it is and a line break. -/
  | verbatim (text : String)
  | table (content : Table)

namespace Block

/-- What a block shows. -/
def shown : Block → Except MarkupProblem String
  | marked text => do
    let lines := (fields '\n' (← Marked.plain text)).map fun line =>
      String.ofList (Wrap.expandTabs line)
    return joinWith "\n" lines ++ "\n"
  | verbatim text => return text ++ "\n"
  | table content => do return String.join ((← content.shown).map (· ++ "\n"))

/-- What is printed of some blocks, and why that is not all of them, if it is not. -/
def print : List Block → String × Option MarkupProblem
  | [] => ("", none)
  | block :: rest =>
    match block.shown with
    | .error problem => ("", some problem)
    | .ok text =>
      let (following, problem) := print rest
      (text ++ following, problem)

end Block

end FeatureLayout
