import FeatureLayout.Toml.Scalar

/-!
# Tables under construction

A document fills a tree of tables. A header leads from the root to a table and opens it once; double
brackets append a table to a list instead, and later headers lead to the last one. Keys with dots
open tables of their own, which only other keys with dots may fill. A value is closed, whatever it
holds.
-/

namespace FeatureLayout.Toml

/-- How a table came to be. -/
inductive Origin where
  /-- By a header for one of its parts. -/
  | implied
  /-- By its own header. -/
  | header
  /-- By a key with dots. -/
  | dotted
  deriving DecidableEq, Repr

/-- A part of a document under construction. -/
inductive Node where
  | value (content : Value)
  | table (origin : Origin) (entries : List (String × Node))
  /-- A list of tables, the last one first. -/
  | tables (items : List (List (String × Node)))

/-- The entries of a table. -/
abbrev Entries := List (String × Node)

namespace Entries

/-- Changes the entry of a key where it stands, or appends it. -/
def assign (key : String) (change : Option Node → Except Problem Node) :
    Entries → Except Problem Entries
  | [] => (change none).map fun node => [(key, node)]
  | (stored, node) :: rest =>
    if stored = key then (change (some node)).map fun node => (stored, node) :: rest
    else (assign key change rest).map fun rest => (stored, node) :: rest

/-- Follows a header and changes the entry at its end. -/
def define (change : String → Option Node → Except Problem Node) :
    List String → Entries → Except Problem Entries
  | [], entries => .ok entries
  | [key], entries => assign key (change key) entries
  | key :: rest, entries =>
    assign key
      (fun node =>
        match node with
        | none => (define change rest []).map (.table .implied)
        | some (.table origin inner) => (define change rest inner).map (.table origin)
        | some (.tables (last :: others)) =>
          (define change rest last).map fun last => .tables (last :: others)
        | some _ => .error (.notTable key))
      entries

/-- Opens the table of a header. -/
def openTable (key : String) : Option Node → Except Problem Node
  | none => .ok (.table .header [])
  | some (.table .implied entries) => .ok (.table .header entries)
  | some _ => .error (.duplicate key)

/-- Appends a table to the list of a header. -/
def appendTable (key : String) : Option Node → Except Problem Node
  | none => .ok (.tables [[]])
  | some (.tables items) => .ok (.tables ([] :: items))
  | some _ => .error (.duplicate key)

/-- Enters a value under a key with dots. -/
def enter (value : Value) : List String → Entries → Except Problem Entries
  | [], entries => .ok entries
  | [key], entries =>
    assign key
      (fun node =>
        match node with
        | none => .ok (.value value)
        | some _ => .error (.duplicate key))
      entries
  | key :: rest, entries =>
    assign key
      (fun node =>
        match node with
        | none => (enter value rest []).map (.table .dotted)
        | some (.table .dotted inner) => (enter value rest inner).map (.table .dotted)
        | some _ => .error (.duplicate key))
      entries

/-- Enters a value into the table of a header. -/
def enterBelow (header keys : List String) (value : Value) (entries : Entries) :
    Except Problem Entries :=
  match header with
  | [] => enter value keys entries
  | header =>
    define
      (fun key node =>
        match node with
        | some (.table origin inner) => (enter value keys inner).map (.table origin)
        | some (.tables (last :: others)) =>
          (enter value keys last).map fun last => .tables (last :: others)
        | _ => .error (.notTable key))
      header entries

end Entries

mutual

/-- A finished part as a value. -/
def Node.finished : Node → Value
  | .value content => content
  | .table _ entries => .table (finishedEntries entries)
  | .tables items => .list (finishedItems items).reverse

/-- The entries of a finished table. -/
def finishedEntries : List (String × Node) → List (String × Value)
  | [] => []
  | (key, node) :: rest => (key, node.finished) :: finishedEntries rest

/-- The tables of a finished list, the last one first. -/
def finishedItems : List (List (String × Node)) → List Value
  | [] => []
  | entries :: rest => .table (finishedEntries entries) :: finishedItems rest

end

end FeatureLayout.Toml
