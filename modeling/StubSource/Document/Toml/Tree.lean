import StubSource.Document.Value

/-!
# Tables under construction

While a TOML document is read, a table remembers how it came about, since that decides whether it
may still grow: a table that was only implied by a longer header may get a header of its own, one
that came with a dotted key grows by dotted keys alone, and an inline table is closed at once.
-/

namespace StubSource.Toml
set_option autoImplicit false

/-- How a table came about. -/
inductive Origin where
  /-- As part of the header of another table. -/
  | implied
  | header
  | dotted
  deriving DecidableEq, Repr

inductive Tree where
  /-- A finished value, inline tables and arrays included. -/
  | closed (v : Value)
  | branch (origin : Origin) (entries : List (String × Tree))
  /-- The tables of an array of tables, each under a header of its own. -/
  | series (tables : List (List (String × Tree)))

abbrev Entries := List (String × Tree)

mutual

def Tree.toValue : Tree → Value
  | .closed v => v
  | .branch _ entries => .table (entriesToFields entries)
  | .series tables => .list (tablesToValues tables)

def entriesToFields : List (String × Tree) → List (String × Value)
  | [] => []
  | (key, tree) :: entries => (key, tree.toValue) :: entriesToFields entries

def tablesToValues : List (List (String × Tree)) → List Value
  | [] => []
  | entries :: tables => .table (entriesToFields entries) :: tablesToValues tables

end

namespace Entries

/-- Puts another tree under a key that is there. -/
def put (entries : Entries) (key : String) (tree : Tree) : Entries :=
  entries.map fun entry => if entry.1 = key then (key, tree) else entry

/-- Puts `v` under a dotted key. `takesKeys` tells whether the table reached so far may get the last
part: the table that the walk starts from does, any other only if it came with a dotted key. -/
def insert? (v : Tree) : (key : List String) → (takesKeys : Bool) → Entries → Option Entries
  | [], _, _ => none
  | [last], takesKeys, entries =>
    if takesKeys && (entries.lookup last).isNone then some (entries ++ [(last, v)]) else none
  | part :: rest, _, entries =>
    match entries.lookup part with
    | none => (insert? v rest true []).map fun sub => entries ++ [(part, .branch .dotted sub)]
    | some (.closed _) => none
    | some (.branch .header _) => none
    | some (.branch origin sub) =>
      (insert? v rest (origin == .dotted) sub).map fun sub => entries.put part (.branch origin sub)
    | some (.series tables) =>
      match tables.getLast? with
      | none => none
      | some last =>
        (insert? v rest false last).map fun last =>
          entries.put part (.series (tables.dropLast ++ [last]))

/-- Changes the table under the path of a header; tables on the way are implied by it. -/
def at? (change : (last : String) → Entries → Option Entries) :
    (path : List String) → Entries → Option Entries
  | [], _ => none
  | [last], entries => change last entries
  | part :: rest, entries =>
    match entries.lookup part with
    | none => (at? change rest []).map fun sub => entries ++ [(part, .branch .implied sub)]
    | some (.closed _) => none
    | some (.branch origin sub) =>
      (at? change rest sub).map fun sub => entries.put part (.branch origin sub)
    | some (.series tables) =>
      match tables.getLast? with
      | none => none
      | some last =>
        (at? change rest last).map fun last =>
          entries.put part (.series (tables.dropLast ++ [last]))

/-- Begins a table under a header of its own. -/
def openTable? : (path : List String) → Entries → Option Entries :=
  at? fun last entries =>
    match entries.lookup last with
    | none => some (entries ++ [(last, .branch .header [])])
    | some (.branch .implied sub) => some (entries.put last (.branch .header sub))
    | some _ => none

/-- Begins the next table of an array of tables. -/
def openNext? : (path : List String) → Entries → Option Entries :=
  at? fun last entries =>
    match entries.lookup last with
    | none => some (entries ++ [(last, .series [[]])])
    | some (.series tables) => some (entries.put last (.series (tables ++ [[]])))
    | some _ => none

/-- Puts `v` under a dotted key in the table that was begun last, whose header has the given path;
the path is empty before the first header. -/
def insertUnder? (path : List String) (key : List String) (v : Tree) (root : Entries) :
    Option Entries :=
  if path.isEmpty then insert? v key true root
  else at? (fun last entries =>
    match entries.lookup last with
    | some (.branch origin sub) =>
      (insert? v key true sub).map fun sub => entries.put last (.branch origin sub)
    | some (.series tables) =>
      match tables.getLast? with
      | none => none
      | some table =>
        (insert? v key true table).map fun table =>
          entries.put last (.series (tables.dropLast ++ [table]))
    | _ => none) path root

end Entries
end StubSource.Toml
