/-!
Values of TOML documents, and the rules by which the lines of a document build up its tables: a key
is given once, and how a table came about decides what may still be added to it.
-/

namespace ServerIncludes.Toml

/-- How a table came about. -/
inductive TableKind where
  /-- It has a header of its own, or is the document itself. -/
  | headed
  /-- It is on the way to a table with a header. -/
  | implied
  /-- It is on the way to a dotted key. -/
  | dotted
  /-- It is written in braces. -/
  | braced
  deriving DecidableEq, Repr

/-- Numbers that are not whole and points in time are kept as they are spelled. -/
inductive Scalar where
  | text (content : String)
  | boolean (value : Bool)
  | integer (value : Int)
  | float (spelling : String)
  | moment (spelling : String)
  deriving DecidableEq, Repr

inductive Value where
  | scalar (value : Scalar)
  /-- Values in brackets. -/
  | array (items : List Value)
  | table (kind : TableKind) (entries : List (String × Value))
  /-- Tables with the same header in double brackets, the one before the last first in
  `earlier`. -/
  | tables (last : List (String × Value)) (earlier : List (List (String × Value)))

/-- What a table holds, in the order in which the keys appear. -/
abbrev Entries := List (String × Value)

/-- A key with the tables on the way to it. -/
structure Key where
  path : List String
  name : String
  deriving DecidableEq, Repr

namespace Entries

/-- Gives a key a value, in place of the one it has. -/
def put (name : String) (value : Value) : Entries → Entries
  | [] => [(name, value)]
  | entry :: rest =>
    if entry.1 = name then (name, value) :: rest else entry :: put name value rest

/-- Changes the table at the end of a path, making tables that are missing. Of several tables with
the same header the last one is taken. A dotted key may not enter a table that has a header. -/
def change (dotted : Bool) (update : TableKind → Entries → Option Entries) :
    List String → TableKind → Entries → Option Entries
  | [], kind, entries => update kind entries
  | name :: path, _, entries =>
    match entries.lookup name with
    | none =>
      let kind := if dotted then TableKind.dotted else .implied
      (change dotted update path kind []).map fun inner => put name (.table kind inner) entries
    | some (.table kind inner) =>
      if kind = .braced ∨ (dotted ∧ kind = .headed) then none
      else (change dotted update path kind inner).map fun inner =>
        put name (.table kind inner) entries
    | some (.tables last earlier) =>
      (change dotted update path .headed last).map fun last =>
        put name (.tables last earlier) entries
    | some (.scalar _) => none
    | some (.array _) => none

/-- Gives a key its value. The table at the end of a path may take it only if dotted keys made that
table. -/
def assign (key : Key) (value : Value) : TableKind → Entries → Option Entries :=
  change true (fun kind entries =>
    if (key.path.isEmpty ∨ kind = .dotted) ∧ (entries.lookup key.name).isNone then
      some (put key.name value entries)
    else none) key.path

/-- Starts the table with a header. There may be a table already if it was only implied. -/
def startTable (key : Key) : Entries → Option Entries :=
  change false (fun _ entries =>
    match entries.lookup key.name with
    | none => some (put key.name (.table .headed []) entries)
    | some (.table .implied inner) => some (put key.name (.table .headed inner) entries)
    | some _ => none) key.path .headed

/-- Starts one more table with a header in double brackets. -/
def startElement (key : Key) : Entries → Option Entries :=
  change false (fun _ entries =>
    match entries.lookup key.name with
    | none => some (put key.name (.tables [] []) entries)
    | some (.tables last earlier) => some (put key.name (.tables [] (last :: earlier)) entries)
    | some _ => none) key.path .headed

end Entries

/-- A line of a document that says something. -/
inductive Line where
  | assignment (key : Key) (value : Value)
  | tableHeader (key : Key)
  | elementHeader (key : Key)

/-- A document as far as it is read: its tables, and the path to the one that lines add to. -/
structure Draft where
  root : Entries
  current : List String

namespace Draft

def empty : Draft := ⟨[], []⟩

/-- Adds a line. -/
def take (draft : Draft) : Line → Option Draft
  | .assignment key value =>
    (Entries.change false (Entries.assign key value) draft.current .headed draft.root).map
      fun root => ⟨root, draft.current⟩
  | .tableHeader key =>
    (Entries.startTable key draft.root).map fun root => ⟨root, key.path ++ [key.name]⟩
  | .elementHeader key =>
    (Entries.startElement key draft.root).map fun root => ⟨root, key.path ++ [key.name]⟩

end Draft

/-- The tables that some lines build up. -/
def Entries.ofLines? (lines : List Line) : Option Entries :=
  (lines.foldlM Draft.take Draft.empty).map (·.root)

end ServerIncludes.Toml
