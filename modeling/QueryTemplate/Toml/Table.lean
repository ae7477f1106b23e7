import QueryTemplate.Toml.Value

/-!
# TOML tables

What a TOML text has defined so far. A table is defined by a header of its own, or implied by a
longer header, or made by a dotted key; what may still be added to it depends on which.

Main operations: `Entries.at?` changes the table that a path of keys leads to; `assignUnder`,
`openTable` and `openElement` are what the three kinds of lines do.
-/

set_option autoImplicit false

namespace QueryTemplate

namespace Toml

/-- How a table came to be. -/
inductive Origin where
  /-- By a header, or as the outermost table. -/
  | defined
  /-- As a table around one with a header. -/
  | implied
  | dotted
  deriving DecidableEq, Repr

inductive Item where
  | value (value : Value)
  | table (origin : Origin) (entries : List (Text × Item))
  | tables (elements : List (List (Text × Item)))
  deriving Inhabited

abbrev Entries := List (Text × Item)

namespace Entries

def put (key : Text) (item : Item) : Entries → Entries
  | [] => [(key, item)]
  | (k, i) :: rest => if k = key then (k, item) :: rest else (k, i) :: put key item rest

/-- Changes the table that a path leads to, given its origin and entries. Tables that are missing
on the way are made; `missing` is their origin. An array of tables stands for its last element. A
dotted key does not lead into a table that has a header. -/
def at? (missing : Origin) (change : Origin → Entries → Option Entries) :
    List Text → Origin → Entries → Option Entries
  | [], origin, entries => change origin entries
  | key :: path, _, entries =>
    match entries.lookup key with
    | none => (at? missing change path missing []).map fun inner =>
        entries.put key (.table missing inner)
    | some (.value _) => none
    | some (.table origin inner) =>
      if missing = .dotted ∧ origin = .defined then none
      else (at? missing change path origin inner).map fun inner =>
        entries.put key (.table origin inner)
    | some (.tables elements) => do
      let last ← elements.getLast?
      let inner ← at? missing change path .defined last
      some (entries.put key (.tables (elements.dropLast ++ [inner])))

/-- Stores a value under a dotted key in a table. Two keys for one place are refused, and so is a
dotted key that leads to a table made otherwise. -/
def assign (path : List Text) (key : Text) (value : Value) (entries : Entries) :
    Option Entries :=
  at? .dotted
    (fun origin entries =>
      if (origin == .dotted) == path.isEmpty then none
      else
        match entries.lookup key with
        | none => some (entries.put key (.value value))
        | some _ => none)
    path .defined entries

/-- Stores a value under a dotted key in the table of a header. -/
def assignUnder (header path : List Text) (key : Text) (value : Value) (entries : Entries) :
    Option Entries :=
  at? .implied (fun _ entries => entries.assign path key value) header .defined entries

/-- Defines a table by its header. It must be missing, or implied. Either way its key is the last
one from now on. -/
def openTable (path : List Text) (key : Text) (entries : Entries) : Option Entries :=
  at? .implied
    (fun _ entries =>
      match entries.lookup key with
      | none => some (entries.put key (.table .defined []))
      | some (.table .implied inner) =>
        some ((entries.filter fun entry => entry.1 ≠ key) ++ [(key, .table .defined inner)])
      | some _ => none)
    path .defined entries

def openElement (path : List Text) (key : Text) (entries : Entries) : Option Entries :=
  at? .implied
    (fun _ entries =>
      match entries.lookup key with
      | none => some (entries.put key (.tables [[]]))
      | some (.tables elements) => some (entries.put key (.tables (elements ++ [[]])))
      | some _ => none)
    path .defined entries

end Entries

mutual

def Item.toValue : Item → Value
  | .value value => value
  | .table _ entries => .table (Entries.values entries)
  | .tables elements => .array (Entries.tables elements)

def Entries.values : List (Text × Item) → List (Text × Value)
  | [] => []
  | (key, item) :: rest => (key, item.toValue) :: Entries.values rest

def Entries.tables : List (List (Text × Item)) → List Value
  | [] => []
  | entries :: rest => .table (Entries.values entries) :: Entries.tables rest

end

namespace Entries

def toValue (entries : Entries) : Value := .table (values entries)

end Entries

end Toml

end QueryTemplate
