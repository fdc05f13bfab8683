/-
TowerOfHanoi/Toml/Value.lean

Documents of the configuration format.  A document is a tree of scalars,
arrays and tables.  Each table remembers how it came about, because that
decides whether and how it may still be extended:

* written in braces, it is complete;
* opened by a header of its own, it cannot be opened again;
* implied by the header of a table inside it, it may still get a header;
* made by a dotted key, it may be extended by dotted keys only.
-/

namespace TowerOfHanoi.Toml

/-- A value without parts; of a floating-point number only its range matters, and of a date or
time only that it is one. -/
inductive Scalar where
  | string (s : String)
  | integer (n : Int)
  | float (overflows : Bool)
  | boolean (b : Bool)
  | dateTime
deriving DecidableEq, Repr

/-- How a table came about. -/
inductive Origin where
  | braces
  | header
  | implied
  | dotted
deriving DecidableEq, Repr

/-- A value of a document.  An array of tables is one that headers in double brackets made. -/
inductive Node where
  | scalar (s : Scalar)
  | array (ofTables : Bool) (elements : List Node)
  | table (origin : Origin) (entries : List (String × Node))

/-- The entries of a table, in the order in which they were made. -/
abbrev Entries := List (String × Node)

/-- Replaces the value of a key that is present. -/
def Entries.set (entries : Entries) (key : String) (node : Node) : Entries :=
  entries.map fun (k, v) => if k = key then (k, node) else (k, v)

/-! ### Extending tables -/

/-- Changes the table at the end of a path, making tables for the keys that are not there yet:
`dotted` ones on behalf of a dotted key, implied ones on behalf of a header.  A path goes through
the last table of an array of tables. -/
def descend (dotted : Bool) (change : Origin → Entries → Except String (Origin × Entries)) :
    List String → Origin → Entries → Except String (Origin × Entries)
  | [], origin, entries => change origin entries
  | key :: path, origin, entries => do
    match entries.lookup key with
    | none =>
      let (o, inner) ← descend dotted change path (if dotted then .dotted else .implied) []
      return (origin, entries ++ [(key, .table o inner)])
    | some (.table o inner) =>
      if o = .braces || (dotted && o = .header) then .error "cannot extend table"
      else
        let (o, inner) ← descend dotted change path o inner
        return (origin, entries.set key (.table o inner))
    | some (.array true elements) =>
      match elements.getLast? with
      | some (.table o inner) =>
        let (o, inner) ← descend dotted change path o inner
        return (origin, entries.set key (.array true (elements.dropLast ++ [.table o inner])))
      | _ => .error "cannot extend array"
    | some _ => .error "cannot extend value"

/-- Adds a key that is not there yet; a dotted key and a plain key do not mix in one table. -/
def addKey (dotted : Bool) (key : String) (node : Node) (origin : Origin) (entries : Entries) :
    Except String (Origin × Entries) :=
  if (origin = .dotted) ≠ dotted then .error "cannot extend table"
  else if (entries.lookup key).isSome then .error "duplicate key"
  else .ok (origin, entries ++ [(key, node)])

/-- Opens a table by a header. -/
def openTable (key : String) (origin : Origin) (entries : Entries) :
    Except String (Origin × Entries) :=
  match entries.lookup key with
  | none => .ok (origin, entries ++ [(key, .table .header [])])
  | some (.table .implied inner) => .ok (origin, entries.set key (.table .header inner))
  | some _ => .error "duplicate table"

/-- Opens another table of an array of tables by a header. -/
def openElement (key : String) (origin : Origin) (entries : Entries) :
    Except String (Origin × Entries) :=
  match entries.lookup key with
  | none => .ok (origin, entries ++ [(key, .array true [.table .header []])])
  | some (.array true elements) =>
    .ok (origin, entries.set key (.array true (elements ++ [.table .header []])))
  | some _ => .error "duplicate key"

end TowerOfHanoi.Toml
