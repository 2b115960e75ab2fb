import Provision.Scalar

/-!
# TOML documents

The values of a TOML document, and how its tables grow. A document is read as a list of
statements; each of them extends a table that is found by a path of keys. A table remembers how
it came about, because that decides what may still be added to it.

Results:

* `Toml.addPair_simple`: a plain key is new to its table.
-/

namespace Provision

namespace Toml

/-- How a table came about. -/
inductive Origin where
  /-- By a header of its own, or as the table of the document. -/
  | header
  /-- As the parent of a table with a header. -/
  | implied
  /-- By a dotted key. -/
  | dotted
  /-- Between braces; such a table is complete. -/
  | inline
  deriving DecidableEq, Repr

end Toml

/-- A value of a TOML document. Dates and times are told apart from other values, and that is
    all that is kept of them. An array grows if it is one of tables with headers. -/
inductive Toml where
  | text (value : String)
  | integer (value : Int64)
  | float (value : Binary64)
  | boolean (value : Bool)
  | moment
  | array (grows : Bool) (items : List Toml)
  | table (origin : Toml.Origin) (entries : List (String × Toml))

namespace Toml

/-- Whether a character may stand in a bare key. -/
def isBareKeyChar (c : Char) : Bool :=
  c.isAlphanum || c == '-' || c == '_'

/-- The keys of a table in order, each with its value. -/
abbrev Entries := List (String × Toml)

/-- A value at the end of a path of keys. -/
structure Pair where
  path : List String
  key : String
  value : Toml

/-- The header of a table, or of the next table of an array. -/
structure Header where
  ofArray : Bool
  path : List String
  key : String

/-- The entries with the value of one key replaced. -/
def replace (key : String) (value : Toml) (entries : Entries) : Entries :=
  entries.map fun entry => if entry.1 = key then (key, value) else entry

/-- Changes the table at the end of a path. Missing tables are made on the way, `dotted` ones
    for a dotted key and implied ones for a header. A dotted key does not enter a table with a
    header of its own, and nothing enters a complete table; an array is entered at its last
    table. -/
def change (dotted : Bool) (action : Origin → Entries → Option Entries) :
    List String → Origin → Entries → Option Entries
  | [], origin, entries => action origin entries
  | key :: path, _, entries =>
    match entries.lookup key with
    | none =>
      let origin := if dotted then .dotted else .implied
      (change dotted action path origin []).map fun made => entries ++ [(key, .table origin made)]
    | some (.table .inline _) => none
    | some (.table origin found) =>
      if dotted && origin == .header then none
      else (change dotted action path origin found).map fun made =>
        replace key (.table origin made) entries
    | some (.array true items) =>
      match items.getLast? with
      | some (.table origin found) =>
        (change dotted action path origin found).map fun made =>
          replace key (.array true (items.dropLast ++ [.table origin made])) entries
      | _ => none
    | some _ => none

/-- Adds a value under a new key. A plain key belongs into a table that no dotted key has made,
    and a dotted key into one that a dotted key has made. -/
def addKey (dotted : Bool) (key : String) (value : Toml) (origin : Origin) (entries : Entries) :
    Option Entries :=
  if dotted != (origin == .dotted) then none
  else if (entries.lookup key).isSome then none
  else some (entries ++ [(key, value)])

/-- Adds a value at the end of its path. -/
def addPair (entries : Entries) (pair : Pair) : Option Entries :=
  change true (addKey (!pair.path.isEmpty) pair.key pair.value) pair.path .header entries

/-- Adds values one after the other. -/
def addPairs (entries : Entries) (pairs : List Pair) : Option Entries :=
  pairs.foldlM addPair entries

/-- Adds the table of a header. A table is given a header once; before that it may have been
    implied by the headers of other tables. -/
def addTable (key : String) (pairs : List Pair) (_ : Origin) (parent : Entries) :
    Option Entries :=
  match parent.lookup key with
  | none => (addPairs [] pairs).map fun made => parent ++ [(key, .table .header made)]
  | some (.table .implied found) =>
    (addPairs found pairs).map fun made => replace key (.table .header made) parent
  | some _ => none

/-- Adds the next table of an array. -/
def addElement (key : String) (pairs : List Pair) (_ : Origin) (parent : Entries) :
    Option Entries :=
  match parent.lookup key with
  | none =>
    (addPairs [] pairs).map fun made => parent ++ [(key, .array true [.table .header made])]
  | some (.array true items) =>
    (addPairs [] pairs).map fun made =>
      replace key (.array true (items ++ [.table .header made])) parent
  | some _ => none

/-- Adds a header with the values under it. -/
def addSection (entries : Entries) (part : Header × List Pair) : Option Entries :=
  let header := part.1
  change false (if header.ofArray then addElement header.key part.2 else addTable header.key part.2)
    header.path .header entries

/-- The table of a document: the values before the first header, then each header with the
    values under it. -/
def ofSections? (pairs : List Pair) (sections : List (Header × List Pair)) : Option Entries :=
  (addPairs [] pairs).bind fun entries => sections.foldlM addSection entries

theorem addPair_simple (entries : Entries) (key : String) (value : Toml) :
    addPair entries ⟨[], key, value⟩ =
      if (entries.lookup key).isSome then none else some (entries ++ [(key, value)]) := by
  rfl

end Toml

end Provision
