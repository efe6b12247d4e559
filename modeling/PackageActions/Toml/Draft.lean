import PackageActions.Toml.Written

/-!
# Building tables

A document defines its tables piece by piece: by headers, by dotted keys, and by headers of tables inside
them. A draft remembers for each table how it came about, since a table may be defined only once:

* a header may complete a table that only headers of inner tables have implied, and no other;
* dotted keys may add to tables that dotted keys made, and to no other;
* a header in double brackets adds an element to an array that such headers made.

Each operation answers `none` if it would define something twice or put an entry into a value.
-/

namespace PackageActions.Toml

/-- How a table came about: by its own header, by the header of a table inside it, or by a dotted key.
The table of the whole document counts as the first kind. -/
inductive Origin where
  | header
  | implied
  | dotted
deriving DecidableEq

/-- What a key holds while the document is read: a value, a table, or an array of tables of which only
the last can still grow. -/
inductive Draft where
  | value (v : Written)
  | table (origin : Origin) (entries : List (String × Draft))
  | tables (earlier : List Written) (last : List (String × Draft))

/-- The entries of a table under construction. -/
abbrev Entries := Dictionary Draft

/-- A key and the names of the tables that lead to it. -/
structure KeyPath where
  tables : List String
  key : String

/-- The path of the parts of a dotted key. -/
def KeyPath.ofParts (first : String) : List String → KeyPath
  | [] => ⟨[], first⟩
  | second :: more =>
    let path := KeyPath.ofParts second more
    ⟨first :: path.tables, path.key⟩

/-! ## The finished table -/

mutual

/-- The value of a draft. -/
def Draft.finish : Draft → Written
  | .value v => v
  | .table _ entries => .table (finishEntries entries)
  | .tables earlier last => .array (earlier ++ [.table (finishEntries last)])

/-- The entries with their values. -/
def finishEntries : List (String × Draft) → List (String × Written)
  | [] => []
  | (key, draft) :: rest => (key, draft.finish) :: finishEntries rest

end

/-! ## Definitions -/

/-- Changes the table that a path of tables leads to from a table of some origin. A table missing on the
way springs up; an array of tables is entered at its last element. On a dotted path a table with a header
of its own bars the way. -/
def changeAt (dotted : Bool) (change : Origin → Entries → Option Entries) (origin : Origin) :
    List String → Entries → Option Entries
  | [], entries => change origin entries
  | key :: path, entries =>
    match Dictionary.get? entries key with
    | none =>
      let born := if dotted then Origin.dotted else Origin.implied
      (changeAt dotted change born path []).map fun inner =>
        Dictionary.insert key (.table born inner) entries
    | some (.table origin inner) =>
      if dotted && origin = .header then none
      else (changeAt dotted change origin path inner).map fun inner =>
        Dictionary.insert key (.table origin inner) entries
    | some (.tables earlier last) =>
      (changeAt dotted change .header path last).map fun last =>
        Dictionary.insert key (.tables earlier last) entries
    | some (.value _) => none

/-- The change made by a key and its value, the key reached by dots or not. -/
def putValue (dotted : Bool) (key : String) (v : Written) (origin : Origin) (entries : Entries) :
    Option Entries :=
  if dotted && origin ≠ .dotted then none
  else if (Dictionary.get? entries key).isSome then none
  else some (Dictionary.insert key (.value v) entries)

/-- Gives a key a value, the key counted from a table of some origin. -/
def assignFrom (path : KeyPath) (v : Written) (origin : Origin) (entries : Entries) : Option Entries :=
  changeAt true (putValue (!path.tables.isEmpty) path.key v) origin path.tables entries

/-- Gives a key a value, the key counted from the table of the latest header. -/
def assign (current : List String) (path : KeyPath) (v : Written) (document : Entries) :
    Option Entries :=
  changeAt false (assignFrom path v) .header current document

/-- The change made by the header of a table. -/
def putTable (key : String) (_ : Origin) (entries : Entries) : Option Entries :=
  match Dictionary.get? entries key with
  | none => some (Dictionary.insert key (.table .header []) entries)
  | some (.table .implied inner) => some (Dictionary.insert key (.table .header inner) entries)
  | some _ => none

/-- Opens the table of a header. -/
def openTable (path : KeyPath) (document : Entries) : Option Entries :=
  changeAt false (putTable path.key) .header path.tables document

/-- The change made by a header in double brackets. -/
def putElement (key : String) (_ : Origin) (entries : Entries) : Option Entries :=
  match Dictionary.get? entries key with
  | none => some (Dictionary.insert key (.tables [] []) entries)
  | some (.tables earlier last) =>
    some (Dictionary.insert key (.tables (earlier ++ [.table (finishEntries last)]) []) entries)
  | some _ => none

/-- Opens a new element of an array of tables. -/
def openElement (path : KeyPath) (document : Entries) : Option Entries :=
  changeAt false (putElement path.key) .header path.tables document

/-- The table of pairs between braces. -/
def inlineTable? (pairs : List (KeyPath × Written)) : Option (Dictionary Written) :=
  (pairs.foldlM (fun entries pair => assignFrom pair.1 pair.2 .header entries) []).map finishEntries

end PackageActions.Toml
