import PackageActions.Toml.Basic

/-!
# Values as documents write them

A document may write a number that no 64-bit type holds, and a table that spells a date-time. `value?`
says what such a value stands for:

* a number has to fit its type;
* a table whose first key is `spellingKey` stands for the date-time that this key's value spells, and
  its other entries are never looked at, so a number that does not fit does no harm there;
* any other table, and every array, stands for what its parts stand for.

The table of a whole document never spells a date-time; `values?` gives what its entries stand for.
-/

namespace PackageActions.Toml

/-- A value as written. A number that does not fit its type, or that has no digits, is `none`. -/
inductive Written where
  | string (s : String)
  | integer (n : Option Int64)
  | float (x : Option Binary64)
  | boolean (b : Bool)
  | datetime (t : Datetime)
  | array (items : List Written)
  | table (entries : List (String × Written))
deriving Inhabited

namespace Written

/-- The key that makes its table stand for a date-time. -/
def spellingKey : String := "$__toml_private_datetime"

/-- What is to spell a date-time, if entries stand for one. -/
def spelling? : List (String × Written) → Option Written
  | (key, v) :: _ => if key = spellingKey then some v else none
  | [] => none

/-- The date-time that a string spells. -/
def spelled? : Written → Option Datetime
  | .string s => Datetime.parse? s.toList
  | _ => none

mutual

/-- What a written value stands for. -/
def value? : Written → Option Toml
  | .string s => some (.string s)
  | .integer n => n.map .integer
  | .float x => x.map .float
  | .boolean b => some (.boolean b)
  | .datetime t => some (.datetime t)
  | .array items => (items? items).map .array
  | .table entries =>
    match spelling? entries with
    | some v => (spelled? v).map .datetime
    | none => (values? entries).map .table

/-- What the items of an array stand for. -/
def items? : List Written → Option (List Toml)
  | [] => some []
  | v :: rest => do
    let v ← value? v
    let rest ← items? rest
    pure (v :: rest)

/-- What the entries of a table stand for, each under its key. -/
def values? : List (String × Written) → Option (List (String × Toml))
  | [] => some []
  | (key, v) :: rest => do
    let v ← value? v
    let rest ← values? rest
    pure ((key, v) :: rest)

end

end Written

end PackageActions.Toml
