import PackageActions.Binary64.Basic
import PackageActions.Dictionary
import PackageActions.Toml.Datetime

/-!
# TOML values

A table lists its entries in key order. Integers have 64 bits.
-/

namespace PackageActions

/-- A TOML value. -/
inductive Toml where
  | string (s : String)
  | integer (n : Int64)
  | float (x : Binary64)
  | boolean (b : Bool)
  | datetime (t : Toml.Datetime)
  | array (items : List Toml)
  | table (entries : List (String × Toml))
deriving Inhabited

namespace Toml

/-- A table: the content of a document or of a section. -/
abbrev Table := Dictionary Toml

/-- The word for the type of a value. -/
def typeName : Toml → String
  | .string _ => "string"
  | .integer _ => "integer"
  | .float _ => "float"
  | .boolean _ => "boolean"
  | .datetime _ => "datetime"
  | .array _ => "array"
  | .table _ => "table"

end Toml

end PackageActions
