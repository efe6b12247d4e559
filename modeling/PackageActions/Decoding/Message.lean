import PackageActions.Binary64.Text
import PackageActions.Decoding.Basic
import PackageActions.Text.Quoted

/-!
# What is said of a value that could not be decoded

The same causes are reported for every format; only the style of numbers differs, and whether the place
is named.
-/

namespace PackageActions

/-- Puts a name between grave accents. -/
def inGraves (name : String) : String := "`" ++ name ++ "`"

/-- The words for what was found. -/
def Found.text (style : Binary64.Style) : Found → String
  | .null => "null"
  | .bool b => "boolean " ++ inGraves (if b then "true" else "false")
  | .integer n => "integer " ++ inGraves (toString n)
  | .float x => "floating point " ++ inGraves (x.text style)
  | .string s => "string " ++ Text.visiblyQuoted s
  | .sequence => "sequence"
  | .map => "map"
  | .bareCase => "unit variant"

/-- The words for the names that were possible. -/
def expectedNames : List String → String
  | [] => "there are no names"
  | [a] => "expected " ++ inGraves a
  | [a, b] => "expected " ++ inGraves a ++ " or " ++ inGraves b
  | names => "expected one of " ++ String.intercalate ", " (names.map inGraves)

/-- The words for a cause. -/
def DecodeCause.text (style : Binary64.Style) : DecodeCause → String
  | .invalidType found expected => "invalid type: " ++ found.text style ++ ", expected " ++ expected
  | .invalidValue found expected => "invalid value: " ++ found.text style ++ ", expected " ++ expected
  | .invalidLength length expected =>
    "invalid length " ++ toString length ++ ", expected " ++ expected
  | .unknownField field expected =>
    "unknown field " ++ inGraves field ++ ", " ++ expectedNames expected
  | .unknownCase name expected =>
    "unknown variant " ++ inGraves name ++ ", " ++ expectedNames expected
  | .missingField field => "missing field " ++ inGraves field
  | .badCase complaint => complaint

/-- The place, on a line of its own; nothing for the whole value. -/
def DecodeError.place (e : DecodeError) : String :=
  if e.path.isEmpty then "" else "in " ++ inGraves (String.intercalate "." e.path) ++ "\n"

end PackageActions
