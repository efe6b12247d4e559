import PackageActions.Object

/-!
# Arguments

What a constructor is given by name is loosely typed: plain data, or a value built before. A reader of an
argument says for which place it reads, so that a wrong type is reported with the place.
-/

namespace PackageActions

/-- An argument of a constructor. -/
inductive Argument where
  | nil
  | bool (b : Bool)
  | integer (n : Int64)
  | float (x : Binary64)
  | text (s : String)
  | list (items : List Argument)
  | mapping (entries : List (String × Argument))
  | object (o : Object)
deriving Inhabited

namespace Argument

/-- The word for the type of an argument; a built value is called by its class. -/
def typeName : Argument → String
  | .nil => "Nil"
  | .bool _ => "Bool"
  | .integer _ => "Integer"
  | .float _ => "Float"
  | .text _ => "String"
  | .list _ => "List"
  | .mapping _ => "Mapping"
  | .object o => o.classOf.name

/-- The error of an argument of the wrong type for a place. -/
def mismatch (place expected : String) (a : Argument) : ActionError :=
  .typeMismatch place expected a.typeName

/-- The argument as a flag. -/
def asBool (place : String) : Argument → Except ActionError Bool
  | .bool b => .ok b
  | other => .error (other.mismatch place "Bool")

/-- The argument as a text. -/
def asText (place : String) : Argument → Except ActionError String
  | .text s => .ok s
  | other => .error (other.mismatch place "String")

/-! ## Comparison -/

mutual

/-- Whether two arguments are equal. Numbers are compared as numbers within each of the two types, so a
list that holds a NaN differs from itself. -/
def equal : Argument → Argument → Bool
  | .nil, .nil => true
  | .bool a, .bool b => a = b
  | .integer a, .integer b => a = b
  | .float a, .float b => a.sameNumber b
  | .text a, .text b => a = b
  | .list as, .list bs => equalItems as bs
  | .mapping as, .mapping bs => equalEntries as bs
  | .object a, .object b => a = b
  | _, _ => false

def equalItems : List Argument → List Argument → Bool
  | [], [] => true
  | a :: as, b :: bs => equal a b && equalItems as bs
  | _, _ => false

def equalEntries : List (String × Argument) → List (String × Argument) → Bool
  | [], [] => true
  | (key, a) :: as, (key', b) :: bs => key = key' && equal a b && equalEntries as bs
  | _, _ => false

end

end Argument

/-- Named arguments, in key order. -/
abbrev Mapping := Dictionary Argument

end PackageActions
