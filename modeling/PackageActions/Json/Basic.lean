import PackageActions.Binary64.Basic
import PackageActions.Dictionary

/-!
# JSON values

A value is a tree. Whole numbers are integers, all others doubles. The members of an object are listed in
some order: a value that was read lists them by key (`Json.Sorted`), a value that is to be written lists
them as they are to appear. `Json.sorted` brings any value into the first form.
-/

namespace PackageActions

/-- A JSON value. -/
inductive Json where
  | null
  | bool (b : Bool)
  | integer (n : Int)
  | float (x : Binary64)
  | string (s : String)
  | array (items : List Json)
  | object (members : List (String × Json))
deriving Inhabited

namespace Json

/-- An integer that is a natural number. -/
def natural (n : Nat) : Json := .integer n

/-- A text, or null. -/
def ofText? : Option String → Json
  | some s => .string s
  | none => .null

mutual

/-- The members of every object in key order. -/
def sorted : Json → Json
  | .array items => .array (sortedItems items)
  | .object members => .object (Dictionary.ofList (sortedMembers members))
  | .null => .null
  | .bool b => .bool b
  | .integer n => .integer n
  | .float x => .float x
  | .string s => .string s

def sortedItems : List Json → List Json
  | [] => []
  | item :: rest => sorted item :: sortedItems rest

def sortedMembers : List (String × Json) → List (String × Json)
  | [] => []
  | (key, value) :: rest => (key, sorted value) :: sortedMembers rest

end

mutual

/-- Every object lists its members by strictly increasing key. -/
def Sorted : Json → Prop
  | .array items => SortedItems items
  | .object members => Dictionary.Sorted members ∧ SortedMembers members
  | _ => True

def SortedItems : List Json → Prop
  | [] => True
  | item :: rest => Sorted item ∧ SortedItems rest

def SortedMembers : List (String × Json) → Prop
  | [] => True
  | (_, value) :: rest => Sorted value ∧ SortedMembers rest

end

end Json

end PackageActions
