import PackageActions.Argument.Construct

/-!
# Arguments from JSON

Plain data becomes an argument as it stands. An object whose member `new` is a string is a request to build
a value of the class named, from the arguments that its member `args` lists; arguments may be requests in
turn. A request is checked from the left: the name of its class, its arguments, that it has no other
members, and last the construction.
-/

namespace PackageActions.Argument

/-- The class name of a request, if the members are those of one. -/
def requested? (members : List (String × Json)) : Option String :=
  match Dictionary.get? members "new" with
  | some (.string name) => some name
  | _ => none

/-- The first key that has no place in a request. -/
def strayKey? (members : List (String × Json)) : Option String :=
  (Dictionary.keys members).find? fun key => key ≠ "new" && key ≠ "args"

/-- A whole number, as an integer if it has at most 64 bits with its sign. -/
def ofInt (n : Int) : Argument :=
  if Int64.minValue.toInt ≤ n && n ≤ Int64.maxValue.toInt then .integer (Int64.ofInt n)
  else .float (Binary64.ofInt n)

/-- Builds the value of a request from its evaluated arguments. -/
def build (c : Class) (members : List (String × Json)) (args : List Argument) :
    Except ActionError Argument :=
  match strayKey? members with
  | some key => .error (.unrecognizedOption c.name key)
  | none => .object <$> construct c args

mutual

/-- The argument that a JSON value stands for. -/
def ofJson : Json → Except ActionError Argument
  | .null => .ok .nil
  | .bool b => .ok (.bool b)
  | .integer n => .ok (ofInt n)
  | .float x => .ok (.float x)
  | .string s => .ok (.text s)
  | .array items => do
    let args ← ofItems items
    pure (.list args)
  | .object members =>
    match requested? members with
    | some name => do
      let c ← Class.ofName name
      let args ← ofRequest members
      build c members args
    | none => do
      let entries ← ofMembers members
      pure (.mapping entries)

/-- The items of an array, from the left. -/
def ofItems : List Json → Except ActionError (List Argument)
  | [] => .ok []
  | item :: rest => do
    let a ← ofJson item
    let as ← ofItems rest
    pure (a :: as)

/-- The members of an object, in the order listed. -/
def ofMembers : List (String × Json) → Except ActionError (List (String × Argument))
  | [] => .ok []
  | (key, value) :: rest => do
    let a ← ofJson value
    let entries ← ofMembers rest
    pure ((key, a) :: entries)

/-- The arguments of a request: none, the items of an array, or one value. -/
def ofRequest : List (String × Json) → Except ActionError (List Argument)
  | [] => .ok []
  | (key, .array items) :: rest => if key = "args" then ofItems items else ofRequest rest
  | (key, value) :: rest =>
    if key = "args" then do
      let a ← ofJson value
      pure [a]
    else ofRequest rest

end

end PackageActions.Argument
