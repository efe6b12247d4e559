import PackageActions.Binary64.Basic
import PackageActions.Dictionary

/-!
# Decoding self-describing values

Records and choices are read from values of a data format. A format is described by two functions: the
`Shape` of a value, and how a value names one of several cases (`SelfDescribing.choice`). Decoders are
written once for all formats.

A record is read from a map in two passes. The first goes through the members in the order listed and
checks each, so the first bad member is what is reported; the second takes the fields in the order in
which the record declares them and reports the first that is missing. A record may also be given as a
sequence of its fields.
-/

namespace PackageActions

/-- A value as a message calls it. -/
inductive Found where
  | null
  | bool (b : Bool)
  | integer (n : Int)
  | float (x : Binary64)
  | string (s : String)
  | sequence
  | map
  | bareCase
deriving DecidableEq

/-- Why a value could not be decoded. -/
inductive DecodeCause where
  | invalidType (found : Found) (expected : String)
  | invalidValue (found : Found) (expected : String)
  | invalidLength (length : Nat) (expected : String)
  | unknownField (field : String) (expected : List String)
  | unknownCase (name : String) (expected : List String)
  | missingField (field : String)
  | badCase (complaint : String)
deriving DecidableEq

/-- A cause, and the keys that lead from the whole value to the place. -/
structure DecodeError where
  cause : DecodeCause
  path : List String
deriving DecidableEq

namespace DecodeError

/-- An error at the place itself. -/
def here (cause : DecodeCause) : DecodeError := ⟨cause, []⟩

/-- The same error seen from a map that has the value under a key. -/
def under (key : String) (e : DecodeError) : DecodeError := ⟨e.cause, key :: e.path⟩

end DecodeError

/-- A value of a format, one level deep. -/
inductive Shape (α : Type) where
  | null
  | bool (b : Bool)
  | integer (n : Int)
  | float (x : Binary64)
  | string (s : String)
  | sequence (items : List α)
  | map (members : List (String × α))

/-- What a message calls a value of this shape. -/
def Shape.found {α : Type} : Shape α → Found
  | .null => .null
  | .bool b => .bool b
  | .integer n => .integer n
  | .float x => .float x
  | .string s => .string s
  | .sequence _ => .sequence
  | .map _ => .map

/-- The name of a case, with the value given for it if there is one. -/
structure Choice (α : Type) where
  name : String
  payload : Option α

/-- A data format: the shape of its values, how a value names a case, and what may be given for a case
that carries nothing. -/
class SelfDescribing (α : Type) where
  shape : α → Shape α
  choice : α → Except DecodeError (Choice α)
  nothing : Option α → Except DecodeError Unit

/-- What becomes of items behind the last field of a record: a sequence read directly and one that was
set aside first are reported in different words. -/
inductive Surplus where
  | direct
  | setAside

namespace Decoding

variable {α β : Type} [SelfDescribing α]

/-- Fails with a cause at the place itself. -/
def refuse (cause : DecodeCause) : Except DecodeError β := .error (.here cause)

/-- Refuses a value for its type. -/
def mismatch (shape : Shape α) (expected : String) : Except DecodeError β :=
  refuse (.invalidType shape.found expected)

/-- Reads the value under a key. -/
def within (key : String) (decode : α → Except DecodeError β) (v : α) : Except DecodeError β :=
  (decode v).mapError (.under key)

/-! ## Plain values -/

def boolean (v : α) : Except DecodeError Bool :=
  match SelfDescribing.shape v with
  | .bool b => .ok b
  | other => mismatch other "a boolean"

def text (v : α) : Except DecodeError String :=
  match SelfDescribing.shape v with
  | .string s => .ok s
  | other => mismatch other "a string"

/-- A count, which may not be negative. -/
def count (v : α) : Except DecodeError Nat :=
  match SelfDescribing.shape v with
  | .integer n => if n < 0 then refuse (.invalidValue (.integer n) "usize") else .ok n.toNat
  | other => mismatch other "usize"

/-- A path, or none where the format has a null. -/
def path? (v : α) : Except DecodeError (Option String) :=
  match SelfDescribing.shape v with
  | .null => .ok none
  | .string s => .ok (some s)
  | other => mismatch other "path string"

def list (decode : α → Except DecodeError β) (v : α) : Except DecodeError (List β) :=
  match SelfDescribing.shape v with
  | .sequence items => items.mapM decode
  | other => mismatch other "a sequence"

/-- The values of a map by key, read in the order listed. -/
def dictionary (decode : α → Except DecodeError β) (v : α) :
    Except DecodeError (List (String × β)) :=
  match SelfDescribing.shape v with
  | .map members => members.mapM fun entry => do
      let b ← within entry.1 decode entry.2
      pure (entry.1, b)
  | other => mismatch other "a map"

/-! ## Cases -/

/-- One of several cases that carry nothing. -/
def oneOf (cases : List (String × β)) (v : α) : Except DecodeError β := do
  let chosen ← SelfDescribing.choice v
  match cases.lookup chosen.name with
  | none => refuse (.unknownCase chosen.name (cases.map Prod.fst))
  | some b => do
    SelfDescribing.nothing chosen.payload
    pure b

/-- One of several cases that carry a value. -/
def caseOf (cases : List (String × (Option α → Except DecodeError β))) (v : α) :
    Except DecodeError β := do
  let chosen ← SelfDescribing.choice v
  match cases.lookup chosen.name with
  | none => refuse (.unknownCase chosen.name (cases.map Prod.fst))
  | some decode => decode chosen.payload

/-- The members of the map that a case carries. -/
def fieldsOfCase (payload : Option α) : Except DecodeError (List (String × α)) :=
  match payload with
  | none => refuse (.invalidType .bareCase "struct variant")
  | some v => match SelfDescribing.shape v with
    | .map members => .ok members
    | other => mismatch other "struct variant"

/-- The value that a case carries. -/
def valueOfCase (decode : α → Except DecodeError β) (payload : Option α) : Except DecodeError β :=
  match payload with
  | none => refuse (.invalidType .bareCase "newtype variant")
  | some v => decode v

/-! ## Records -/

/-- The check that a decoder makes. -/
def check (decode : α → Except DecodeError β) (v : α) : Except DecodeError Unit := do
  let _ ← decode v
  pure ()

/-- What becomes of a member that is no field: it is refused or passed over. -/
inductive Others where
  | refused
  | ignored

/-- Checks the members of a map in the order listed. -/
def checkMembers (fields : List (String × (α → Except DecodeError Unit))) (others : Others)
    (members : List (String × α)) : Except DecodeError Unit :=
  members.forM fun entry =>
    match fields.lookup entry.1 with
    | some ok => within entry.1 ok entry.2
    | none => match others with
      | .refused => refuse (.unknownField entry.1 (fields.map Prod.fst))
      | .ignored => .ok ()

/-- The field of a checked map. -/
def required (key : String) (decode : α → Except DecodeError β) (members : List (String × α)) :
    Except DecodeError β :=
  match Dictionary.get? members key with
  | some v => within key decode v
  | none => refuse (.missingField key)

/-- The field of a checked map, or a default. -/
def optional (key : String) (decode : α → Except DecodeError β) (default : β)
    (members : List (String × α)) : Except DecodeError β :=
  match Dictionary.get? members key with
  | some v => within key decode v
  | none => .ok default

/-- A record, from the members of a map or from a sequence of its fields. -/
def record (name : String) (ofMembers : List (String × α) → Except DecodeError β)
    (ofItems : List α → Except DecodeError β) (v : α) : Except DecodeError β :=
  match SelfDescribing.shape v with
  | .map members => ofMembers members
  | .sequence items => ofItems items
  | other => mismatch other ("struct " ++ name)

/-- So many elements, in words. -/
def elements (n : Nat) : String :=
  if n = 1 then "1 element" else toString n ++ " elements"

/-- The field at a place of a sequence of fields. -/
def requiredItem (name : String) (fields index : Nat) (decode : α → Except DecodeError β)
    (items : List α) : Except DecodeError β :=
  match items[index]? with
  | some v => decode v
  | none => refuse (.invalidLength items.length ("struct " ++ name ++ " with " ++ elements fields))

/-- The field at a place of a sequence of fields, or a default. -/
def optionalItem (index : Nat) (decode : α → Except DecodeError β) (default : β) (items : List α) :
    Except DecodeError β :=
  match items[index]? with
  | some v => decode v
  | none => .ok default

/-- Refuses a sequence that goes on behind the last field. -/
def atMost (surplus : Surplus) (fields : Nat) (items : List α) : Except DecodeError Unit :=
  if items.length ≤ fields then .ok ()
  else refuse (.invalidLength items.length (match surplus with
    | .direct => "fewer elements in array"
    | .setAside => elements fields ++ " in sequence"))

end Decoding

end PackageActions
