import PackageActions.Decoding.Message
import PackageActions.Json.Basic

/-!
# Decoding JSON

A case is named by a string, or by the only key of an object that carries its value. A case that carries
nothing may be given null.
-/

namespace PackageActions.Json

/-- The shape of a value. -/
def shape : Json → Shape Json
  | .null => .null
  | .bool b => .bool b
  | .integer n => .integer n
  | .float x => .float x
  | .string s => .string s
  | .array items => .sequence items
  | .object members => .map members

/-- The case that a value names. -/
def choice : Json → Except DecodeError (Choice Json)
  | .string s => .ok ⟨s, none⟩
  | .object [(name, payload)] => .ok ⟨name, some payload⟩
  | .object _ => Decoding.refuse (.invalidValue .map "map with a single key")
  | other => Decoding.mismatch other.shape "string or map"

/-- What may be given for a case that carries nothing. -/
def nothing : Option Json → Except DecodeError Unit
  | none => .ok ()
  | some .null => .ok ()
  | some other => Decoding.mismatch other.shape "unit"

instance : SelfDescribing Json := ⟨shape, choice, nothing⟩

/-- What is said of a JSON value that could not be decoded. -/
def decodeMessage (e : DecodeError) : String := e.cause.text .compact

end PackageActions.Json
