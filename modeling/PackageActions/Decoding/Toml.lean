import PackageActions.Decoding.Message
import PackageActions.Toml.Basic

/-!
# Decoding TOML

A case is named by a string, or by the only key of a table. A case that carries nothing may be given an
empty array or an empty table. A date-time is a string, except that it names no case.
-/

namespace PackageActions.Toml

/-- The shape of a value. -/
def shape : Toml → Shape Toml
  | .string s => .string s
  | .integer n => .integer n.toInt
  | .float x => .float x
  | .boolean b => .bool b
  | .datetime t => .string t.text
  | .array items => .sequence items
  | .table entries => .map entries

/-- The case that a value names. -/
def choice : Toml → Except DecodeError (Choice Toml)
  | .string s => .ok ⟨s, none⟩
  | .table [(name, payload)] => .ok ⟨name, some payload⟩
  | .table [] => Decoding.refuse (.badCase "wanted exactly 1 element, found 0 elements")
  | .table _ => Decoding.refuse (.badCase "wanted exactly 1 element, more than 1 element")
  | _ => Decoding.refuse (.invalidType .bareCase "string only")

/-- What may be given for a case that carries nothing. -/
def nothing : Option Toml → Except DecodeError Unit
  | none => .ok ()
  | some (.array []) => .ok ()
  | some (.table []) => .ok ()
  | some (.array _) => Decoding.refuse (.badCase "expected empty array")
  | some (.table _) => Decoding.refuse (.badCase "expected empty table")
  | some other => Decoding.refuse (.badCase ("expected table, found " ++ other.typeName))

instance : SelfDescribing Toml := ⟨shape, choice, nothing⟩

/-- What is said of a TOML value that could not be decoded. -/
def decodeMessage (e : DecodeError) : String := e.cause.text .positional ++ "\n" ++ e.place

end PackageActions.Toml
