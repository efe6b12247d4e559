import PackageActions.Argument.Construct
import PackageActions.Config.Decode
import PackageActions.Decoding.Toml
import PackageActions.Toml.Document

/-!
# Configuration files

The text of a configuration file is a TOML document of three sections. What is wrong with it is looked for
in this order: the syntax, a section that is unknown, the section on fetches, and the rest. The section on
fetches follows the rules for named arguments, so what is wrong with it is reported as for arguments.
-/

namespace PackageActions

/-! ## Options of a fetch -/

mutual

/-- The argument that a TOML value stands for. A table is a mapping whatever its keys are, and a date-time
is its text. -/
def Toml.toArgument : Toml → Argument
  | .string s => .text s
  | .integer n => .integer n
  | .float x => .float x
  | .boolean b => .bool b
  | .datetime t => .text t.text
  | .array items => .list (Toml.toArguments items)
  | .table entries => .mapping (Toml.toNamedArguments entries)

def Toml.toArguments : List Toml → List Argument
  | [] => []
  | item :: rest => Toml.toArgument item :: Toml.toArguments rest

def Toml.toNamedArguments : List (String × Toml) → List (String × Argument)
  | [] => []
  | (key, value) :: rest => (key, Toml.toArgument value) :: Toml.toNamedArguments rest

end

/-- The options that a table gives. -/
def FetchOptions.ofTable (table : Toml.Table) : Except ActionError FetchOptions :=
  FetchOptions.ofMapping (Toml.toNamedArguments table)

/-! ## Whole files -/

namespace Config

/-- The sections of a configuration file. -/
def sections : List String := ["general", "fetch", "repositories"]

/-- What is said of a text that is no TOML document. It stands for the message of a TOML reader, which would also
tell where the text goes wrong; here it is the same for all texts. -/
def syntaxMessage : String := "not a TOML document"

/-- The options in the section on fetches; all flags are off if there is none. -/
def fetchOfTable (table : Toml.Table) : Except Error FetchOptions :=
  match Dictionary.get? table "fetch" with
  | none => .ok {}
  | some (.table entries) => (FetchOptions.ofTable entries).mapError .action
  | some other => .error (.config (.invalidValue "fetch" other.typeName))

/-- The configuration that a table gives. -/
def ofTable (table : Toml.Table) : Except Error Config := do
  match (Dictionary.keys table).find? fun key => !sections.contains key with
  | some key => .error (.config (.invalid ("unknown section [" ++ key ++ "]")))
  | none => pure ()
  let fetch ← fetchOfTable table
  let rest := Toml.table (Dictionary.erase table "fetch")
  let config ← (decode rest).mapError fun e => .config (.unreadable (Toml.decodeMessage e))
  pure { config with fetch }

/-- The configuration that a text gives. -/
def ofToml (text : String) : Except Error Config :=
  match Toml.parse? text with
  | none => .error (.config (.unreadable syntaxMessage))
  | some table => ofTable table

end Config

end PackageActions
