import PackageActions.Json.Writer
import PackageActions.Object
import PackageActions.Text.Table

/-!
# What commands answer

An answer is shown as plain lines, or as a JSON object that names its type. The JSON form holds all of the
answer; the plain form is for reading.
-/

namespace PackageActions

/-- The answer of a command. -/
inductive Output where
  | object (o : Object)
  | fetchOptions (o : FetchOptions)
  | classes (classes : List Class)
  | supports (action : ActionKind) (repositories : List String)
deriving DecidableEq

namespace Output

/-! ## JSON -/

/-- A typed object around some data, the form of everything written as JSON. -/
def envelope (type : String) (data : Json) : Json := .object [("type", .string type), ("data", data)]

def classToJson (c : Class) : Json :=
  .object [("name", .string c.name), ("superclass", .ofText? (c.superclass?.map Class.name)),
    ("is_abstract", .bool c.isAbstract)]

def toJson : Output → Json
  | object o => envelope "object" o.toJson
  | fetchOptions o => envelope "fetch_options" o.toJson
  | classes cs => envelope "classes" (.array (cs.map classToJson))
  | supports action repositories =>
    envelope "supports" (.object [("action", action.toJson),
      ("repositories", .array (repositories.map .string))])

/-! ## Plain lines -/

/-- A line for a field. -/
def fieldLine (key value : String) : String := "  " ++ key ++ ": " ++ value

def optionLines (o : FetchOptions) : List String :=
  [fieldLine "safe_resume" (Action.flagText o.safeResume),
    fieldLine "fetch_unneeded" (Action.flagText o.fetchUnneeded)]

def failureLines (f : FetchFailure) : List String :=
  [fieldLine "target_file" f.targetFile,
    fieldLine "requires_manual_fetching" (Action.flagText f.requiresManualFetching),
    fieldLine "failed_automatic_fetching" (Action.flagText f.failedAutomaticFetching),
    fieldLine "failed_integrity_checks" f.failedIntegrityChecks]

def objectLines : Object → List String
  | .action a => [fieldLine "action" a.text]
  | .options o => optionLines o
  | .failure f => failureLines f
  | .probe p => [fieldLine "action" p.kind.name]

def classRow (c : Class) : List String :=
  [c.name, (c.superclass?.map Class.name).getD "-", if c.isAbstract then "yes" else "no"]

def lines : Output → List String
  | object o => o.classOf.name :: objectLines o
  | fetchOptions o => optionLines o
  | classes cs => Text.Table.lines ["Class", "Superclass", "Abstract"] (cs.map classRow)
  | supports action [] => ["No repository supports " ++ action.name ++ "."]
  | supports _ repositories => repositories

/-! ## Either form -/

/-- Lines, each with its end. -/
def joinLines (lines : List String) : String := String.join (lines.map fun line => line ++ "\n")

/-- The answer as it is shown. -/
def text (json : Bool) (output : Output) : String :=
  if json then joinLines [output.toJson.pretty] else joinLines output.lines

end Output

end PackageActions
