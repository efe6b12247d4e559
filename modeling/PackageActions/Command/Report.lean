import PackageActions.Command.Output
import PackageActions.Error.Json

/-!
# Reports of failures

A command fails with an error, or because its answer could not be written. A failure is reported in lines,
and as JSON in the same envelope as answers; both give the message, the kind, the code and the hint, and
the JSON form holds the whole error besides.
-/

namespace PackageActions

/-- Why a command failed. -/
inductive Failure where
  | known (e : Error)
  | writing (failure : IoFailure)
deriving DecidableEq, Inhabited

namespace Failure

/-- A line behind the message, if there is something to say. -/
def detail (label : String) : Option String → String
  | some text => "\n  " ++ label ++ ": " ++ text
  | none => ""

/-- The report in lines. -/
def text : Failure → String
  | known e =>
    e.message ++ detail "Kind" (e.actionKind?.map ActionErrorKind.text) ++ detail "Code" (some e.code) ++
      detail "Hint" e.hint?
  | writing failure => "I/O error: " ++ failure.message

/-- The text of the error behind the failure. -/
def source : Failure → String
  | known e => e.text
  | writing failure => failure.message

/-- A member, if there is something to say. -/
def member (key : String) : Option Json → List (String × Json)
  | some v => [(key, v)]
  | none => []

def toJson : Failure → Json
  | known e =>
    Output.envelope "error" (.object (("message", .string e.message) ::
      member "kind" (e.actionKind?.map ActionErrorKind.toJson) ++ [("code", .string e.code)] ++
      member "hint" (e.hint?.map .string) ++ [("error", e.toJson)]))
  | writing failure =>
    Output.envelope "error" (.object [("message", .string failure.message),
      ("code", .string "error.io")])

end Failure

end PackageActions
