import PackageActions.Decoding.Json
import PackageActions.Error.Basic

/-!
# Errors as JSON

An error is written as an object whose only key names its case and whose value holds its fields; an error
of one of the three domains holds the error of the domain. Reading accepts the same form, in which fields
may come in any order and others are passed over. The kind of an input or output failure is written by
name, and `IoKind.ofWritten` reads it back.
-/

namespace PackageActions

/-- A case and what it holds. -/
def Json.ofCase (name : String) (payload : Json) : Json := .object [(name, payload)]

/-! ## Writing -/

namespace ActionErrorKind

def toJson (kind : ActionErrorKind) : Json := .string kind.name

def decode (v : Json) : Except DecodeError ActionErrorKind :=
  Decoding.oneOf (all.map fun kind => (kind.name, kind)) v

end ActionErrorKind

def ActionError.toJson : ActionError → Json
  | .constructionForbidden c => .ofCase "ConstructionForbidden" (.object [("class", .string c)])
  | .unknownClass c => .ofCase "UnknownClass" (.object [("class", .string c)])
  | .typeMismatch context expected found =>
    .ofCase "TypeMismatch" (.object [("context", .string context), ("expected", .string expected),
      ("found", .string found)])
  | .unrecognizedOption c key =>
    .ofCase "UnrecognizedOption" (.object [("class", .string c), ("key", .string key)])
  | .missingField c field =>
    .ofCase "MissingField" (.object [("class", .string c), ("field", .string field)])
  | .wrongArity c given expected =>
    .ofCase "WrongArity" (.object [("class", .string c), ("given", .natural given),
      ("expected", .string expected)])

def ConfigError.toJson : ConfigError → Json
  | .notFound path => .ofCase "NotFound" (.object [("path", .string path)])
  | .invalid m => .ofCase "Invalid" (.object [("message", .string m)])
  | .unreadable m => .ofCase "ParseError" (.object [("message", .string m)])
  | .invalidValue field value =>
    .ofCase "InvalidValue" (.object [("field", .string field), ("value", .string value)])

def RepositoryError.toJson : RepositoryError → Json
  | .notFound name => .ofCase "NotFound" (.object [("name", .string name)])

def IoFailure.toJson (failure : IoFailure) : Json :=
  .object [("kind", .string failure.kind.name), ("message", .string failure.message)]

def Error.toJson : Error → Json
  | .action e => .ofCase "Action" e.toJson
  | .config e => .ofCase "Config" e.toJson
  | .repository e => .ofCase "Repository" e.toJson
  | .io failure => .ofCase "Io" failure.toJson

/-! ## Reading -/

namespace Decoding

/-- The check that a field is a text. -/
def textField (key : String) : String × (Json → Except DecodeError Unit) := (key, check text)

/-- The members of a case, after the check of the fields that are texts. -/
def textFields (keys : List String) (payload : Option Json) :
    Except DecodeError (List (String × Json)) := do
  let members ← fieldsOfCase payload
  checkMembers (keys.map textField) .ignored members
  pure members

end Decoding

open Decoding

def ActionError.decode : Json → Except DecodeError ActionError := caseOf [
  ("ConstructionForbidden", fun payload => do
    let fields ← textFields ["class"] payload
    let c ← required "class" text fields
    pure (.constructionForbidden c)),
  ("UnknownClass", fun payload => do
    let fields ← textFields ["class"] payload
    let c ← required "class" text fields
    pure (.unknownClass c)),
  ("TypeMismatch", fun payload => do
    let fields ← textFields ["context", "expected", "found"] payload
    let context ← required "context" text fields
    let expected ← required "expected" text fields
    let found ← required "found" text fields
    pure (.typeMismatch context expected found)),
  ("UnrecognizedOption", fun payload => do
    let fields ← textFields ["class", "key"] payload
    let c ← required "class" text fields
    let key ← required "key" text fields
    pure (.unrecognizedOption c key)),
  ("MissingField", fun payload => do
    let fields ← textFields ["class", "field"] payload
    let c ← required "class" text fields
    let field ← required "field" text fields
    pure (.missingField c field)),
  ("WrongArity", fun payload => do
    let fields ← fieldsOfCase payload
    checkMembers [textField "class", ("given", check count), textField "expected"] .ignored fields
    let c ← required "class" text fields
    let given ← required "given" count fields
    let expected ← required "expected" text fields
    pure (.wrongArity c given expected))]

def ConfigError.decode : Json → Except DecodeError ConfigError := caseOf [
  ("NotFound", fun payload => do
    let fields ← textFields ["path"] payload
    let path ← required "path" text fields
    pure (.notFound path)),
  ("Invalid", fun payload => do
    let fields ← textFields ["message"] payload
    let message ← required "message" text fields
    pure (.invalid message)),
  ("ParseError", fun payload => do
    let fields ← textFields ["message"] payload
    let message ← required "message" text fields
    pure (.unreadable message)),
  ("InvalidValue", fun payload => do
    let fields ← textFields ["field", "value"] payload
    let field ← required "field" text fields
    let value ← required "value" text fields
    pure (.invalidValue field value))]

def RepositoryError.decode : Json → Except DecodeError RepositoryError := caseOf [
  ("NotFound", fun payload => do
    let fields ← textFields ["name"] payload
    let name ← required "name" text fields
    pure (.notFound name))]

def Error.decode : Json → Except DecodeError Error := caseOf [
  ("Action", fun payload => Error.action <$> valueOfCase ActionError.decode payload),
  ("Config", fun payload => Error.config <$> valueOfCase ConfigError.decode payload),
  ("Repository", fun payload => Error.repository <$> valueOfCase RepositoryError.decode payload),
  ("Io", fun payload => do
    let fields ← textFields ["kind", "message"] payload
    let kind ← required "kind" Decoding.text fields
    let message ← required "message" Decoding.text fields
    pure (.io ⟨IoKind.ofWritten kind, message⟩))]

end PackageActions
