import PackageActions.Binary64.Text
import PackageActions.Json.Basic
import PackageActions.Text.Quoted

/-!
# Writing JSON

`Json.compact` writes a value without blanks; `Json.pretty` puts every item and member on a line of its
own, two spaces deeper than its container. Members appear in the order listed.
-/

namespace PackageActions.Json

/-- The text of a value that holds no other. -/
def scalarText : Json → String
  | .null => "null"
  | .bool b => if b then "true" else "false"
  | .integer n => toString n
  | .float x => if x.isFinite then x.text .compact else "null"
  | .string s => Text.jsonQuoted s
  | .array _ => "[]"
  | .object _ => "\x7b\x7d"

/-- Puts brackets around texts set apart by commas. -/
def enclose (opening closing : String) (parts : List String) : String :=
  opening ++ String.intercalate "," parts ++ closing

mutual

/-- The value on one line, without blanks. -/
def compact : Json → String
  | .array items => enclose "[" "]" (compactItems items)
  | .object members => enclose "\x7b" "\x7d" (compactMembers members)
  | scalar => scalarText scalar

def compactItems : List Json → List String
  | [] => []
  | item :: rest => compact item :: compactItems rest

def compactMembers : List (String × Json) → List String
  | [] => []
  | (key, value) :: rest => (Text.jsonQuoted key ++ ":" ++ compact value) :: compactMembers rest

end

/-- A new line with the blanks of a depth. -/
def newline (depth : Nat) : String :=
  String.ofList ('\n' :: List.replicate (2 * depth) ' ')

/-- Puts brackets around texts on lines of their own. -/
def encloseLines (depth : Nat) (opening closing : String) (parts : List String) : String :=
  if parts.isEmpty then opening ++ closing
  else opening ++ newline (depth + 1) ++ String.intercalate ("," ++ newline (depth + 1)) parts ++
    newline depth ++ closing

mutual

/-- The value over several lines, as part of a text at some depth. -/
def prettyAt (depth : Nat) : Json → String
  | .array items => encloseLines depth "[" "]" (prettyItems (depth + 1) items)
  | .object members => encloseLines depth "\x7b" "\x7d" (prettyMembers (depth + 1) members)
  | scalar => scalarText scalar

def prettyItems (depth : Nat) : List Json → List String
  | [] => []
  | item :: rest => prettyAt depth item :: prettyItems depth rest

def prettyMembers (depth : Nat) : List (String × Json) → List String
  | [] => []
  | (key, value) :: rest =>
    (Text.jsonQuoted key ++ ": " ++ prettyAt depth value) :: prettyMembers depth rest

end

/-- The value over several lines. -/
def pretty (value : Json) : String := prettyAt 0 value

end PackageActions.Json
