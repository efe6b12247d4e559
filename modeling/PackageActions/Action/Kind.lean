import PackageActions.Error.Json

/-!
# Kinds of action

There are three things a package can be asked to do. A kind has a short name and the name of a class; a
text names a kind by its short name, in letters of either case, or by its class name as it stands.
-/

namespace PackageActions

/-- What a package can be asked to do. -/
inductive ActionKind where
  | fetch
  | info
  | config
deriving DecidableEq, Ord, Inhabited

namespace ActionKind

def all : List ActionKind := [.fetch, .info, .config]

/-- The short name. -/
def name : ActionKind → String
  | .fetch => "fetch"
  | .info => "info"
  | .config => "config"

/-- The name of the class of actions of this kind. -/
def className : ActionKind → String
  | .fetch => "FetchAction"
  | .info => "InfoAction"
  | .config => "ConfigAction"

/-- Whether a text names the kind. Only the letters A to Z have two cases here. -/
def isNamedBy (kind : ActionKind) (text : String) : Bool :=
  text.toList.map Char.toLower = kind.name.toList || text = kind.className

/-- The kind that a text names. -/
def ofText (text : String) : Except ActionError ActionKind :=
  match all.find? fun kind => kind.isNamedBy text with
  | some kind => .ok kind
  | none => .error (.unknownClass text)

/-! ## JSON -/

def toJson (kind : ActionKind) : Json := .string kind.name

/-- Reads a kind; only the short name in small letters is accepted. -/
def decode (v : Json) : Except DecodeError ActionKind :=
  Decoding.oneOf (all.map fun kind => (kind.name, kind)) v

end ActionKind

end PackageActions
