import PackageActions.Action.Kind
import PackageActions.Action.Options

/-!
# Actions

A fetch carries its options; the other actions carry nothing. As JSON an action is an object whose member
`action` names the kind, beside what the action carries. Reading passes over other members, and also
accepts an array of the kind and what the action carries.
-/

namespace PackageActions

/-- An action. -/
inductive Action where
  | fetch (options : FetchOptions)
  | info
  | config
deriving DecidableEq, Inhabited

namespace Action

def kind : Action → ActionKind
  | .fetch _ => .fetch
  | .info => .info
  | .config => .config

/-- Whether the action is of a kind. -/
def isOf (kind : ActionKind) (a : Action) : Bool := a.kind = kind

/-- The value of the case that an action belongs to. -/
def elim {α : Type} (fetch : FetchOptions → α) (info config : α) : Action → α
  | .fetch options => fetch options
  | .info => info
  | .config => config

/-- A flag in words. -/
def flagText (flag : Bool) : String := if flag then "true" else "false"

/-- The action in words. -/
def text : Action → String
  | .fetch o => "fetch (safe_resume=" ++ flagText o.safeResume ++ ", fetch_unneeded=" ++
      flagText o.fetchUnneeded ++ ")"
  | .info => "info"
  | .config => "config"

/-! ## JSON -/

def toJson (a : Action) : Json :=
  .object (("action", a.kind.toJson) :: a.elim (fun o => [("options", o.toJson)]) [] [])

open Decoding

/-- The kind that the tag of an action names. -/
def tagOf (v : Json) : Except DecodeError ActionKind :=
  match v with
  | .string _ => ActionKind.decode v
  | other => mismatch other.shape "variant identifier"

/-- What an action of a kind carries, from the members of an object. -/
def ofMembers (kind : ActionKind) (members : List (String × Json)) : Except DecodeError Action :=
  match kind with
  | .fetch => do
    let options ← required "options" (FetchOptions.decode .setAside) members
    pure (.fetch options)
  | .info => pure .info
  | .config => pure .config

/-- What an action of a kind carries, from the items behind the tag. -/
def ofItems (kind : ActionKind) (items : List Json) : Except DecodeError Action :=
  match kind with
  | .fetch => do
    let options ← requiredItem kind.className 1 0 (FetchOptions.decode .setAside) items
    atMost .setAside 1 items
    pure (.fetch options)
  | .info => do
    atMost .setAside 0 items
    pure .info
  | .config => do
    atMost .setAside 0 items
    pure .config

def decode (v : Json) : Except DecodeError Action :=
  match v with
  | .object members => do
    let kind ← required "action" tagOf members
    ofMembers kind members
  | .array [] => refuse (.missingField "action")
  | .array (tag :: items) => do
    let kind ← tagOf tag
    ofItems kind items
  | other => mismatch other.shape "internally tagged enum Action"

end Action

end PackageActions
