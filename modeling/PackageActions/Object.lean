import PackageActions.Action.Probe
import PackageActions.Class

/-!
# Built values

What can be built by class name: actions, the options of a fetch, records of failed files, and probes.
These are four families. As JSON a built value is tagged with its family, which need not be its class;
the family says how the rest is to be read.
-/

namespace PackageActions

/-- A built value. -/
inductive Object where
  | action (a : Action)
  | options (o : FetchOptions)
  | failure (f : FetchFailure)
  | probe (p : AnyProbe)
deriving DecidableEq

/-- The families of built values. -/
inductive Family where
  | action
  | options
  | failure
  | probe
deriving DecidableEq, Inhabited

def Family.name : Family → String
  | .action => "Action"
  | .options => FetchOptions.className
  | .failure => FetchFailure.className
  | .probe => "SupportsActionTest"

namespace Object

/-- The most derived class of the value. -/
def classOf : Object → Class
  | .action a => .ofAction a.kind
  | .options _ => .fetchOptions
  | .failure _ => .fetchFailure
  | .probe p => .ofProbe p.kind

/-- Whether the value belongs to a class, directly or from below. -/
def isA (c : Class) (o : Object) : Bool := o.classOf.isSubclassOf c

/-- The action, if the value is one. -/
def action? : Object → Option Action
  | .action a => some a
  | _ => none

/-! ## JSON -/

def family : Object → Family
  | .action _ => .action
  | .options _ => .options
  | .failure _ => .failure
  | .probe _ => .probe

/-- The value without its tag. -/
def content : Object → Json
  | .action a => a.toJson
  | .options o => o.toJson
  | .failure f => f.toJson
  | .probe p => p.toJson

def toJson (o : Object) : Json := .object [("class", .string o.family.name), ("value", o.content)]

/-- Reads the content of a value of a family. -/
def decodeContent (family : Family) (v : Json) : Except DecodeError Object :=
  match family with
  | .action => .action <$> Action.decode v
  | .options => .options <$> FetchOptions.decode .direct v
  | .failure => .failure <$> FetchFailure.decode v
  | .probe => .probe <$> AnyProbe.decode v

end Object

end PackageActions
