import PackageActions.Action.Failure
import PackageActions.Action.Kind
import PackageActions.Action.Options

/-!
# Classes

Values are built by the name of their class. Two classes are abstract: they only stand above others, and
the hierarchy is no deeper than that.
-/

namespace PackageActions

/-- A class of values. -/
inductive Class where
  | action
  | fetchAction
  | infoAction
  | configAction
  | fetchOptions
  | fetchFailure
  | probe
  | fetchProbe
  | infoProbe
  | configProbe
deriving DecidableEq, Inhabited

namespace Class

/-- Every class, in the order in which they are listed. -/
def all : List Class :=
  [.action, .fetchAction, .infoAction, .configAction, .fetchOptions, .fetchFailure, .probe,
    .fetchProbe, .infoProbe, .configProbe]

def name : Class → String
  | .action => "Action"
  | .fetchAction => ActionKind.fetch.className
  | .infoAction => ActionKind.info.className
  | .configAction => ActionKind.config.className
  | .fetchOptions => FetchOptions.className
  | .fetchFailure => FetchFailure.className
  | .probe => "SupportsActionTestBase"
  | .fetchProbe => "SupportsFetchActionTest"
  | .infoProbe => "SupportsInfoActionTest"
  | .configProbe => "SupportsConfigActionTest"

/-- Whether values can only be built of classes below this one. -/
def isAbstract : Class → Bool
  | .action => true
  | .probe => true
  | _ => false

/-- The class directly above. -/
def superclass? : Class → Option Class
  | .fetchAction => some .action
  | .infoAction => some .action
  | .configAction => some .action
  | .fetchProbe => some .probe
  | .infoProbe => some .probe
  | .configProbe => some .probe
  | _ => none

/-- Whether a class is another one or below it. -/
def isSubclassOf (c other : Class) : Bool :=
  c = other || c.superclass? = some other

/-- The class of actions of a kind. -/
def ofAction : ActionKind → Class
  | .fetch => .fetchAction
  | .info => .infoAction
  | .config => .configAction

/-- The class of probes for a kind. -/
def ofProbe : ActionKind → Class
  | .fetch => .fetchProbe
  | .info => .infoProbe
  | .config => .configProbe

/-- The class of a name. -/
def ofName (name : String) : Except ActionError Class :=
  match all.find? fun c => c.name = name with
  | some c => .ok c
  | none => .error (.unknownClass name)

end Class

end PackageActions
