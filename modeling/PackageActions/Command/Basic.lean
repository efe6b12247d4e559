import PackageActions.Action.Options
import PackageActions.Text.Utf8

/-!
# Commands

What a user can ask for, and the settings given along with it.
-/

namespace PackageActions

/-- What is to be done: build a value by class name, list the classes, show the options of a fetch with
some flags set, or list the repositories that might support an action. -/
inductive Command where
  | new (className : String) (args : List String)
  | classes
  | fetchOptions (set : FetchOptions)
  | supports (action : String) (repository : Option String)
deriving DecidableEq, Inhabited

/-- A command with the settings that go with every command. -/
structure Invocation where
  json : Bool
  debug : Bool
  config : Option Bytes
  command : Command
deriving DecidableEq, Inhabited

/-- What a command line asks for. -/
inductive Request where
  | version
  | help
  | run (invocation : Invocation)
deriving DecidableEq, Inhabited

end PackageActions
