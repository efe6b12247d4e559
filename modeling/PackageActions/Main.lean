import PackageActions.Command.Run
import PackageActions.Error.Numbered

/-!
# The program

Everything the program reads from outside is read before it decides anything: its words, the variables
it may look at, and the one configuration file that its words and variables lead to.
-/

namespace PackageActions.Main

/-- The failure of a numbered error; some calls give the number with its sign reversed. -/
def numbered (number : UInt32) : IoFailure :=
  .ofNumber (if number < 0x80000000 then number else 0 - number).toNat

/-- The failure that an exception stands for. -/
def failureOf (e : IO.Error) : IoFailure :=
  match e with
  | .noFileOrDirectory _ number _ => numbered number
  | .noSuchThing _ number _ => numbered number
  | .permissionDenied _ number _ => numbered number
  | .inappropriateType _ number _ => numbered number
  | .invalidArgument _ number _ => numbered number
  | .resourceBusy number _ => numbered number
  | .otherError number _ => numbered number
  | other => ⟨.other, other.toString⟩

/-- The outcome of an action. -/
def attempt {α : Type} (action : IO α) : IO (Except IoFailure α) := do
  match ← action.toBaseIO with
  | .ok a => pure (.ok a)
  | .error e => pure (.error (failureOf e))

/-- The bytes of a file. -/
def readFile (path : String) : IO Bytes := do
  let bytes ← IO.FS.readBinFile path
  pure bytes.toList

/-- Whether a path leads anywhere. -/
def lookUp (path : String) : IO Unit := do
  let _ ← IO.FS.realPath path
  pure ()

/-- The variables that the program looks at. -/
def variableNames : List String :=
  ["HOME", "XDG_CONFIG_HOME", "PACT_CONFIG", "PACT_OUTPUT", "PACT_SAFE_RESUME", "PACT_FETCH_UNNEEDED"]

/-- The environment of the program. -/
def environment : IO Environment := do
  let values ← variableNames.mapM fun name => do
    let value ← IO.getEnv name
    pure (name, value.map Text.encodeUtf8)
  pure fun name => (values.lookup name).join

/-- The path of the configuration file that a request leads to. -/
def configFile? (env : Environment) : Except UsageError Request → Option Bytes
  | .ok (.run invocation) =>
    match invocation.config, Config.defaultPath env with
    | some path, _ => some path
    | none, .ok path => some path
    | none, .error _ => none
  | _ => none

/-- The answers of the file system for one path. -/
def filesAt (path : Option Bytes) : IO Files := do
  match path.bind Text.decodeUtf8? with
  | none => pure ⟨fun _ => .error .noSuchFile, fun _ => .error .noSuchFile⟩
  | some path => do
    let found ← attempt (lookUp path)
    let contents ← attempt (readFile path)
    pure ⟨fun _ => found, fun _ => contents⟩

/-- Runs the program on its words. -/
def run (words : List String) : IO UInt32 := do
  let words := words.map Text.encodeUtf8
  let env ← environment
  let files ← filesAt (configFile? env (CommandLine.parse env words))
  let outcome := CommandLine.respond files env words
  IO.print outcome.stdout
  IO.eprint outcome.stderr
  pure (UInt32.ofNat outcome.exitCode)

end PackageActions.Main

def main (words : List String) : IO UInt32 := PackageActions.Main.run words
