import PackageActions.Argument.OfJson
import PackageActions.Command.Line
import PackageActions.Command.Report
import PackageActions.Config.Load
import PackageActions.Json.Reader
import PackageActions.Repository.Set

/-!
# Running commands

A command runs in three steps, and the first that fails decides the outcome: the configuration is loaded,
the environment is merged into it, and the command itself is carried out. Success shows one answer on
standard output. Failure leaves standard output empty, unless JSON was asked for on the command line, and
then it holds the report.
-/

namespace PackageActions

/-- What a run leaves behind. -/
structure Outcome where
  exitCode : Nat
  stdout : String
  stderr : String
deriving DecidableEq, Inhabited

/-! ## One command -/

/-- The argument that a word of a command line stands for: a JSON value, or else the word itself. -/
def Argument.ofWord (word : String) : Except ActionError Argument :=
  match Json.parse? word with
  | some v => ofJson v
  | none => .ok (.text word)

namespace Command

/-- Builds a value from the words of a command line. -/
def build (className : String) (words : List String) : Except ActionError Object := do
  let c ← Class.ofName className
  let args ← words.mapM Argument.ofWord
  construct c args

/-- The kind of action asked about, and the repositories that might support it. -/
def supporters (config : Config) (action : String) (repository : Option String) :
    Except Error Output := do
  let kind ← (ActionKind.ofText action).mapError .action
  let set := RepositorySet.ofConfig config.repositories
  let probe := AnyProbe.ofKind kind
  match repository with
  | none => pure (.supports kind (set.mightSupport probe))
  | some name => do
    let answer ← (set.ask name probe).mapError .repository
    pure (.supports kind (if answer then [name] else []))

/-- Carries out a command under a configuration. -/
def execute (config : Config) : Command → Except Error Output
  | new className args => (.object <$> build className args).mapError .action
  | classes => .ok (.classes Class.all)
  | fetchOptions _ => .ok (.fetchOptions config.fetch)
  | supports action repository => supporters config action repository

/-- The configuration with the flags of the command set. -/
def adjust (config : Config) : Command → Config
  | fetchOptions set =>
    { config with
      fetch := ⟨config.fetch.safeResume || set.safeResume,
        config.fetch.fetchUnneeded || set.fetchUnneeded⟩ }
  | _ => config

end Command

/-! ## Whole runs -/

namespace Invocation

/-- The configuration in force for a command. -/
def settings (files : Files) (env : Environment) (invocation : Invocation) : Except Error Config := do
  let config ← Config.load files env invocation.config
  match config.merge env with
  | (config, none) => pure (invocation.command.adjust config)
  | (_, some e) => .error (.config e)

/-- The answer of a command, and whether it is to be shown as JSON. -/
def answer (files : Files) (env : Environment) (invocation : Invocation) :
    Except Error (Output × Bool) := do
  let config ← invocation.settings files env
  let output ← invocation.command.execute config
  pure (output, invocation.json || config.output = .json)

/-- Runs a command. -/
def run (files : Files) (env : Environment) (invocation : Invocation) : Outcome :=
  match invocation.answer files env with
  | .ok (output, json) => ⟨0, output.text json, ""⟩
  | .error e =>
    let failure := Failure.known e
    { exitCode := 1
      stdout := if invocation.json then Output.joinLines [failure.toJson.pretty] else ""
      stderr := Output.joinLines ["Error: " ++ failure.text] }

end Invocation

namespace CommandLine

/-- The version of the program. -/
def versionLine : String := "pact 0.1.0"

/-- How the program is called. -/
def usageLines : List String :=
  ["Usage: pact [--json] [--debug] [--config PATH] COMMAND",
    "",
    "Commands:",
    "  new CLASS [ARGS]...",
    "  classes",
    "  fetch-options [--safe-resume] [--fetch-unneeded]",
    "  supports ACTION [--repository NAME]"]

/-- Grants a request. -/
def grant (files : Files) (env : Environment) : Request → Outcome
  | .version => ⟨0, Output.joinLines [versionLine], ""⟩
  | .help => ⟨0, Output.joinLines usageLines, ""⟩
  | .run invocation => invocation.run files env

/-- Reads a command line and does what it asks for. -/
def respond (files : Files) (env : Environment) (words : List Bytes) : Outcome :=
  match parse env words with
  | .ok request => grant files env request
  | .error e => ⟨2, "", Output.joinLines ["error: " ++ e.message]⟩

end CommandLine

end PackageActions
