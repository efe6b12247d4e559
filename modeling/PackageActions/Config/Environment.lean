import PackageActions.Config.Basic
import PackageActions.Error.Basic
import PackageActions.Text.Utf8

/-!
# Settings from the environment

Three variables override the configuration. They are looked at one after the other, and a variable that is
no text counts as unset. The output format takes effect as soon as its variable is read, the options of a
fetch only once all variables are.
-/

namespace PackageActions

/-- The values of variables. -/
abbrev Environment := String → Option Bytes

/-- The text of a variable. -/
def Environment.text? (env : Environment) (name : String) : Option String :=
  (env name).bind Text.decodeUtf8?

namespace Config

/-- The output format that a value names. -/
def outputOfText? (value : String) : Option OutputFormat :=
  if value = "plain" then some .plain
  else if value = "json" then some .json
  else none

/-- The flag that a value spells. -/
def flagOfText? (value : String) : Option Bool :=
  if value = "true" || value = "1" || value = "yes" then some true
  else if value = "false" || value = "0" || value = "no" then some false
  else none

/-- A setting from the environment, if its variable is set. -/
def setting {α : Type} (read : String → Option α) (env : Environment) (name : String) :
    Except ConfigError (Option α) :=
  match env.text? name with
  | none => .ok none
  | some value =>
    match read value with
    | some a => .ok (some a)
    | none => .error (.invalidValue name value)

/-- The options of a fetch with the flags set in the environment. -/
def mergeFetch (env : Environment) (o : FetchOptions) : Except ConfigError FetchOptions := do
  let safeResume ← setting flagOfText? env "PACT_SAFE_RESUME"
  let fetchUnneeded ← setting flagOfText? env "PACT_FETCH_UNNEEDED"
  pure ⟨safeResume.getD o.safeResume, fetchUnneeded.getD o.fetchUnneeded⟩

/-- The configuration after the environment, and the error of the first bad variable. After an error the
settings read before it stay in force. -/
def merge (env : Environment) (config : Config) : Config × Option ConfigError :=
  match setting outputOfText? env "PACT_OUTPUT" with
  | .error e => (config, some e)
  | .ok output =>
    let config := { config with output := output.getD config.output }
    match mergeFetch env config.fetch with
    | .error e => (config, some e)
    | .ok fetch => ({ config with fetch }, none)

end Config

end PackageActions
