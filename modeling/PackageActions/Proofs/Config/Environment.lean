import PackageActions.Config.Environment
import PackageActions.Proofs.Text.Utf8

/-!
# Runs of environments

A configuration takes in one environment after another, also after failures (`mergeAll`). One step is
described by `merge_eq`: whether it fails is read off the environment alone (`Environment.failure?`), the
output format is taken over from a recognised text in any case, the options of a fetch only if nothing
fails, and the repositories never change. So after a run each setting has the value that the last
environment in a position to give one has given (`mergeAll_state`).
-/

namespace PackageActions

/-! ## Variables -/

namespace Environment

theorem text?_eq_some_iff {env : Environment} {name text : String} :
    env.text? name = some text ↔ env name = some (Text.encodeUtf8 text) := by
  simp only [text?, Option.bind_eq_some_iff, Text.decodeUtf8?_eq_some_iff, exists_eq_right]

/-- A variable that is not set and one whose bytes are no text count alike. -/
theorem text?_eq_none_iff {env : Environment} {name : String} :
    env.text? name = none ↔ ∀ text, env name ≠ some (Text.encodeUtf8 text) := by
  simp only [Option.eq_none_iff_forall_ne_some, ne_eq, text?_eq_some_iff]

/-- The texts recognised as an output format. -/
def outputTexts : Dictionary OutputFormat := [("plain", .plain), ("json", .json)]

/-- The texts recognised as a flag. -/
def flagTexts : Dictionary Bool :=
  [("true", true), ("1", true), ("yes", true), ("false", false), ("0", false), ("no", false)]

/-- The variables in the order in which they are looked at, each with the texts that it may hold. -/
def consulted : List (String × List String) :=
  [("PACT_OUTPUT", Dictionary.keys outputTexts), ("PACT_SAFE_RESUME", Dictionary.keys flagTexts),
    ("PACT_FETCH_UNNEEDED", Dictionary.keys flagTexts)]

/-- A variable is unset or holds one of its texts. -/
def Accepts (env : Environment) (var : String × List String) : Prop :=
  ∀ value, env.text? var.1 = some value → value ∈ var.2

/-- What is wrong with a variable. -/
def badValue? (env : Environment) (var : String × List String) : Option ConfigError :=
  match env.text? var.1 with
  | none => none
  | some value => if value ∈ var.2 then none else some (.invalidValue var.1 value)

/-- What is wrong with the first bad variable. -/
def failure? (env : Environment) : Option ConfigError := consulted.findSome? env.badValue?

/-- What a variable says, if it is set to a text that is recognised. -/
def given? {α : Type} (texts : Dictionary α) (name : String) (env : Environment) : Option α :=
  (env.text? name).bind (Dictionary.get? texts)

theorem badValue?_eq_none_iff {env : Environment} {var : String × List String} :
    env.badValue? var = none ↔ env.Accepts var := by
  unfold badValue? Accepts
  cases env.text? var.1 with
  | none => simp
  | some value => simp

theorem badValue?_eq_some_iff {env : Environment} {var : String × List String}
    {e : ConfigError} :
    env.badValue? var = some e ↔
      ∃ value, env.text? var.1 = some value ∧ value ∉ var.2 ∧
        e = .invalidValue var.1 value := by
  unfold badValue?
  cases env.text? var.1 with
  | none => simp
  | some value => simp [eq_comm]

theorem failure?_eq_none_iff {env : Environment} :
    env.failure? = none ↔ ∀ var ∈ consulted, env.Accepts var := by
  simp only [failure?, List.findSome?_eq_none_iff, badValue?_eq_none_iff]

theorem failure?_eq_some_iff {env : Environment} {e : ConfigError} :
    env.failure? = some e ↔
      ∃ before var after value, consulted = before ++ var :: after ∧
        (∀ earlier ∈ before, env.Accepts earlier) ∧ env.text? var.1 = some value ∧
        value ∉ var.2 ∧ e = .invalidValue var.1 value := by
  simp only [failure?, List.findSome?_eq_some_iff, badValue?_eq_none_iff, badValue?_eq_some_iff]
  constructor
  · rintro ⟨before, var, after, hsplit, ⟨value, htext, hbad, he⟩, hbefore⟩
    exact ⟨before, var, after, value, hsplit, hbefore, htext, hbad, he⟩
  · rintro ⟨before, var, after, value, hsplit, hbefore, htext, hbad, he⟩
    exact ⟨before, var, after, hsplit, ⟨value, htext, hbad, he⟩, hbefore⟩

end Environment

namespace Config

open Environment

/-! ## One environment -/

theorem outputOfText?_eq_get? (value : String) :
    outputOfText? value = Dictionary.get? outputTexts value := by
  simp only [outputOfText?, outputTexts, Dictionary.get?_cons, Dictionary.get?_nil, eq_comm]

theorem flagOfText?_eq_get? (value : String) :
    flagOfText? value = Dictionary.get? flagTexts value := by
  simp only [flagOfText?, flagTexts, Dictionary.get?_cons, Dictionary.get?_nil, Bool.or_eq_true,
    decide_eq_true_eq, @eq_comm _ value]
  grind

theorem setting_eq {α : Type} {read : String → Option α} {texts : Dictionary α}
    (hread : ∀ value, read value = Dictionary.get? texts value) (env : Environment) (name : String) :
    setting read env name =
      match env.badValue? (name, Dictionary.keys texts) with
      | some e => .error e
      | none => .ok (given? texts name env) := by
  unfold setting badValue? given?
  cases env.text? name with
  | none => rfl
  | some value =>
      simp only [hread, Dictionary.mem_keys_iff, Option.bind_some]
      cases Dictionary.get? texts value with
      | none => rfl
      | some a => rfl

/-- The options of a fetch after an environment that has nothing wrong with it. -/
def fetchAfter (env : Environment) (fetch : FetchOptions) : FetchOptions where
  safeResume := (given? flagTexts "PACT_SAFE_RESUME" env).getD fetch.safeResume
  fetchUnneeded := (given? flagTexts "PACT_FETCH_UNNEEDED" env).getD fetch.fetchUnneeded

/-- All that one environment does to a configuration. -/
theorem merge_eq (env : Environment) (config : Config) :
    config.merge env =
      ({ output := (given? outputTexts "PACT_OUTPUT" env).getD config.output
         fetch := if env.failure? = none then fetchAfter env config.fetch else config.fetch
         repositories := config.repositories }, env.failure?) := by
  unfold merge mergeFetch
  rw [setting_eq outputOfText?_eq_get?, setting_eq flagOfText?_eq_get?,
    setting_eq flagOfText?_eq_get?]
  cases houtput : env.badValue? ("PACT_OUTPUT", Dictionary.keys outputTexts) with
  | some e =>
      have hfailure : env.failure? = some e := by
        rw [failure?, consulted, List.findSome?_cons, houtput]
      -- a text that is not recognised gives no format
      obtain ⟨value, htext, hbad, -⟩ := badValue?_eq_some_iff.1 houtput
      rw [Dictionary.mem_keys_iff, Option.not_isSome_iff_eq_none] at hbad
      have hgiven : given? outputTexts "PACT_OUTPUT" env = none := by
        rw [given?, htext, Option.bind_some, hbad]
      rw [hfailure, hgiven]
      rfl
  | none =>
      cases hresume : env.badValue? ("PACT_SAFE_RESUME", Dictionary.keys flagTexts) with
      | some e =>
          have hfailure : env.failure? = some e := by
            rw [failure?, consulted, List.findSome?_cons, houtput, List.findSome?_cons, hresume]
          rw [hfailure]
          rfl
      | none =>
          have hfailure : env.failure? =
              env.badValue? ("PACT_FETCH_UNNEEDED", Dictionary.keys flagTexts) := by
            rw [failure?, consulted, List.findSome?_cons, houtput, List.findSome?_cons, hresume,
              List.findSome?_singleton]
          rw [hfailure]
          cases env.badValue? ("PACT_FETCH_UNNEEDED", Dictionary.keys flagTexts) with
          | some e => rfl
          | none => rfl

theorem merge_merge (env : Environment) (config : Config) :
    (config.merge env).1.merge env = config.merge env := by
  rw [merge_eq env (config.merge env).1, merge_eq env config]
  unfold fetchAfter
  split
  · simp only [← Option.getD_or, Option.or_self]
  · simp only [← Option.getD_or, Option.or_self]

/-! ## Runs -/

/-- One environment after the other: the configuration in the end, and what was wrong with each. -/
def mergeAll : List Environment → Config → Config × List (Option ConfigError)
  | [], config => (config, [])
  | env :: rest, config =>
    let step := config.merge env
    let run := mergeAll rest step.1
    (run.1, step.2 :: run.2)

/-- The value given last, or else the initial one. -/
def lastGiven {α : Type} (given : Environment → Option α) (envs : List Environment)
    (initial : α) : α :=
  (envs.filterMap given).getLast?.getD initial

theorem lastGiven_cons {α : Type} (given : Environment → Option α) (env : Environment)
    (envs : List Environment) (initial : α) :
    lastGiven given (env :: envs) initial =
      lastGiven given envs ((given env).getD initial) := by
  unfold lastGiven
  cases hgiven : given env with
  | none => rw [List.filterMap_cons_none hgiven, Option.getD_none]
  | some a =>
      rw [List.filterMap_cons_some hgiven, List.getLast?_cons, Option.getD_some, Option.getD_some]

/-- The environments that have nothing wrong with them. -/
def mergeable (envs : List Environment) : List Environment :=
  envs.filter fun env => env.failure?.isNone

theorem lastGiven_mergeable_cons {α : Type} (given : Environment → Option α) (env : Environment)
    (envs : List Environment) (initial : α) :
    lastGiven given (mergeable (env :: envs)) initial =
      lastGiven given (mergeable envs)
        (if env.failure? = none then (given env).getD initial else initial) := by
  unfold mergeable
  cases hfailure : env.failure? with
  | none => rw [List.filter_cons_of_pos (by rw [hfailure]; rfl), lastGiven_cons, if_pos rfl]
  | some e =>
      rw [List.filter_cons_of_neg (by rw [hfailure]; exact Bool.false_ne_true),
        if_neg (Option.some_ne_none e)]

theorem mergeAll_failures (envs : List Environment) (config : Config) :
    (mergeAll envs config).2 = envs.map failure? := by
  induction envs generalizing config with
  | nil => rfl
  | cons env rest ih =>
      show (config.merge env).2 :: (mergeAll rest (config.merge env).1).2 = _
      rw [ih, merge_eq, List.map_cons]

theorem mergeAll_state (envs : List Environment) (config : Config) :
    (mergeAll envs config).1 =
      { output := lastGiven (given? outputTexts "PACT_OUTPUT") envs config.output
        fetch :=
          { safeResume := lastGiven (given? flagTexts "PACT_SAFE_RESUME") (mergeable envs)
              config.fetch.safeResume
            fetchUnneeded := lastGiven (given? flagTexts "PACT_FETCH_UNNEEDED") (mergeable envs)
              config.fetch.fetchUnneeded }
        repositories := config.repositories } := by
  induction envs generalizing config with
  | nil => rfl
  | cons env rest ih =>
      show (mergeAll rest (config.merge env).1).1 = _
      rw [ih, merge_eq, lastGiven_cons, lastGiven_mergeable_cons, lastGiven_mergeable_cons]
      cases env.failure? with
      | none => rfl
      | some e => rfl

/-- What a run of environments comes to, failures included: each environment is refused or not by its own
variables, and each setting is the last one given, the flags by the environments that are not refused. A variable
holds a text if its bytes are those of the text, and otherwise counts as unset. -/
theorem mergeAll_decided_by_last_settings (envs : List Environment) (config : Config) :
    (∀ (env : Environment) name text, env.text? name = some text ↔
        env name = some (Text.encodeUtf8 text)) ∧
      (∀ (env : Environment) name, env.text? name = none ↔
        ∀ text, env name ≠ some (Text.encodeUtf8 text)) ∧
      (mergeAll envs config).2 = envs.map failure? ∧
      (∀ env : Environment, env.failure? = none ↔ ∀ var ∈ consulted, env.Accepts var) ∧
      (∀ (env : Environment) (e : ConfigError), env.failure? = some e ↔
        ∃ before var after value, consulted = before ++ var :: after ∧
          (∀ earlier ∈ before, env.Accepts earlier) ∧ env.text? var.1 = some value ∧
          value ∉ var.2 ∧ e = .invalidValue var.1 value) ∧
      (mergeAll envs config).1.repositories = config.repositories ∧
      (mergeAll envs config).1.fetch.safeResume =
        lastGiven (given? flagTexts "PACT_SAFE_RESUME") (mergeable envs) config.fetch.safeResume ∧
      (mergeAll envs config).1.fetch.fetchUnneeded =
        lastGiven (given? flagTexts "PACT_FETCH_UNNEEDED") (mergeable envs)
          config.fetch.fetchUnneeded ∧
      (mergeAll envs config).1.output =
        lastGiven (given? outputTexts "PACT_OUTPUT") envs config.output ∧
      (∀ env : Environment, (config.merge env).2 ≠ none →
        (config.merge env).1.fetch = config.fetch) ∧
      ∀ env : Environment, (config.merge env).1.merge env = config.merge env := by
  have hstate := mergeAll_state envs config
  refine ⟨fun _ _ _ => text?_eq_some_iff, fun _ _ => text?_eq_none_iff, mergeAll_failures envs config,
    fun _ => failure?_eq_none_iff,
    fun _ _ => failure?_eq_some_iff, ?_, ?_, ?_, ?_, ?_, fun env => merge_merge env config⟩
  · rw [hstate]
  · rw [hstate]
  · rw [hstate]
  · rw [hstate]
  · intro env hfailure
    rw [merge_eq] at hfailure ⊢
    exact if_neg hfailure

/-- The second environment is refused for a flag, so it gives the output format and no flag; the third holds
bytes that are no text, which count as unset. -/
example :
    let first : Environment := fun name => if name = "PACT_SAFE_RESUME" then some (Text.encodeUtf8 "yes") else none
    let second : Environment := fun name =>
      if name = "PACT_OUTPUT" then some (Text.encodeUtf8 "json")
      else if name = "PACT_SAFE_RESUME" then some (Text.encodeUtf8 "no")
      else if name = "PACT_FETCH_UNNEEDED" then some (Text.encodeUtf8 "maybe") else none
    let third : Environment := fun name => if name = "PACT_OUTPUT" then some [0xff] else none
    mergeAll [first, second, third] {} = ({ output := .json, fetch := ⟨true, false⟩ },
      [none, some (.invalidValue "PACT_FETCH_UNNEEDED" "maybe"), none]) := by decide +kernel

end Config

end PackageActions
