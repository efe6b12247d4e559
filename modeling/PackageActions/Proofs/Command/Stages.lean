import Mathlib.Control.Monad.Basic
import Mathlib.Logic.ExistsUnique
import PackageActions.Proofs.Class
import PackageActions.Proofs.Command.Shown
import PackageActions.Proofs.Command.Supporters
import PackageActions.Proofs.Config.Loading

/-!
# Stages of a run

A run goes through stages: the configuration is loaded, the environment is merged into it, and the command
is carried out, in stages of its own. The relations below say for each stage what it means that it is
the first to fail, in terms of what the stages in front of it have found (`Command.Builds`, `Command.Ends`,
`Invocation.FailsToStart`, `Invocation.Ends`). A run ends in exactly one way, and that decides all that is
left behind (`CommandLine.respond_decided_by_stages`).
-/

namespace PackageActions

open Dictionary

/-! ## One command -/

namespace Command

/-- What comes of building a value from words: the name of the class is looked up, the words are read from
left to right, and the value is built. -/
inductive Builds (className : String) (words : List String) : Except ActionError Object → Prop where
  | unknownClass (hclass : className ∉ Class.all.map Class.name) :
      Builds className words (.error (.unknownClass className))
  | badWord {c : Class} {before after : List String} {word : String} {e : ActionError}
      (hclass : c.name = className) (hwords : words = before ++ word :: after)
      (hbefore : ∀ earlier ∈ before, ∃ a, Argument.ofWord earlier = .ok a)
      (hword : Argument.ofWord word = .error e) : Builds className words (.error e)
  | constructed {c : Class} {args : List Argument} (hclass : c.name = className)
      (hargs : List.Forall₂ (fun word a => Argument.ofWord word = .ok a) words args) :
      Builds className words (construct c args)

/-- How a command ends under a configuration: with an answer, or with the error of its first stage that
fails. -/
inductive Ends (config : Config) : Command → Except Error Output → Prop where
  | built {className : String} {words : List String} {o : Object}
      (h : Builds className words (.ok o)) : Ends config (.new className words) (.ok (.object o))
  | notBuilt {className : String} {words : List String} {e : ActionError}
      (h : Builds className words (.error e)) : Ends config (.new className words) (.error (.action e))
  | classes : Ends config .classes (.ok (.classes Class.all))
  | fetchOptions {set : FetchOptions} :
      Ends config (.fetchOptions set) (.ok (.fetchOptions config.fetch))
  | unknownAction {action : String} {repository : Option String}
      (haction : ∀ kind, ActionKind.ofText action ≠ .ok kind) :
      Ends config (.supports action repository) (.error (.action (.unknownClass action)))
  | unknownRepository {action name : String} {kind : ActionKind}
      (haction : ActionKind.ofText action = .ok kind) (hname : name ∉ keys config.repositories) :
      Ends config (.supports action (some name)) (.error (.repository (.notFound name)))
  | asked {action name : String} {kind : ActionKind} {answer : Bool}
      (haction : ActionKind.ofText action = .ok kind)
      (hanswer : (RepositorySet.ofConfig config.repositories).ask name (AnyProbe.ofKind kind) = .ok answer) :
      Ends config (.supports action (some name)) (.ok (.supports kind (if answer then [name] else [])))
  | askedAll {action : String} {kind : ActionKind} (haction : ActionKind.ofText action = .ok kind) :
      Ends config (.supports action none) (.ok (.supports kind (supportersOf config kind)))

theorem build_name (c : Class) (words : List String) :
    build c.name words = words.mapM Argument.ofWord >>= construct c := by
  rw [build, Class.ofName_name]
  rfl

theorem Builds.build_eq {className : String} {words : List String} {r : Except ActionError Object}
    (h : Builds className words r) : build className words = r := by
  cases h with
  | unknownClass hclass =>
      rw [build, Class.ofName_eq_error_iff.2 ⟨hclass, rfl⟩]
      rfl
  | badWord hclass hwords hbefore hword =>
      rw [← hclass, build_name, Except.mapM_eq_error_iff.2 ⟨_, _, _, hwords, hbefore, hword⟩]
      rfl
  | constructed hclass hargs =>
      rw [← hclass, build_name, Except.mapM_eq_ok_iff.2 hargs]
      rfl

theorem builds_build (className : String) (words : List String) :
    Builds className words (build className words) := by
  cases hclass : Class.ofName className with
  | error e =>
      obtain ⟨hunknown, rfl⟩ := Class.ofName_eq_error_iff.1 hclass
      rw [build, hclass]
      exact .unknownClass hunknown
  | ok c =>
      obtain rfl := Class.ofName_eq_ok_iff.1 hclass
      rw [build_name]
      cases hargs : words.mapM Argument.ofWord with
      | error e =>
          obtain ⟨before, word, after, hwords, hbefore, hword⟩ := Except.mapM_eq_error_iff.1 hargs
          exact .badWord rfl hwords hbefore hword
      | ok args => exact .constructed rfl (Except.mapM_eq_ok_iff.1 hargs)

variable {config : Config} {command : Command}

theorem Ends.execute_eq {r : Except Error Output} (h : Ends config command r) :
    execute config command = r := by
  cases h with
  | built h =>
      rw [execute, h.build_eq]
      rfl
  | notBuilt h =>
      rw [execute, h.build_eq]
      rfl
  | classes => rfl
  | fetchOptions => rfl
  | unknownAction haction => exact execute_supports_of_unknown haction _
  | unknownRepository haction hname => exact (execute_supports_one_eq_error_iff haction).2 ⟨hname, rfl⟩
  | asked haction hanswer =>
      rw [execute_supports_one haction, hanswer]
      rfl
  | askedAll haction => exact execute_supports_all haction

theorem ends_new (config : Config) (className : String) (words : List String) :
    Ends config (.new className words) (execute config (.new className words)) := by
  have hbuilds := builds_build className words
  rw [execute]
  cases hbuild : build className words with
  | error e =>
      rw [hbuild] at hbuilds
      exact .notBuilt hbuilds
  | ok o =>
      rw [hbuild] at hbuilds
      exact .built hbuilds

theorem ends_supports (config : Config) (action : String) (repository : Option String) :
    Ends config (.supports action repository) (execute config (.supports action repository)) := by
  cases haction : ActionKind.ofText action with
  | error e =>
      have hunknown : ∀ kind, ActionKind.ofText action ≠ .ok kind := by simp [haction]
      rw [execute_supports_of_unknown hunknown]
      exact .unknownAction hunknown
  | ok kind =>
      cases repository with
      | none =>
          rw [execute_supports_all haction]
          exact .askedAll haction
      | some name =>
          rw [execute_supports_one haction]
          cases hask : (RepositorySet.ofConfig config.repositories).ask name (AnyProbe.ofKind kind) with
          | error e =>
              obtain ⟨hname, rfl⟩ := RepositorySet.ask_eq_error_iff.1 hask
              rw [RepositorySet.names_ofConfig] at hname
              exact .unknownRepository haction hname
          | ok answer => exact .asked haction hask

theorem ends_execute (config : Config) (command : Command) :
    Ends config command (execute config command) := by
  cases command with
  | new className words => exact ends_new config className words
  | classes => exact .classes
  | fetchOptions set => exact .fetchOptions
  | supports action repository => exact ends_supports config action repository

theorem output_adjust (config : Config) (command : Command) :
    (command.adjust config).output = config.output := by
  cases command <;> rfl

end Command

/-! ## Whole runs -/

namespace Invocation

variable {files : Files} {env : Environment} {invocation : Invocation}

/-- What is wrong before a command is looked at: the configuration cannot be loaded, or it can be and a
variable of the environment is bad. -/
inductive FailsToStart (files : Files) (env : Environment) (path : Option Bytes) : Error → Prop where
  | loading {e : Error} (hload : Config.load files env path = .error e) : FailsToStart files env path e
  | environment {loaded : Config} {e : ConfigError} (hload : Config.load files env path = .ok loaded)
      (henv : env.failure? = some e) : FailsToStart files env path (.config e)

/-- How a run ends: with an answer, and whether it is to be shown as JSON, or with the error of the first
stage that fails. -/
inductive Ends (files : Files) (env : Environment) (invocation : Invocation) :
    Except Error (Output × Bool) → Prop where
  | notStarted {e : Error} (hstart : FailsToStart files env invocation.config e) :
      Ends files env invocation (.error e)
  | failed {loaded : Config} {e : Error} (hload : Config.load files env invocation.config = .ok loaded)
      (henv : env.failure? = none)
      (hcommand : invocation.command.Ends (invocation.command.adjust (loaded.merge env).1) (.error e)) :
      Ends files env invocation (.error e)
  | answered {loaded : Config} {output : Output} {json : Bool}
      (hload : Config.load files env invocation.config = .ok loaded) (henv : env.failure? = none)
      (hcommand : invocation.command.Ends (invocation.command.adjust (loaded.merge env).1) (.ok output))
      (hjson : json = true ↔ invocation.json = true ∨ (loaded.merge env).1.output = .json) :
      Ends files env invocation (.ok (output, json))

section Started

variable {loaded : Config} (hload : Config.load files env invocation.config = .ok loaded)
include hload

theorem settings_of_environment {e : ConfigError} (henv : env.failure? = some e) :
    invocation.settings files env = .error (.config e) := by
  refine Except.bind_eq_error_iff.2 (Or.inr ⟨loaded, hload, ?_⟩)
  rw [Config.merge_eq, henv]

theorem settings_of_started (henv : env.failure? = none) :
    invocation.settings files env = .ok (invocation.command.adjust (loaded.merge env).1) := by
  refine Except.bind_ok hload ?_
  rw [Config.merge_eq, henv]
  rfl

theorem answer_of_started (henv : env.failure? = none) : invocation.answer files env =
    (fun output => (output, invocation.json || (loaded.merge env).1.output = .json)) <$>
      invocation.command.execute (invocation.command.adjust (loaded.merge env).1) := by
  rw [answer, settings_of_started hload henv]
  -- the flags of a command do not touch the output format
  simp only [← Command.output_adjust (loaded.merge env).1 invocation.command]
  rfl

end Started

theorem answer_of_failsToStart {e : Error} (h : FailsToStart files env invocation.config e) :
    invocation.answer files env = .error e := by
  refine Except.bind_eq_error_iff.2 (Or.inl ?_)
  cases h with
  | loading hload => exact Except.bind_eq_error_iff.2 (Or.inl hload)
  | environment hload henv => exact settings_of_environment hload henv

theorem Ends.answer_eq {r : Except Error (Output × Bool)} (h : Ends files env invocation r) :
    invocation.answer files env = r := by
  cases h with
  | notStarted hstart => exact answer_of_failsToStart hstart
  | failed hload henv hcommand =>
      rw [answer_of_started hload henv, hcommand.execute_eq]
      rfl
  | @answered loaded output json hload henv hcommand hjson =>
      have hform : (invocation.json || (loaded.merge env).1.output = .json) = json := by
        rw [Bool.eq_iff_iff, hjson, Bool.or_eq_true, decide_eq_true_eq]
      rw [answer_of_started hload henv, hcommand.execute_eq, ← hform]
      rfl

theorem ends_answer (files : Files) (env : Environment) (invocation : Invocation) :
    invocation.Ends files env (invocation.answer files env) := by
  cases hload : Config.load files env invocation.config with
  | error e =>
      rw [answer_of_failsToStart (.loading hload)]
      exact .notStarted (.loading hload)
  | ok loaded =>
      cases henv : env.failure? with
      | some e =>
          rw [answer_of_failsToStart (.environment hload henv)]
          exact .notStarted (.environment hload henv)
      | none =>
          have hcommand := Command.ends_execute (invocation.command.adjust (loaded.merge env).1)
            invocation.command
          rw [answer_of_started hload henv]
          cases hexecute : invocation.command.execute (invocation.command.adjust (loaded.merge env).1) with
          | error e =>
              rw [hexecute] at hcommand
              exact .failed hload henv hcommand
          | ok output =>
              rw [hexecute] at hcommand
              refine .answered hload henv hcommand ?_
              rw [Bool.or_eq_true, decide_eq_true_eq]

/-- Asking for the options of a fetch is always answered, if nothing is wrong before that. -/
theorem ends_fetchOptions {path : Option Bytes} {loaded : Config}
    (hload : Config.load files env path = .ok loaded) (asked debug : Bool) (set : FetchOptions) (json : Bool)
    (henv : env.failure? = none)
    (hjson : json = true ↔ asked = true ∨ (loaded.merge env).1.output = .json) :
    Ends files env ⟨asked, debug, path, .fetchOptions set⟩
      (.ok (.fetchOptions (Command.adjust (loaded.merge env).1 (.fetchOptions set)).fetch, json)) :=
  .answered hload henv .fetchOptions hjson

end Invocation

/-! ## What is left behind -/

namespace CommandLine

variable {files : Files} {env : Environment} {words : List Bytes} {invocation : Invocation}

theorem respond_of_parse (hparse : parse env words = .ok (.run invocation)) :
    respond files env words = invocation.run files env := by
  rw [respond, hparse]
  rfl

theorem respond_of_answered (hparse : parse env words = .ok (.run invocation)) {output : Output}
    {json : Bool} (h : invocation.Ends files env (.ok (output, json))) :
    respond files env words = ⟨0, output.text json, ""⟩ := by
  rw [respond_of_parse hparse, Invocation.run, h.answer_eq]

theorem respond_of_failed (hparse : parse env words = .ok (.run invocation)) {e : Error}
    (h : invocation.Ends files env (.error e)) : respond files env words =
      ⟨1, if invocation.json then (Failure.known e).toJson.pretty ++ "\n" else "",
        "Error: " ++ (Failure.known e).text ++ "\n"⟩ := by
  rw [respond_of_parse hparse, Invocation.run, h.answer_eq]
  simp [Output.joinLines]

/-- A run ends in exactly one way, in an answer or in the error of the first stage that fails, and that
decides the outcome. An answer is all that is shown: as JSON, which can be read back, if this was asked for or
is the format in force, and else in plain lines. An error leaves its two reports. Whatever is wrong before the
command is looked at is reported alike for every other command. -/
theorem respond_decided_by_stages (hparse : parse env words = .ok (.run invocation)) :
    (∃! r, invocation.Ends files env r) ∧
      (∀ output json, invocation.Ends files env (.ok (output, json)) →
        respond files env words = ⟨0, output.text json, ""⟩ ∧ output.Shows json (output.text json) ∧
          (json = true → ∃ type data, output.ToldBy type data ∧ Json.parse? (output.text json) =
            some (.object [("data", data.sorted), ("type", .string type)]))) ∧
      (∀ e, invocation.Ends files env (.error e) → respond files env words =
        ⟨1, if invocation.json then (Failure.known e).toJson.pretty ++ "\n" else "",
          "Error: " ++ (Failure.known e).text ++ "\n"⟩) ∧
      ∀ e, Invocation.FailsToStart files env invocation.config e → ∀ words' other,
        parse env words' = .ok (.run other) → other.config = invocation.config →
          other.Ends files env (.error e) ∧ (respond files env words').exitCode = 1 ∧
            (respond files env words').stderr = (respond files env words).stderr := by
  refine ⟨⟨_, invocation.ends_answer files env, fun r hr => hr.answer_eq.symm⟩, ?_,
    fun e => respond_of_failed hparse, ?_⟩
  · intro output json hends
    refine ⟨respond_of_answered hparse hends, output.shows_text json, ?_⟩
    rintro rfl
    exact output.parse?_text
  · intro e hstart words' other hparse' hconfig
    have hends : other.Ends files env (.error e) := .notStarted (hconfig ▸ hstart)
    -- the text of the error does not depend on the command, nor on whether JSON was asked for
    rw [respond_of_failed hparse' hends, respond_of_failed hparse (.notStarted hstart)]
    exact ⟨hends, rfl, rfl⟩

/-- One run in which the file, the environment, the action and the repository are all bad, and the file is
reported; and two runs in which all is well: the format of the answer is the one in the file, unless a variable
says otherwise. -/
theorem respond_decided_by_stages_runs :
    let missing : Files := ⟨fun _ => .error .noSuchFile, fun _ => .error .noSuchFile⟩
    let settings : Files :=
      ⟨fun _ => .ok (), fun _ => .ok (Text.encodeUtf8 "[general]\ndefault_output = \"json\"")⟩
    let env (output : String) : Environment := fun name =>
      if name = "PACT_OUTPUT" then some (Text.encodeUtf8 output) else none
    let bad := ["--json", "--config", "file", "supports", "nope", "-r", "none"].map Text.encodeUtf8
    let good := ["--config", "file", "fetch-options", "--safe-resume"].map Text.encodeUtf8
    let e := Error.config (.notFound "file")
    ((env "xml").failure? = some (.invalidValue "PACT_OUTPUT" "xml") ∧
      respond missing (env "xml") bad = ⟨1, (Failure.known e).toJson.pretty ++ "\n",
        "Error: " ++ (Failure.known e).text ++ "\n"⟩) ∧
      respond settings (fun _ => none) good = ⟨0, "\x7b\n  \"type\": \"fetch_options\",\n" ++
        "  \"data\": \x7b\n    \"safe_resume\": true,\n    \"fetch_unneeded\": false\n  \x7d\n\x7d\n", ""⟩ ∧
      respond settings (env "plain") good =
        ⟨0, "  safe_resume: true\n  fetch_unneeded: false\n", ""⟩ := by
  intro missing settings env bad good e
  have hload (env : Environment) :
      Config.load settings env (some (Text.encodeUtf8 "file")) = .ok { output := .json } := by
    show Config.ofFile settings (Text.encodeUtf8 "file") = _
    decide +kernel
  refine ⟨⟨by decide +kernel, ?_⟩, ?_, ?_⟩
  · have hparse : parse (env "xml") bad = .ok (.run ⟨true, false, some (Text.encodeUtf8 "file"),
        .supports "nope" (some "none")⟩) := by decide +kernel
    have hload : Config.load missing (env "xml") (some (Text.encodeUtf8 "file")) = .error e := by
      decide +kernel
    exact (respond_decided_by_stages hparse).2.2.1 e (.notStarted (.loading hload))
  · have hparse : parse (fun _ => none) good = .ok (.run ⟨false, false, some (Text.encodeUtf8 "file"),
        .fetchOptions ⟨true, false⟩⟩) := by decide +kernel
    have hends := Invocation.ends_fetchOptions (hload fun _ => none) false false ⟨true, false⟩ true
      (by decide +kernel) (by decide +kernel)
    rw [((respond_decided_by_stages hparse).2.1 _ _ hends).1]
    decide +kernel
  · have hparse : parse (env "plain") good = .ok (.run ⟨false, false, some (Text.encodeUtf8 "file"),
        .fetchOptions ⟨true, false⟩⟩) := by decide +kernel
    have hends := Invocation.ends_fetchOptions (hload (env "plain")) false false ⟨true, false⟩ false
      (by decide +kernel) (by decide +kernel)
    rw [((respond_decided_by_stages hparse).2.1 _ _ hends).1]
    decide +kernel

end CommandLine

end PackageActions
