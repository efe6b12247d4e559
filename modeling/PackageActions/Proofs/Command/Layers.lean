import Mathlib.Control.Monad.Basic
import PackageActions.Proofs.Argument.Records
import PackageActions.Proofs.Command.Line
import PackageActions.Proofs.Command.Stages
import PackageActions.Proofs.Config.InForce
import PackageActions.Proofs.Config.Loading
import PackageActions.Proofs.Toml.Arguments

/-!
# Layers of settings

The options of a fetch that a run shows are put together from three layers: the words of the command line,
the variables of the environment, and the configuration file. `FetchFlag.DecidedBy` says for one flag which
layer decides it, in terms of the words, the variable and the text as they are given. Each layer is met on its
own (`FetchFlag.valueIn_of_ofToml`, `FetchFlag.valueIn_merge`, `FetchFlag.valueIn_adjust`), and the flags stay
apart in all of them, so a flag depends on nothing but its own sources (`CommandLine.fetchOptions_layered`).
-/

namespace PackageActions

open Dictionary

/-! ## Sources of a flag -/

/-- The flags of a fetch. -/
inductive FetchFlag where
  | safeResume
  | fetchUnneeded
deriving DecidableEq

namespace FetchFlag

def valueIn (o : FetchOptions) : FetchFlag → Bool
  | safeResume => o.safeResume
  | fetchUnneeded => o.fetchUnneeded

/-- The key in a configuration file. -/
def key : FetchFlag → String
  | safeResume => "safe_resume"
  | fetchUnneeded => "fetch_unneeded"

/-- The option on a command line. -/
def optionName : FetchFlag → String
  | safeResume => "safe-resume"
  | fetchUnneeded => "fetch-unneeded"

/-- The variable in the environment. -/
def variableName : FetchFlag → String
  | safeResume => "PACT_SAFE_RESUME"
  | fetchUnneeded => "PACT_FETCH_UNNEEDED"

/-- The section on fetches in a text gives the flag a value. -/
def WrittenIn (text : String) (flag : FetchFlag) (b : Bool) : Prop :=
  ∃ table entries, Toml.parse? text = some table ∧ get? table "fetch" = some (.table entries) ∧
    get? entries flag.key = some (.boolean b)

/-- The value of a flag by its sources: its word on the command line sets it, or else the value of its variable
holds, or else the value written in the file, or else it is off. -/
inductive DecidedBy (words : List Bytes) (env : Environment) (text : String) (flag : FetchFlag) :
    Bool → Prop where
  | word (hword : CommandLine.flagWord flag.optionName ∈ words) : DecidedBy words env text flag true
  | variableValue {value : String} {b : Bool} (hword : CommandLine.flagWord flag.optionName ∉ words)
      (hset : env.text? flag.variableName = some value)
      (hvalue : get? Environment.flagTexts value = some b) : DecidedBy words env text flag b
  | file {b : Bool} (hword : CommandLine.flagWord flag.optionName ∉ words)
      (hunset : env.text? flag.variableName = none) (hwritten : flag.WrittenIn text b) :
      DecidedBy words env text flag b
  | off (hword : CommandLine.flagWord flag.optionName ∉ words)
      (hunset : env.text? flag.variableName = none) (hunwritten : ∀ b, ¬ flag.WrittenIn text b) :
      DecidedBy words env text flag false

/-! ## One layer at a time -/

theorem valueIn_of_givenBy {m : Mapping} {o : FetchOptions} (h : o.GivenBy .bool m) (flag : FetchFlag) :
    (get? m flag.key).getD (.bool false) = .bool (flag.valueIn o) := by
  cases flag with
  | safeResume => exact h.safeResume
  | fetchUnneeded => exact h.fetchUnneeded

variable {text : String} {config : Config} {flag : FetchFlag}

/-- A file that is accepted has a boolean under the key of a flag or nothing. -/
theorem valueIn_of_ofToml (h : Config.ofToml text = .ok config) (flag : FetchFlag) :
    flag.WrittenIn text (flag.valueIn config.fetch) ∨
      (∀ b, ¬ flag.WrittenIn text b) ∧ flag.valueIn config.fetch = false := by
  obtain ⟨table, htable, hgives⟩ := Config.givesFetch_of_ofToml h
  -- what is written is written in this table
  have hwritten : ∀ b, flag.WrittenIn text b → ∃ entries, get? table "fetch" = some (.table entries) ∧
      get? entries flag.key = some (.boolean b) := by
    rintro b ⟨table', entries, htable', hentries, hb⟩
    obtain rfl := Option.some.inj (htable.symm.trans htable')
    exact ⟨entries, hentries, hb⟩
  generalize config.fetch = fetch at hgives ⊢
  cases hgives with
  | absent habsent =>
      refine Or.inr ⟨fun b hb => ?_, by cases flag <;> rfl⟩
      obtain ⟨entries, hentries, -⟩ := hwritten b hb
      rw [habsent] at hentries
      cases hentries
  | @given entries _ hentries hfetch =>
      have hvalue := valueIn_of_givenBy (FetchOptions.ofMapping_eq_ok_iff.1 hfetch) flag
      rw [Toml.toNamedArguments_eq_mapValues, get?_mapValues] at hvalue
      cases hkey : get? entries flag.key with
      | none =>
          rw [hkey] at hvalue
          refine Or.inr ⟨fun b hb => ?_, (Argument.bool.inj hvalue).symm⟩
          obtain ⟨entries', hentries', hb⟩ := hwritten b hb
          cases hentries.symm.trans hentries'
          cases hkey.symm.trans hb
      | some v =>
          rw [hkey] at hvalue
          obtain rfl := Toml.toArgument_eq_bool_iff.1 hvalue
          exact Or.inl ⟨table, entries, htable, hentries, hkey⟩

theorem failure?_of_merge {env : Environment} (h : (config.merge env).2 = none) :
    env.failure? = none := by
  rw [← h, Config.merge_eq]

theorem valueIn_merge {env : Environment} (h : (config.merge env).2 = none) :
    flag.valueIn (config.merge env).1.fetch =
      (Environment.given? Environment.flagTexts flag.variableName env).getD (flag.valueIn config.fetch) := by
  rw [Config.merge_eq]
  dsimp only
  rw [if_pos (failure?_of_merge h)]
  cases flag <;> rfl

theorem valueIn_adjust (config : Config) (set : FetchOptions) (flag : FetchFlag) :
    flag.valueIn ((Command.fetchOptions set).adjust config).fetch =
      (flag.valueIn config.fetch || flag.valueIn set) := by
  cases flag <;> rfl

section Line

open CommandLine

theorem of_flagWord_optionName (flag : FetchFlag) :
    Word.of (flagWord flag.optionName) = .long (Text.encodeUtf8 flag.optionName) none := by
  cases flag <;> exact of_flagWord (by decide +kernel) (by decide +kernel)

/-- On a line that asks for the options of a fetch, a flag is set exactly if its word is there. -/
theorem valueIn_of_parse {env : Environment} {words : List Bytes} {invocation : Invocation}
    {set : FetchOptions} (h : parse env words = .ok (.run invocation))
    (hcommand : invocation.command = .fetchOptions set) (flag : FetchFlag) :
    flag.valueIn set = true ↔ flagWord flag.optionName ∈ words := by
  obtain ⟨front, name, rest, spec, back, taken, hfront, hspec, hback, hmeaning⟩ := parts_of_parse h
  rw [hcommand] at hmeaning
  simp only [commands, List.mem_cons, List.not_mem_nil, or_false] at hspec
  rcases hspec with rfl | rfl | rfl | rfl
  · cases hmeaning
  · cases hmeaning
  · obtain rfl := Command.fetchOptions.inj hmeaning
    have hmem := isGiven_iff_mem_words flag.of_flagWord_optionName
      (by cases flag <;> simp [optionName, globalOptions, helpOption, versionOption])
      (by cases flag <;> simp [optionName, globalOptions, helpOption]) hfront hback
    cases flag <;> exact hmem
  · cases hmeaning

end Line

/-! ## All layers -/

theorem WrittenIn.eq {b b' : Bool} (h : flag.WrittenIn text b) (h' : flag.WrittenIn text b') : b = b' := by
  obtain ⟨table, entries, htable, hentries, hb⟩ := h
  obtain ⟨table', entries', htable', hentries', hb'⟩ := h'
  cases htable.symm.trans htable'
  cases hentries.symm.trans hentries'
  cases hb.symm.trans hb'
  rfl

variable {words words' : List Bytes} {env env' : Environment} {text' : String}

/-- The sources decide at most one value. -/
theorem DecidedBy.eq {b b' : Bool} (h : flag.DecidedBy words env text b)
    (h' : flag.DecidedBy words env text b') : b = b' := by
  cases h with
  | word hword =>
      cases h' with
      | word => rfl
      | variableValue hword' => exact absurd hword hword'
      | file hword' => exact absurd hword hword'
      | off hword' => exact absurd hword hword'
  | variableValue hword hset hvalue =>
      cases h' with
      | word hword' => exact absurd hword' hword
      | variableValue _ hset' hvalue' =>
          cases hset.symm.trans hset'
          exact Option.some.inj (hvalue.symm.trans hvalue')
      | file _ hunset => cases hset.symm.trans hunset
      | off _ hunset => cases hset.symm.trans hunset
  | file hword hunset hwritten =>
      cases h' with
      | word hword' => exact absurd hword' hword
      | variableValue _ hset => cases hset.symm.trans hunset
      | file _ _ hwritten' => exact hwritten.eq hwritten'
      | off _ _ hunwritten => exact absurd hwritten (hunwritten _)
  | off hword hunset hunwritten =>
      cases h' with
      | word hword' => exact absurd hword' hword
      | variableValue _ hset => cases hset.symm.trans hunset
      | file _ _ hwritten => exact absurd hwritten (hunwritten _)
      | off => rfl

theorem variable_mem_consulted (flag : FetchFlag) :
    (flag.variableName, keys Environment.flagTexts) ∈ Environment.consulted := by
  cases flag with
  | safeResume => exact .tail _ (.head _)
  | fetchUnneeded => exact .tail _ (.tail _ (.head _))

/-- In an environment with nothing wrong a variable that says nothing is not set. -/
theorem text?_eq_none_of_given? (henv : env.failure? = none)
    (h : Environment.given? Environment.flagTexts flag.variableName env = none) :
    env.text? flag.variableName = none := by
  have haccepts := Environment.failure?_eq_none_iff.1 henv _ flag.variable_mem_consulted
  cases hset : env.text? flag.variableName with
  | none => rfl
  | some value =>
      rw [Environment.given?, hset, Option.bind_some, get?_eq_none_iff] at h
      exact absurd (haccepts value hset) h

/-- Two sets of sources say the same about a flag. -/
structure SameSources (flag : FetchFlag) (words : List Bytes) (env : Environment) (text : String)
    (words' : List Bytes) (env' : Environment) (text' : String) : Prop where
  word : CommandLine.flagWord flag.optionName ∈ words ↔ CommandLine.flagWord flag.optionName ∈ words'
  environment : Environment.given? Environment.flagTexts flag.variableName env =
    Environment.given? Environment.flagTexts flag.variableName env'
  file : ∀ b, flag.WrittenIn text b ↔ flag.WrittenIn text' b

theorem DecidedBy.of_sameSources (hsame : flag.SameSources words env text words' env' text')
    (henv' : env'.failure? = none) {b : Bool} (h : flag.DecidedBy words env text b) :
    flag.DecidedBy words' env' text' b := by
  have hunset' : env.text? flag.variableName = none → env'.text? flag.variableName = none := by
    intro hunset
    apply text?_eq_none_of_given? henv'
    rw [← hsame.environment, Environment.given?, hunset, Option.bind_none]
  cases h with
  | word hword => exact .word (hsame.word.1 hword)
  | variableValue hword hset hvalue =>
      have hgiven := hsame.environment
      rw [Environment.given?, hset, Option.bind_some, hvalue] at hgiven
      obtain ⟨value', hset', hvalue'⟩ := Option.bind_eq_some_iff.1 hgiven.symm
      exact .variableValue (mt hsame.word.2 hword) hset' hvalue'
  | file hword hunset hwritten =>
      exact .file (mt hsame.word.2 hword) (hunset' hunset) ((hsame.file _).1 hwritten)
  | off hword hunset hunwritten =>
      exact .off (mt hsame.word.2 hword) (hunset' hunset) fun b hb => hunwritten b ((hsame.file b).2 hb)

/-- The value that comes out of the three layers is the one that the sources decide. -/
theorem decidedBy_valueIn {set : FetchOptions} (hset : flag.valueIn set = true ↔
      CommandLine.flagWord flag.optionName ∈ words) (hconfig : Config.ofToml text = .ok config)
    (henv : (config.merge env).2 = none) : flag.DecidedBy words env text
      (flag.valueIn ((Command.fetchOptions set).adjust (config.merge env).1).fetch) := by
  rw [valueIn_adjust, valueIn_merge henv]
  cases hflag : flag.valueIn set with
  | true =>
      rw [Bool.or_true]
      exact .word (hset.1 hflag)
  | false =>
      have hword : CommandLine.flagWord flag.optionName ∉ words := by
        rw [← hset, hflag]
        exact Bool.false_ne_true
      rw [Bool.or_false]
      cases hgiven : Environment.given? Environment.flagTexts flag.variableName env with
      | some b =>
          obtain ⟨value, hset, hvalue⟩ := Option.bind_eq_some_iff.1 hgiven
          exact .variableValue hword hset hvalue
      | none =>
          have hunset := text?_eq_none_of_given? (failure?_of_merge henv) hgiven
          rw [Option.getD_none]
          rcases valueIn_of_ofToml hconfig flag with hwritten | ⟨hunwritten, hoff⟩
          · exact .file hword hunset hwritten
          · rw [hoff]
            exact .off hword hunset hunwritten

end FetchFlag

/-! ## Whole runs -/

/-- The text of the configuration file that is named, or else of the one that is found. A file that is not
there counts as empty. -/
inductive Config.FileHolds (files : Files) (env : Environment) : Option Bytes → String → Prop where
  | named {path bytes : Bytes} {text : String} (hbytes : files.contents path = .ok bytes)
      (htext : Text.decodeUtf8? bytes = some text) : FileHolds files env (some path) text
  | found {path bytes : Bytes} {text : String} (hpath : defaultPath env = .ok path)
      (hlookUp : files.lookUp path = .ok ()) (hbytes : files.contents path = .ok bytes)
      (htext : Text.decodeUtf8? bytes = some text) : FileHolds files env none text
  | absent {path : Bytes} {failure : IoFailure} (hpath : defaultPath env = .ok path)
      (hlookUp : files.lookUp path = .error failure) : FileHolds files env none ""

theorem Config.FileHolds.load_eq {files : Files} {env : Environment} {path : Option Bytes} {text : String}
    (h : FileHolds files env path text) : load files env path = ofToml text := by
  cases h with
  | named hbytes htext =>
      obtain rfl := Text.decodeUtf8?_eq_some_iff.1 htext
      exact (Reads.text hbytes).ofFile_eq
  | found hpath hlookUp hbytes htext =>
      obtain rfl := Text.decodeUtf8?_eq_some_iff.1 htext
      rw [load_none_of_lookUp_eq_ok hpath hlookUp]
      exact (Reads.text hbytes).ofFile_eq
  | absent hpath hlookUp =>
      have hempty : ofToml "" = .ok {} := by decide +kernel
      rw [hempty, load_none_of_lookUp_eq_error hpath hlookUp]

theorem FetchOptions.eq_of_text_eq {o o' : FetchOptions} {json json' : Bool}
    (h : (Output.fetchOptions o).text json = (Output.fetchOptions o').text json') : o = o' := by
  revert h
  obtain ⟨a, b⟩ := o
  obtain ⟨a', b'⟩ := o'
  revert a b a' b' json json'
  decide +kernel

namespace CommandLine

/-- A run shows some options of a fetch and nothing else. -/
def ShowsFetch (files : Files) (env : Environment) (words : List Bytes) (o : FetchOptions) : Prop :=
  ∃ json, respond files env words = ⟨0, (Output.fetchOptions o).text json, ""⟩

/-- A run on a line that asks for the options of a fetch, with a text for the configuration and an
environment that are both accepted. -/
structure AsksFetch (files : Files) (env : Environment) (words : List Bytes) (text : String) : Prop where
  line : ∃ invocation set, parse env words = .ok (.run invocation) ∧
    invocation.command = .fetchOptions set ∧ Config.FileHolds files env invocation.config text
  accepted : ∃ config, Config.ofToml text = .ok config ∧ (config.merge env).2 = none

variable {files : Files} {env : Environment} {words : List Bytes} {text : String}

theorem ShowsFetch.eq {o o' : FetchOptions} (h : ShowsFetch files env words o)
    (h' : ShowsFetch files env words o') : o = o' := by
  obtain ⟨json, h⟩ := h
  obtain ⟨json', h'⟩ := h'
  exact FetchOptions.eq_of_text_eq (Outcome.mk.inj (h.symm.trans h')).2.1

theorem AsksFetch.failure?_eq_none (h : AsksFetch files env words text) : env.failure? = none := by
  obtain ⟨-, config, -, henv⟩ := h
  exact FetchFlag.failure?_of_merge henv

theorem AsksFetch.exists_showsFetch (h : AsksFetch files env words text) :
    ∃ o, ShowsFetch files env words o ∧ ∀ flag : FetchFlag, flag.DecidedBy words env text (flag.valueIn o) := by
  have hfailure := h.failure?_eq_none
  obtain ⟨⟨invocation, set, hparse, hcommand, hfile⟩, config, hconfig, henv⟩ := h
  have hload : Config.load files env invocation.config = .ok config := hfile.load_eq.trans hconfig
  have hends : invocation.Ends files env
      (.ok (.fetchOptions (invocation.command.adjust (config.merge env).1).fetch,
        invocation.json || (config.merge env).1.output = .json)) := by
    refine .answered hload hfailure ?_ ?_
    · rw [hcommand]
      exact .fetchOptions
    · rw [Bool.or_eq_true, decide_eq_true_eq]
  refine ⟨_, ⟨_, respond_of_answered hparse hends⟩, fun flag => ?_⟩
  rw [hcommand]
  exact FetchFlag.decidedBy_valueIn (FetchFlag.valueIn_of_parse hparse hcommand flag) hconfig henv

theorem AsksFetch.decidedBy_of_showsFetch (h : AsksFetch files env words text) {o : FetchOptions}
    (hshows : ShowsFetch files env words o) (flag : FetchFlag) :
    flag.DecidedBy words env text (flag.valueIn o) := by
  obtain ⟨o', hshows', hdecided⟩ := h.exists_showsFetch
  rw [hshows.eq hshows']
  exact hdecided flag

/-- A run on a line that asks for the options of a fetch shows one set of options, in which each flag has the
value that its own sources decide. So runs whose sources say the same about a flag show the same value of it,
whatever else is different. The flags of this command are the only ones that change a configuration. -/
theorem fetchOptions_layered (h : AsksFetch files env words text) :
    (∃! o, ShowsFetch files env words o) ∧
      (∀ o, ShowsFetch files env words o → ∀ (flag : FetchFlag) (b : Bool),
        flag.valueIn o = b ↔ flag.DecidedBy words env text b) ∧
      (∀ files' env' words' text', AsksFetch files' env' words' text' → ∀ flag : FetchFlag,
        flag.SameSources words env text words' env' text' → ∀ o o', ShowsFetch files env words o →
          ShowsFetch files' env' words' o' → flag.valueIn o = flag.valueIn o') ∧
      ∀ (config : Config) (command : Command), (∀ set, command ≠ .fetchOptions set) →
        command.adjust config = config := by
  refine ⟨?_, ?_, ?_, ?_⟩
  · obtain ⟨o, hshows, -⟩ := h.exists_showsFetch
    exact ⟨o, hshows, fun o' hshows' => hshows'.eq hshows⟩
  · intro o hshows flag b
    have hdecided := h.decidedBy_of_showsFetch hshows flag
    constructor
    · rintro rfl
      exact hdecided
    · exact hdecided.eq
  · intro files' env' words' text' h' flag hsame o o' hshows hshows'
    have hdecided := h.decidedBy_of_showsFetch hshows flag
    exact (hdecided.of_sameSources hsame h'.failure?_eq_none).eq (h'.decidedBy_of_showsFetch hshows' flag)
  · intro config command hother
    cases command with
    | fetchOptions set => exact absurd rfl (hother set)
    | _ => rfl

/-- The environment overrides the file on one flag, and the command line sets the other. -/
theorem fetchOptions_layered_three_layers :
    let text := "[fetch]\nsafe_resume = true"
    let files : Files := ⟨fun _ => .ok (), fun _ => .ok (Text.encodeUtf8 text)⟩
    let env : Environment := fun name =>
      if name = "PACT_SAFE_RESUME" then some (Text.encodeUtf8 "no") else none
    let words := ["--config", "settings", "fetch-options", "--fetch-unneeded"].map Text.encodeUtf8
    AsksFetch files env words text ∧ ∀ o, ShowsFetch files env words o → o = ⟨false, true⟩ := by
  intro text files env words
  have hparse : parse env words = .ok (.run ⟨false, false, some (Text.encodeUtf8 "settings"),
      .fetchOptions ⟨false, true⟩⟩) := by decide +kernel
  have htext : Text.decodeUtf8? (Text.encodeUtf8 text) = some text := by decide +kernel
  have hread : Config.ofToml "[fetch]\nsafe_resume = true" = .ok { fetch := ⟨true, false⟩ } := by
    decide +kernel
  have henv : (Config.merge env { fetch := ⟨true, false⟩ }).2 = none := by decide +kernel
  have hasks : AsksFetch files env words text :=
    ⟨⟨_, _, hparse, rfl, .named rfl htext⟩, _, hread, henv⟩
  refine ⟨hasks, fun o hshows => ?_⟩
  have hdecides := (fetchOptions_layered hasks).2.1 o hshows
  have hresume : o.safeResume = false := (hdecides .safeResume false).2
    (.variableValue (by decide +kernel) (show env.text? "PACT_SAFE_RESUME" = some "no" by decide +kernel) rfl)
  have hfetch : o.fetchUnneeded = true := (hdecides .fetchUnneeded true).2 (.word (by decide +kernel))
  rw [← hresume, ← hfetch]

end CommandLine

end PackageActions
