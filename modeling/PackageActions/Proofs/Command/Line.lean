import Mathlib.Data.List.TakeWhile
import PackageActions.Command.Line
import PackageActions.Proofs.Except
import PackageActions.Proofs.Text.Utf8

/-!
# Options on a command line

A part of a command line is a row of options and plain words. `OptionIn` says which words one option takes up
and what it gives, and `PartGives` what a whole part gives; the words in front of a command and those behind
it are read as such parts (`readFront_eq_ok`, `readBack_eq_ok`). A flag without a letter is given in a part
exactly if its name behind two dashes is among the words (`PartGives.isGiven_iff`). A command that takes no
plain words is therefore given a flag exactly if the word is somewhere in the line (`isGiven_iff_mem_words`).

Reading ends early where something is wrong or where an option asks for help or the version, but never with a
run (`noRun_readWords`). So a line that asks for a run has been read to its end (`parts_of_parse`).
-/

namespace PackageActions

namespace CommandLine

/-! ## Words -/

/-- The word that sets a flag by its name. -/
def flagWord (name : String) : Bytes := dash :: dash :: Text.encodeUtf8 name

variable {specs : List OptionSpec}

theorem of_flagWord {name : String} (hname : Text.encodeUtf8 name ≠ [])
    (hequals : equalsSign ∉ Text.encodeUtf8 name) :
    Word.of (flagWord name) = .long (Text.encodeUtf8 name) none := by
  have hsplit : splitAtEquals (Text.encodeUtf8 name) = (Text.encodeUtf8 name, none) := by
    have hall : (Text.encodeUtf8 name).dropWhile (· ≠ equalsSign) = [] := by
      rw [List.dropWhile_eq_nil_iff]
      intro b hb
      exact decide_eq_true fun h => hequals (h ▸ hb)
    rw [splitAtEquals, hall]
  simp [flagWord, Word.of, hname, hsplit]

theorem eq_of_splitAtEquals {bytes name : Bytes} (h : splitAtEquals bytes = (name, none)) :
    bytes = name := by
  unfold splitAtEquals at h
  split at h
  · exact congrArg Prod.fst h
  · cases h

theorem of_eq_long_none {word name : Bytes} (h : Word.of word = .long name none) :
    word = dash :: dash :: name := by
  unfold Word.of at h
  split at h
  · rename_i a b rest
    split at h
    · cases h
    · split at h
      · cases h
      · split at h
        · cases h
        · rename_i ha hb _
          obtain ⟨hname, hvalue⟩ := Word.long.inj h
          rw [not_not.1 ha, not_not.1 hb, eq_of_splitAtEquals (Prod.ext hname hvalue)]
  · cases h

/-! ## Options -/

/-- The words that one option takes up, and what it gives. -/
inductive OptionIn (specs : List OptionSpec) : List Bytes → Given → Prop where
  | alone {word : Bytes} {spec : OptionSpec} {attached : Option Bytes}
      (hword : optionOf specs word = .ok (some (spec, attached)))
      (hflag : spec.role = .flag → attached = none) : OptionIn specs [word] ⟨spec.name, attached⟩
  | withNext {word value : Bytes} {spec : OptionSpec} {attached : Option Bytes}
      (hword : optionOf specs word = .ok (some (spec, attached))) (hrole : spec.role ≠ .flag)
      (hvalue : Word.of value = .plain) : OptionIn specs [word, value] ⟨spec.name, some value⟩

theorem give_eq_ok {given given' : List Given} {name : String} {value : Option Bytes}
    (h : give given name value = .ok given') : given' = given ++ [⟨name, value⟩] := by
  unfold give at h
  split at h
  · cases h
  · exact (Except.ok.inj h).symm

theorem giveValue_eq_ok {given given' : List Given} {name : String} {accept : Bytes → Bool} {value : Bytes}
    (h : giveValue given name accept value = .ok given') : given' = given ++ [⟨name, some value⟩] := by
  unfold giveValue at h
  split at h
  · exact give_eq_ok h
  · cases h

theorem takeOption_eq_ok_some {given given' : List Given} {spec : OptionSpec} {attached : Option Bytes}
    (h : takeOption given spec attached = .ok (some given')) :
    (spec.role = .flag → attached = none) ∧ given' = given ++ [⟨spec.name, attached⟩] := by
  unfold takeOption at h
  split at h
  · obtain ⟨_, hgive, hsome⟩ := Except.map_eq_ok_iff.1 h
    obtain rfl := Option.some.inj hsome
    exact ⟨fun _ => rfl, give_eq_ok hgive⟩
  · cases h
  · rename_i hrole
    obtain ⟨_, hgive, hsome⟩ := Except.map_eq_ok_iff.1 h
    obtain rfl := Option.some.inj hsome
    refine ⟨fun hflag => ?_, giveValue_eq_ok hgive⟩
    rw [hrole] at hflag
    cases hflag
  · cases h
  · cases h
  · cases h

theorem takeNext_eq_ok {given given' : List Given} {spec : OptionSpec} {word : Bytes}
    (h : takeNext given spec word = .ok given') :
    spec.role ≠ .flag ∧ Word.of word = .plain ∧ given' = given ++ [⟨spec.name, some word⟩] := by
  unfold takeNext at h
  split at h
  · rename_i hrole hplain
    refine ⟨fun hflag => ?_, hplain, giveValue_eq_ok h⟩
    rw [hrole] at hflag
    cases hflag
  · cases h

/-- Takes an option, with the next word if its value is missing, and goes on behind it. -/
def takeAndGoOn {α : Type} (given : List Given) (spec : OptionSpec) (attached : Option Bytes)
    (rest : List Bytes) (goOn : List Given → List Bytes → Except Halt α) : Except Halt α := do
  match ← takeOption given spec attached with
  | some given => goOn given rest
  | none =>
    match rest with
    | [] => .error (.usage (.missingValue spec.name))
    | value :: rest => do
      let given ← takeNext given spec value
      goOn given rest

theorem takeAndGoOn_eq_ok {α : Type} {goOn : List Given → List Bytes → Except Halt α} {given : List Given}
    {word : Bytes} {rest : List Bytes} {spec : OptionSpec} {attached : Option Bytes} {a : α}
    (hword : optionOf specs word = .ok (some (spec, attached)))
    (h : takeAndGoOn given spec attached rest goOn = .ok a) :
    ∃ taken rest' g, word :: rest = taken ++ rest' ∧ rest'.length ≤ rest.length ∧ OptionIn specs taken g ∧
      goOn (given ++ [g]) rest' = .ok a := by
  obtain ⟨result, htake, h⟩ := Except.bind_eq_ok_iff.1 h
  cases result with
  | some given' =>
      obtain ⟨hflag, rfl⟩ := takeOption_eq_ok_some htake
      exact ⟨[word], rest, _, rfl, Nat.le_refl _, .alone hword hflag, h⟩
  | none =>
      cases rest with
      | nil => cases h
      | cons value rest =>
          obtain ⟨given', hnext, h⟩ := Except.bind_eq_ok_iff.1 h
          obtain ⟨hrole, hplain, rfl⟩ := takeNext_eq_ok hnext
          exact ⟨[word, value], rest, _, rfl, Nat.le_succ _, .withNext hword hrole hplain, h⟩

theorem optionOf_eq_ok_none {word : Bytes} (h : optionOf specs word = .ok none) :
    Word.of word = .plain ∨ Word.of word = .separator := by
  unfold optionOf at h
  split at h
  · exact Or.inl ‹_›
  · exact Or.inr ‹_›
  · split at h <;> cases h
  · split at h <;> cases h

theorem optionOf_eq_ok_some {word : Bytes} {spec : OptionSpec} {attached : Option Bytes}
    (h : optionOf specs word = .ok (some (spec, attached))) :
    spec ∈ specs ∧ (Word.of word = .long (Text.encodeUtf8 spec.name) attached ∨
      spec.letter ≠ none ∧ ∃ letter rest, Word.of word = .short letter rest) := by
  unfold optionOf at h
  split at h
  · cases h
  · cases h
  · rename_i name value hword
    split at h
    · rename_i found hfound
      cases h
      have hname : Text.encodeUtf8 spec.name = name := by simpa using List.find?_some hfound
      exact ⟨List.mem_of_find?_eq_some hfound, Or.inl (hname ▸ hword)⟩
    · cases h
  · rename_i letter rest hword
    split at h
    · rename_i found hfound
      cases h
      have hletter : spec.letter ≠ none := by
        intro hnone
        simpa [hnone] using List.find?_some hfound
      exact ⟨List.mem_of_find?_eq_some hfound, Or.inr ⟨hletter, letter, rest, hword⟩⟩
    · cases h

/-! ## Parts -/

/-- What the options in a part give, one after the other. Plain words give nothing. -/
inductive PartGives (specs : List OptionSpec) : List Bytes → List Given → Prop where
  | nil : PartGives specs [] []
  | plain {word : Bytes} {words : List Bytes} {given : List Given} (hword : Word.of word = .plain)
      (h : PartGives specs words given) : PartGives specs (word :: words) given
  | option {taken words : List Bytes} {g : Given} {given : List Given} (hoption : OptionIn specs taken g)
      (h : PartGives specs words given) : PartGives specs (taken ++ words) (g :: given)

theorem readFront_cons (given : List Given) (word : Bytes) (words : List Bytes) :
    readFront specs given (word :: words) = (do
      match ← optionOf specs word with
      | none =>
        match Word.of word with
        | .separator => .error (.usage .missingCommand)
        | _ => pure (given, word, words)
      | some (spec, attached) => takeAndGoOn given spec attached words (readFront specs)) := by
  rw [readFront]
  rfl

/-- In front of a command there are options only. -/
theorem readFront_eq_ok {given given' : List Given} {words rest : List Bytes} {name : Bytes}
    (h : readFront specs given words = .ok (given', name, rest)) :
    ∃ part new, words = part ++ name :: rest ∧ given' = given ++ new ∧ PartGives specs part new ∧
      Word.of name = .plain := by
  cases words with
  | nil => cases h
  | cons word words =>
      rw [readFront_cons] at h
      obtain ⟨option, hword, h⟩ := Except.bind_eq_ok_iff.1 h
      cases option with
      | none =>
          rcases optionOf_eq_ok_none hword with hplain | hseparator
          · simp only [hplain] at h
            cases h
            exact ⟨[], [], rfl, (List.append_nil _).symm, .nil, hplain⟩
          · simp only [hseparator] at h
            cases h
      | some option =>
          obtain ⟨taken, words', g, hwords, hlength, hoption, h⟩ := takeAndGoOn_eq_ok hword h
          obtain ⟨part, new, rfl, rfl, hpart, hname⟩ := readFront_eq_ok h
          exact ⟨taken ++ part, g :: new, by rw [hwords, List.append_assoc], List.append_assoc _ _ _,
            .option hoption hpart, hname⟩
termination_by words.length
decreasing_by
  subst_vars
  exact Nat.lt_succ_of_le hlength

theorem readBack_cons (places : Places) (given : List Given) (taken : List String) (word : Bytes)
    (words : List Bytes) : readBack specs places given taken (word :: words) = (do
      match ← optionOf specs word with
      | none =>
        match Word.of word with
        | .separator => do
          let taken ← words.foldlM (place places) taken
          pure (given, taken)
        | _ => do
          let taken ← place places taken word
          readBack specs places given taken words
      | some (spec, attached) =>
        takeAndGoOn given spec attached words fun given => readBack specs places given taken) := by
  rw [readBack]
  rfl

/-- Behind a command there are options and plain words, and behind a separator plain words only. -/
theorem readBack_eq_ok {places : Places} {given given' : List Given} {taken taken' : List String}
    {words : List Bytes} (h : readBack specs places given taken words = .ok (given', taken')) :
    ∃ part new, given' = given ++ new ∧ PartGives specs part new ∧
      (words = part ∨ ∃ separator rest earlier, words = part ++ separator :: rest ∧
        Word.of separator = .separator ∧ rest.foldlM (place places) earlier = .ok taken') := by
  cases words with
  | nil =>
      obtain ⟨rfl, -⟩ := Prod.mk.inj (Except.ok.inj h)
      exact ⟨[], [], (List.append_nil _).symm, .nil, Or.inl rfl⟩
  | cons word words =>
      rw [readBack_cons] at h
      obtain ⟨option, hword, h⟩ := Except.bind_eq_ok_iff.1 h
      cases option with
      | none =>
          rcases optionOf_eq_ok_none hword with hplain | hseparator
          · simp only [hplain] at h
            obtain ⟨taken₁, -, h⟩ := Except.bind_eq_ok_iff.1 h
            obtain ⟨part, new, hgiven, hpart, hwords⟩ := readBack_eq_ok h
            refine ⟨word :: part, new, hgiven, .plain hplain hpart, ?_⟩
            rcases hwords with rfl | ⟨separator, rest, earlier, rfl, hrest⟩
            · exact Or.inl rfl
            · exact Or.inr ⟨separator, rest, earlier, rfl, hrest⟩
          · simp only [hseparator] at h
            obtain ⟨_, hrest, h⟩ := Except.bind_eq_ok_iff.1 h
            cases h
            exact ⟨[], [], (List.append_nil _).symm, .nil,
              Or.inr ⟨word, words, taken, rfl, hseparator, hrest⟩⟩
      | some option =>
          obtain ⟨used, words', g, hwords, hlength, hoption, h⟩ := takeAndGoOn_eq_ok hword h
          obtain ⟨part, new, rfl, hpart, hrest⟩ := readBack_eq_ok h
          refine ⟨used ++ part, g :: new, List.append_assoc _ _ _, .option hoption hpart, ?_⟩
          rw [hwords]
          rcases hrest with rfl | ⟨separator, rest, earlier, rfl, hrest⟩
          · exact Or.inl rfl
          · exact Or.inr ⟨separator, rest, earlier, (List.append_assoc _ _ _).symm, hrest⟩
termination_by words.length
decreasing_by
  · subst_vars
    exact Nat.lt_succ_self _
  · subst_vars
    exact Nat.lt_succ_of_le hlength

/-! ## Flags -/

section Flags

variable {name : String} (hword : Word.of (flagWord name) = .long (Text.encodeUtf8 name) none)
  (honly : ∀ spec ∈ specs, spec.name = name → spec = ⟨name, none, .flag⟩)
include hword

theorem ne_flagWord {word : Bytes} {looks : Word} (h : Word.of word = looks)
    (hlooks : ∀ name, looks ≠ .long name none) : flagWord name ≠ word := by
  rintro rfl
  exact hlooks _ (h.symm.trans hword)

theorem name_eq_of_optionOf {spec : OptionSpec} {attached : Option Bytes}
    (h : optionOf specs (flagWord name) = .ok (some (spec, attached))) : spec.name = name := by
  rcases (optionOf_eq_ok_some h).2 with hlong | ⟨-, letter, rest, hshort⟩
  · rw [hword] at hlong
    exact (Text.encodeUtf8_injective (Word.long.inj hlong).1).symm
  · rw [hword] at hshort
    cases hshort

include honly

theorem OptionIn.mem_iff {taken : List Bytes} {g : Given} (h : OptionIn specs taken g) :
    flagWord name ∈ taken ↔ g.name = name := by
  cases h with
  | @alone word spec attached hoption hflag =>
      rw [List.mem_singleton]
      constructor
      · rintro rfl
        exact name_eq_of_optionOf hword hoption
      · intro (hname : spec.name = name)
        obtain ⟨hspec, hlong | ⟨hletter, -⟩⟩ := optionOf_eq_ok_some hoption
        · have hattached : attached = none := hflag (by rw [honly spec hspec hname])
          rw [hattached, hname] at hlong
          exact (of_eq_long_none hlong).symm
        · exact absurd (by rw [honly spec hspec hname]) hletter
  | @withNext word value spec attached hoption hrole hvalue =>
      have hspec := (optionOf_eq_ok_some hoption).1
      have hname : spec.name ≠ name := fun hname => hrole (by rw [honly spec hspec hname])
      refine iff_of_false ?_ hname
      rw [List.mem_pair]
      rintro (rfl | hmem)
      · exact hname (name_eq_of_optionOf hword hoption)
      · exact ne_flagWord hword hvalue nofun hmem

/-- A flag is given in a part exactly if its word is there. -/
theorem PartGives.isGiven_iff {part : List Bytes} {given : List Given} (h : PartGives specs part given) :
    isGiven given name = true ↔ flagWord name ∈ part := by
  induction h with
  | nil => simp [isGiven]
  | plain hplain _ ih => simp [ih, ne_flagWord hword hplain nofun]
  | option hoption _ ih =>
      rw [List.mem_append, hoption.mem_iff hword honly, ← ih]
      simp [isGiven]

end Flags

theorem OptionIn.exists_spec {taken : List Bytes} {g : Given} (h : OptionIn specs taken g) :
    ∃ spec ∈ specs, g.name = spec.name := by
  cases h with
  | alone hword => exact ⟨_, (optionOf_eq_ok_some hword).1, rfl⟩
  | withNext hword => exact ⟨_, (optionOf_eq_ok_some hword).1, rfl⟩

/-- A word that would set a flag is not in a part without an option of this name. -/
theorem PartGives.flagWord_not_mem {name : String} {part : List Bytes} {given : List Given}
    (hword : Word.of (flagWord name) = .long (Text.encodeUtf8 name) none)
    (hnone : ∀ spec ∈ specs, spec.name ≠ name) (h : PartGives specs part given) :
    flagWord name ∉ part := by
  have hgiven : ∀ g ∈ given, g.name ≠ name := by
    induction h with
    | nil => exact List.forall_mem_nil _
    | plain _ _ ih => exact ih
    | option hoption _ ih =>
        obtain ⟨spec, hspec, hname⟩ := hoption.exists_spec
        exact List.forall_mem_cons.2 ⟨hname ▸ hnone spec hspec, ih⟩
  rw [← h.isGiven_iff hword fun spec hspec hname => absurd hname (hnone spec hspec)]
  simpa [isGiven] using hgiven

/-! ## Requests -/

/-- Reading does not end early with a run. -/
def NoRun {α : Type} (r : Except Halt α) : Prop :=
  r.FailsOnly fun halt => ∀ invocation, halt ≠ .request (.run invocation)

namespace NoRun

theorem usage {α : Type} (e : UsageError) : NoRun (.error (.usage e) : Except Halt α) := by
  intro halt h invocation
  cases h
  nofun

theorem give (given : List Given) (name : String) (value : Option Bytes) :
    NoRun (CommandLine.give given name value) := by
  unfold CommandLine.give
  split
  · exact usage _
  · exact .pure _

theorem giveValue (given : List Given) (name : String) (accept : Bytes → Bool) (value : Bytes) :
    NoRun (CommandLine.giveValue given name accept value) := by
  unfold CommandLine.giveValue
  split
  · exact give _ _ _
  · exact usage _

theorem takeNext (given : List Given) (spec : OptionSpec) (word : Bytes) :
    NoRun (CommandLine.takeNext given spec word) := by
  unfold CommandLine.takeNext
  split
  · exact giveValue _ _ _ _
  · exact usage _

theorem optionOf (specs : List OptionSpec) (word : Bytes) : NoRun (CommandLine.optionOf specs word) := by
  unfold CommandLine.optionOf
  split
  · exact .pure _
  · exact .pure _
  · split
    · exact .pure _
    · exact usage _
  · split
    · exact .pure _
    · exact usage _

theorem takeOption (given : List Given) {spec : OptionSpec} (attached : Option Bytes)
    (hrole : ∀ invocation, spec.role ≠ .asks (.run invocation)) :
    NoRun (CommandLine.takeOption given spec attached) := by
  unfold CommandLine.takeOption
  split
  · exact (give _ _ _).map _
  · exact usage _
  · exact (giveValue _ _ _ _).map _
  · exact .pure _
  · rename_i hasks
    intro halt h invocation hrun
    cases h
    cases hrun
    exact hrole invocation hasks
  · exact usage _

theorem place (places : Places) (taken : List String) (word : Bytes) :
    NoRun (CommandLine.place places taken word) := by
  unfold CommandLine.place
  split
  · split
    · exact .pure _
    · exact usage _
  · exact usage _

end NoRun

theorem NoRun.takeAndGoOn {α : Type} {goOn : List Given → List Bytes → Except Halt α}
    {given : List Given} {rest : List Bytes} {spec : OptionSpec} {attached : Option Bytes}
    (hrole : ∀ invocation, spec.role ≠ .asks (.run invocation))
    (hgoOn : ∀ given rest', rest'.length ≤ rest.length → NoRun (goOn given rest')) :
    NoRun (CommandLine.takeAndGoOn given spec attached rest goOn) := by
  refine .bind (NoRun.takeOption given attached hrole) fun result _ => ?_
  cases result with
  | some given' => exact hgoOn given' rest (Nat.le_refl _)
  | none =>
      cases rest with
      | nil => exact NoRun.usage _
      | cons value rest =>
          exact .bind (NoRun.takeNext _ _ _) fun given' _ => hgoOn given' rest (Nat.le_succ _)

section Asked

variable (hasks : ∀ spec ∈ specs, ∀ invocation, spec.role ≠ .asks (.run invocation))
include hasks

theorem noRun_readFront (given : List Given) (words : List Bytes) :
    NoRun (readFront specs given words) := by
  cases words with
  | nil => exact NoRun.usage _
  | cons word words =>
      rw [readFront_cons]
      refine .bind (NoRun.optionOf specs word) fun option hoption => ?_
      cases option with
      | none =>
          dsimp only
          split
          · exact NoRun.usage _
          · exact .pure _
      | some option =>
          obtain ⟨spec, attached⟩ := option
          refine NoRun.takeAndGoOn (hasks spec (optionOf_eq_ok_some hoption).1) fun given' words' hlength => ?_
          exact noRun_readFront given' words'
termination_by words.length
decreasing_by
  subst_vars
  exact Nat.lt_succ_of_le hlength

theorem noRun_readBack (places : Places) (given : List Given) (taken : List String)
    (words : List Bytes) : NoRun (readBack specs places given taken words) := by
  cases words with
  | nil => exact .pure _
  | cons word words =>
      rw [readBack_cons]
      refine .bind (NoRun.optionOf specs word) fun option hoption => ?_
      cases option with
      | none =>
          dsimp only
          split
          · exact .bind (.foldlM (NoRun.place places) taken words) fun _ _ => .pure _
          · exact .bind (NoRun.place places taken word) fun taken' _ => noRun_readBack places given taken' words
      | some option =>
          obtain ⟨spec, attached⟩ := option
          refine NoRun.takeAndGoOn (hasks spec (optionOf_eq_ok_some hoption).1) fun given' words' hlength => ?_
          exact noRun_readBack places given' taken words'
termination_by words.length
decreasing_by
  · subst_vars
    exact Nat.lt_succ_self _
  · subst_vars
    exact Nat.lt_succ_of_le hlength

end Asked

/-! ## Commands -/

theorem not_asks_run {spec : CommandSpec} (hspec : spec ∈ commands) :
    ∀ option ∈ globalOptions ++ spec.options, ∀ invocation, option.role ≠ .asks (.run invocation) := by
  simp only [commands, List.mem_cons, List.not_mem_nil, or_false] at hspec
  rcases hspec with rfl | rfl | rfl | rfl <;> simp [globalOptions, helpOption]

theorem NoRun.configPath (env : Environment) (front back : List Given) :
    NoRun (CommandLine.configPath env front back) := by
  unfold CommandLine.configPath
  split
  · exact .pure _
  · exact usage _
  · exact .pure _
  · exact .pure _
  · exact .pure _

theorem noRun_readCommand (env : Environment) (front : List Given) {spec : CommandSpec}
    (hspec : spec ∈ commands) (words : List Bytes) : NoRun (readCommand env front spec words) := by
  refine .bind (noRun_readBack (not_asks_run hspec) _ _ _ _) ?_
  rintro ⟨back, taken⟩ -
  dsimp only
  split
  · exact NoRun.usage _
  · exact .bind (NoRun.configPath env front back) fun _ _ => .pure _

theorem NoRun.readHelp (words : List Bytes) : NoRun (CommandLine.readHelp words) := by
  unfold CommandLine.readHelp
  split
  · exact .pure _
  · split
    · exact .pure _
    · exact usage _
  · exact usage _

theorem noRun_readWords (env : Environment) (words : List Bytes) : NoRun (readWords env words) := by
  refine .bind (noRun_readFront (by simp [globalOptions, helpOption, versionOption]) _ _) ?_
  rintro ⟨front, name, rest⟩ -
  dsimp only
  split
  · exact NoRun.readHelp _
  · split
    · rename_i hspec
      exact noRun_readCommand env front (List.mem_of_find?_eq_some hspec) rest
    · exact NoRun.usage _

variable {env : Environment} {words : List Bytes} {invocation : Invocation}

theorem readWords_of_parse (h : parse env words = .ok (.run invocation)) :
    readWords env words = .ok (.run invocation) := by
  unfold parse at h
  split at h
  · rename_i hwords
    rw [hwords, Except.ok.inj h]
  · rename_i hwords
    rw [Except.ok.inj h] at hwords
    exact absurd rfl (noRun_readWords env words _ hwords invocation)
  · cases h

theorem command_of_readCommand {front : List Given} {spec : CommandSpec} {rest : List Bytes}
    (h : readCommand env front spec rest = .ok (.run invocation)) :
    ∃ back taken, readBack (globalOptions ++ spec.options) spec.places [] [] rest = .ok (back, taken) ∧
      invocation.command = spec.meaning back taken := by
  obtain ⟨⟨back, taken⟩, hback, h⟩ := Except.bind_eq_ok_iff.1 h
  refine ⟨back, taken, hback, ?_⟩
  dsimp only at h
  split at h
  · cases h
  · obtain ⟨config, -, h⟩ := Except.bind_eq_ok_iff.1 h
    cases h
    rfl

/-- A line that asks for a run has options in front of a command, and words behind it that give the command
its meaning. -/
theorem parts_of_parse (h : parse env words = .ok (.run invocation)) :
    ∃ front name rest spec back taken,
      readFront (globalOptions ++ [versionOption]) [] words = .ok (front, name, rest) ∧ spec ∈ commands ∧
      readBack (globalOptions ++ spec.options) spec.places [] [] rest = .ok (back, taken) ∧
      invocation.command = spec.meaning back taken := by
  obtain ⟨⟨front, name, rest⟩, hfront, h⟩ := Except.bind_eq_ok_iff.1 (readWords_of_parse h)
  dsimp only at h
  split at h
  · unfold readHelp at h
    split at h
    · cases h
    · split at h <;> cases h
    · cases h
  · split at h
    · rename_i spec hspec
      obtain ⟨back, taken, hback, hcommand⟩ := command_of_readCommand h
      exact ⟨front, name, rest, spec, back, taken, hfront, List.mem_of_find?_eq_some hspec, hback, hcommand⟩
    · cases h

/-- A command without places has no words behind a separator. -/
theorem foldlM_place_none {taken taken' : List String} (h : words.foldlM (place ⟨[], none⟩) taken = .ok taken') :
    words = [] := by
  cases words with
  | nil => rfl
  | cons word words =>
      rw [List.foldlM_cons] at h
      cases h

/-- A flag of a command without places is given behind the command exactly if its word is somewhere in the
line. -/
theorem isGiven_iff_mem_words {name : String} {front back : List Given} {word : Bytes} {rest : List Bytes}
    {options : List OptionSpec} {taken : List String}
    (hword : Word.of (flagWord name) = .long (Text.encodeUtf8 name) none)
    (hglobal : ∀ spec ∈ globalOptions ++ [versionOption], spec.name ≠ name)
    (honly : ∀ spec ∈ globalOptions ++ options, spec.name = name → spec = ⟨name, none, .flag⟩)
    (hfront : readFront (globalOptions ++ [versionOption]) [] words = .ok (front, word, rest))
    (hback : readBack (globalOptions ++ options) ⟨[], none⟩ [] [] rest = .ok (back, taken)) :
    isGiven back name = true ↔ flagWord name ∈ words := by
  obtain ⟨part, new, rfl, -, hpart, hplain⟩ := readFront_eq_ok hfront
  have hnew : flagWord name ∉ part := hpart.flagWord_not_mem hword hglobal
  obtain ⟨part', new', rfl, hpart', hrest⟩ := readBack_eq_ok hback
  have hmem : flagWord name ∈ rest ↔ flagWord name ∈ part' := by
    rcases hrest with rfl | ⟨separator, rest', earlier, rfl, hseparator, hrest⟩
    · rfl
    · obtain rfl := foldlM_place_none hrest
      simp [ne_flagWord hword hseparator nofun]
  rw [hpart'.isGiven_iff hword honly, ← hmem]
  simp [hnew, ne_flagWord hword hplain nofun]

end CommandLine

end PackageActions
