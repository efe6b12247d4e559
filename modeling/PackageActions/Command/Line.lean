import PackageActions.Command.Basic
import PackageActions.Config.Environment

/-!
# Command lines

A command line has two parts, each with options of its own: the words up to the name of the command, and
the words behind it. The options for every command may stand in both parts; within a part an option is
given at most once. A word that starts with a dash is an option, a lone dash is not, and behind a double
dash there are no options. The value of an option is the next word, or stands in the same word behind an
equals sign; behind the letter of a short option the sign may be missing.

The first thing wrong is what is reported, and a request for the version or for help is granted as soon as
it is met.
-/

namespace PackageActions

/-- What is wrong with a command line. -/
inductive UsageError where
  | unexpectedWord (word : Bytes)
  | unknownOption (word : Bytes)
  | repeatedOption (name : String)
  | missingValue (name : String)
  | needlessValue (name : String)
  | badValue (name : String)
  | missingWord (name : String)
  | missingCommand
deriving DecidableEq, Inhabited

namespace UsageError

def message : UsageError → String
  | unexpectedWord word => "unexpected argument '" ++ Text.decodeLossy word ++ "' found"
  | unknownOption word => "unexpected argument '" ++ Text.decodeLossy word ++ "' found"
  | repeatedOption name => "the argument '--" ++ name ++ "' cannot be used multiple times"
  | missingValue name => "a value is required for '--" ++ name ++ "' but none was supplied"
  | needlessValue name => "unexpected value for '--" ++ name ++ "' found; no more were expected"
  | badValue name => "invalid value for '" ++ name ++ "'"
  | missingWord name => "the required argument <" ++ name ++ "> was not provided"
  | missingCommand => "a command is required"

end UsageError

/-- Why the reading of a command line ends early: it is wrong, or its request is clear. -/
inductive Halt where
  | usage (e : UsageError)
  | request (r : Request)
deriving DecidableEq, Inhabited

namespace CommandLine

/-! ## Words -/

def dash : UInt8 := 0x2d

def equalsSign : UInt8 := 0x3d

/-- What a word is by its looks. -/
inductive Word where
  | plain
  | separator
  | long (name : Bytes) (value : Option Bytes)
  | short (letter : UInt8) (rest : Bytes)

/-- The parts before and behind the first equals sign. -/
def splitAtEquals (bytes : Bytes) : Bytes × Option Bytes :=
  match bytes.dropWhile (· ≠ equalsSign) with
  | [] => (bytes, none)
  | _ :: value => (bytes.takeWhile (· ≠ equalsSign), some value)

def Word.of (word : Bytes) : Word :=
  match word with
  | a :: b :: rest =>
    if a ≠ dash then .plain
    else if b ≠ dash then .short b rest
    else if rest.isEmpty then .separator
    else
      let (name, value) := splitAtEquals rest
      .long name value
  | _ => .plain

/-! ## Options -/

/-- What an option does: it is a flag, it takes a value that passes a test, or it is a request. -/
inductive OptionRole where
  | flag
  | valued (accept : Bytes → Bool)
  | asks (r : Request)

/-- An option: its name, perhaps a letter, and what it does. -/
structure OptionSpec where
  name : String
  letter : Option Char
  role : OptionRole

/-- An option as given, with the value of an option that takes one. -/
structure Given where
  name : String
  value : Option Bytes
deriving DecidableEq

/-- Whether bytes spell a text. -/
def isText (bytes : Bytes) : Bool := (Text.decodeUtf8? bytes).isSome

def helpOption : OptionSpec := ⟨"help", some 'h', .asks .help⟩

def versionOption : OptionSpec := ⟨"version", some 'V', .asks .version⟩

/-- The options for every command. -/
def globalOptions : List OptionSpec :=
  [⟨"json", none, .flag⟩, ⟨"debug", none, .flag⟩, ⟨"config", none, .valued fun path => !path.isEmpty⟩,
    helpOption]

def findLong (specs : List OptionSpec) (name : Bytes) : Option OptionSpec :=
  specs.find? fun spec => Text.encodeUtf8 spec.name = name

def findShort (specs : List OptionSpec) (letter : UInt8) : Option OptionSpec :=
  specs.find? fun spec => spec.letter.map (fun c => UInt8.ofNat c.toNat) = some letter

/-- The options given so far, with one more. -/
def give (given : List Given) (name : String) (value : Option Bytes) : Except Halt (List Given) :=
  if given.any fun g => g.name = name then .error (.usage (.repeatedOption name))
  else .ok (given ++ [⟨name, value⟩])

/-- The options given so far, with the value of one more. -/
def giveValue (given : List Given) (name : String) (accept : Bytes → Bool) (value : Bytes) :
    Except Halt (List Given) :=
  if accept value then give given name (some value) else .error (.usage (.badValue name))

/-- Takes an option whose value, if it has one, stands in the same word; `none` if the value has to be the
next word. -/
def takeOption (given : List Given) (spec : OptionSpec) (attached : Option Bytes) :
    Except Halt (Option (List Given)) :=
  match spec.role, attached with
  | .flag, none => some <$> give given spec.name none
  | .flag, some _ => .error (.usage (.needlessValue spec.name))
  | .valued accept, some value => some <$> giveValue given spec.name accept value
  | .valued _, none => .ok none
  | .asks r, none => .error (.request r)
  | .asks _, some _ => .error (.usage (.needlessValue spec.name))

/-- The value in the same word as the letter of a short option. A request asks for nothing, so what stands
behind its letter does not matter. -/
def attachedToLetter (spec : OptionSpec) (rest : Bytes) : Option Bytes :=
  match spec.role, rest with
  | .asks _, _ => none
  | _, [] => none
  | _, b :: value => if b = equalsSign then some value else some rest

/-- The option that a word gives, and the value in the word; `none` for a word that is no option. -/
def optionOf (specs : List OptionSpec) (word : Bytes) :
    Except Halt (Option (OptionSpec × Option Bytes)) :=
  match Word.of word with
  | .plain => .ok none
  | .separator => .ok none
  | .long name value =>
    match findLong specs name with
    | some spec => .ok (some (spec, value))
    | none => .error (.usage (.unknownOption word))
  | .short letter rest =>
    match findShort specs letter with
    | some spec => .ok (some (spec, attachedToLetter spec rest))
    | none => .error (.usage (.unknownOption word))

/-- Takes the next word as the value of an option; a word that looks like an option is none. -/
def takeNext (given : List Given) (spec : OptionSpec) (word : Bytes) : Except Halt (List Given) :=
  match spec.role, Word.of word with
  | .valued accept, .plain => giveValue given spec.name accept word
  | _, _ => .error (.usage (.missingValue spec.name))

/-! ## The part in front of the command -/

/-- The options in front of the command, the name of the command, and the words behind it. -/
def readFront (specs : List OptionSpec) :
    List Given → List Bytes → Except Halt (List Given × Bytes × List Bytes)
  | _, [] => .error (.usage .missingCommand)
  | given, word :: rest => do
    match ← optionOf specs word with
    | none =>
      match Word.of word with
      | .separator => .error (.usage .missingCommand)
      | _ => pure (given, word, rest)
    | some (spec, attached) =>
      match ← takeOption given spec attached with
      | some given => readFront specs given rest
      | none =>
        match rest with
        | [] => .error (.usage (.missingValue spec.name))
        | value :: rest => do
          let given ← takeNext given spec value
          readFront specs given rest

/-! ## The part behind the command -/

/-- Which plain words a command takes: so many single ones, and perhaps any number behind them. -/
structure Places where
  single : List String
  more : Option String

/-- The plain words taken so far, with one more. -/
def place (places : Places) (taken : List String) (word : Bytes) : Except Halt (List String) :=
  if taken.length < places.single.length || places.more.isSome then
    match Text.decodeUtf8? word with
    | some text => .ok (taken ++ [text])
    | none =>
      let name := (places.single[taken.length]?.or places.more).getD ""
      .error (.usage (.badValue name))
  else .error (.usage (.unexpectedWord word))

/-- The options and the plain words behind the name of a command. -/
def readBack (specs : List OptionSpec) (places : Places) :
    List Given → List String → List Bytes → Except Halt (List Given × List String)
  | given, taken, [] => .ok (given, taken)
  | given, taken, word :: rest => do
    match ← optionOf specs word with
    | none =>
      match Word.of word with
      | .separator => do
        let taken ← rest.foldlM (place places) taken
        pure (given, taken)
      | _ => do
        let taken ← place places taken word
        readBack specs places given taken rest
    | some (spec, attached) =>
      match ← takeOption given spec attached with
      | some given => readBack specs places given taken rest
      | none =>
        match rest with
        | [] => .error (.usage (.missingValue spec.name))
        | value :: rest => do
          let given ← takeNext given spec value
          readBack specs places given taken rest

/-! ## Commands -/

/-- How a command is written: its name, its options, its places, and what it means. -/
structure CommandSpec where
  name : String
  options : List OptionSpec
  places : Places
  meaning : List Given → List String → Command

def isGiven (given : List Given) (name : String) : Bool := given.any fun g => g.name = name

/-- The value of an option. -/
def value? (given : List Given) (name : String) : Option Bytes :=
  (given.find? fun g => g.name = name).bind Given.value

/-- The commands. -/
def commands : List CommandSpec := [
  { name := "new", options := [], places := ⟨["CLASS"], some "ARGS"⟩
    meaning := fun _ words => .new (words.headD "") words.tail },
  { name := "classes", options := [], places := ⟨[], none⟩
    meaning := fun _ _ => .classes },
  { name := "fetch-options"
    options := [⟨"safe-resume", none, .flag⟩, ⟨"fetch-unneeded", none, .flag⟩]
    places := ⟨[], none⟩
    meaning := fun given _ =>
      .fetchOptions ⟨isGiven given "safe-resume", isGiven given "fetch-unneeded"⟩ },
  { name := "supports", options := [⟨"repository", some 'r', .valued isText⟩]
    places := ⟨["ACTION"], none⟩
    meaning := fun given words =>
      .supports (words.headD "") ((value? given "repository").bind Text.decodeUtf8?) }]

/-- What a call for help about a command is answered with. -/
def readHelp (words : List Bytes) : Except Halt Request :=
  match words with
  | [] => .ok .help
  | [word] =>
    if word = Text.encodeUtf8 "help" || commands.any fun c => Text.encodeUtf8 c.name = word then
      .ok .help
    else .error (.usage (.unexpectedWord word))
  | _ :: word :: _ => .error (.usage (.unexpectedWord word))

/-- The configuration file: named behind the command, in front of it, or in the environment. Each part for
itself falls back on the environment, which therefore may not hold an empty path unless both parts name
a file. -/
def configPath (env : Environment) (front back : List Given) : Except Halt (Option Bytes) :=
  match value? back "config", value? front "config", env "PACT_CONFIG" with
  | some path, some _, _ => .ok (some path)
  | _, _, some [] => .error (.usage (.badValue "config"))
  | some path, none, _ => .ok (some path)
  | none, some path, _ => .ok (some path)
  | none, none, path => .ok path

/-- The words behind a command. -/
def readCommand (env : Environment) (front : List Given) (spec : CommandSpec) (words : List Bytes) :
    Except Halt Request := do
  let (back, taken) ← readBack (globalOptions ++ spec.options) spec.places [] [] words
  match spec.places.single[taken.length]? with
  | some name => .error (.usage (.missingWord name))
  | none => pure ()
  let config ← configPath env front back
  pure (.run
    { json := isGiven front "json" || isGiven back "json"
      debug := isGiven front "debug" || isGiven back "debug"
      config
      command := spec.meaning back taken })

/-- Reads all words. -/
def readWords (env : Environment) (words : List Bytes) : Except Halt Request := do
  let (front, name, rest) ← readFront (globalOptions ++ [versionOption]) [] words
  if name = Text.encodeUtf8 "help" then readHelp rest
  else match commands.find? fun c => Text.encodeUtf8 c.name = name with
    | some spec => readCommand env front spec rest
    | none => .error (.usage (.unexpectedWord name))

/-- What a command line asks for. -/
def parse (env : Environment) (words : List Bytes) : Except UsageError Request :=
  match readWords env words with
  | .ok r => .ok r
  | .error (.request r) => .ok r
  | .error (.usage e) => .error e

end CommandLine

end PackageActions
