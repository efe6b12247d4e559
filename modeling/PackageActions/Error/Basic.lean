import PackageActions.Error.Io

/-!
# Errors

An error is one of four: an action value could not be built, the configuration is bad, a repository is
unknown, or an input or output operation failed. Each kind of error has a message, a stable code and
perhaps a hint; only failures of input and output are worth a second try.
-/

namespace PackageActions

/-- Why an action value could not be built. -/
inductive ActionError where
  | constructionForbidden (className : String)
  | unknownClass (className : String)
  | typeMismatch (context expected found : String)
  | unrecognizedOption (className key : String)
  | missingField (className field : String)
  | wrongArity (className : String) (given : Nat) (expected : String)
deriving DecidableEq, Inhabited

/-- The coarse reason behind an `ActionError`. -/
inductive ActionErrorKind where
  | constructionForbidden
  | typeMismatch
  | invalidArgument
deriving DecidableEq, Inhabited

/-- What is wrong with a configuration. -/
inductive ConfigError where
  | notFound (path : String)
  | invalid (message : String)
  | unreadable (message : String)
  | invalidValue (field value : String)
deriving DecidableEq, Inhabited

/-- What is wrong with a question about repositories. -/
inductive RepositoryError where
  | notFound (name : String)
deriving DecidableEq, Inhabited

/-- Any error. -/
inductive Error where
  | action (e : ActionError)
  | config (e : ConfigError)
  | repository (e : RepositoryError)
  | io (failure : IoFailure)
deriving DecidableEq, Inhabited

/-! ## Kinds -/

namespace ActionErrorKind

/-- The kind in words. -/
def text : ActionErrorKind → String
  | .constructionForbidden => "construction forbidden"
  | .typeMismatch => "type mismatch"
  | .invalidArgument => "invalid argument"

/-- The kind as one word, in reports. -/
def name : ActionErrorKind → String
  | .constructionForbidden => "construction_forbidden"
  | .typeMismatch => "type_mismatch"
  | .invalidArgument => "invalid_argument"

def all : List ActionErrorKind := [.constructionForbidden, .typeMismatch, .invalidArgument]

end ActionErrorKind

/-! ## Messages, codes and hints -/

namespace ActionError

/-- The coarse reason. -/
def kind : ActionError → ActionErrorKind
  | .constructionForbidden _ => .constructionForbidden
  | .typeMismatch _ _ _ => .typeMismatch
  | _ => .invalidArgument

def message : ActionError → String
  | .constructionForbidden c => c ++ " is abstract and cannot be constructed"
  | .unknownClass c => "no such class: " ++ c
  | .typeMismatch context expected found =>
    "type mismatch for " ++ context ++ ": expected " ++ expected ++ ", got " ++ found
  | .unrecognizedOption c key => "unrecognized option for " ++ c ++ ": " ++ key
  | .missingField c field => "missing required field for " ++ c ++ ": " ++ field
  | .wrongArity c given expected =>
    "wrong number of arguments for " ++ c ++ ": given " ++ toString given ++ ", expected " ++ expected

def code : ActionError → String
  | .constructionForbidden _ => "action.construction_forbidden"
  | .unknownClass _ => "action.unknown_class"
  | .typeMismatch _ _ _ => "action.type_mismatch"
  | .unrecognizedOption _ _ => "action.unrecognized_option"
  | .missingField _ _ => "action.missing_field"
  | .wrongArity _ _ _ => "action.wrong_arity"

def hint? : ActionError → Option String
  | .constructionForbidden _ => some "Construct one of the concrete subclasses instead."
  | .unknownClass _ => some "Run `pact new --help` to list known classes."
  | .unrecognizedOption _ _ => some "Check the option names against the documented keys."
  | .missingField _ _ => some "Check the option names against the documented keys."
  | _ => none

/-- No building error goes away by itself. -/
def isRetryable (_ : ActionError) : Bool := false

end ActionError

namespace ConfigError

def message : ConfigError → String
  | .notFound path => "config file not found: " ++ path
  | .invalid m => "invalid config: " ++ m
  | .unreadable m => "parse error: " ++ m
  | .invalidValue field value => "invalid value for " ++ field ++ ": " ++ value

def code : ConfigError → String
  | .notFound _ => "config.not_found"
  | .invalid _ => "config.invalid"
  | .unreadable _ => "config.parse_error"
  | .invalidValue _ _ => "config.invalid_value"

def hint? : ConfigError → Option String
  | .notFound _ => some "Provide a configuration file with --config."
  | _ => some "Fix the configuration value and retry the command."

end ConfigError

namespace RepositoryError

def message : RepositoryError → String
  | .notFound name => "no such repository: " ++ name

def code : RepositoryError → String
  | .notFound _ => "repository.not_found"

def hint? : RepositoryError → Option String
  | .notFound _ => some "Add the repository under [repositories] in config."

end RepositoryError

namespace Error

/-- The message for the user. -/
def message : Error → String
  | .action e => e.message
  | .config e => e.message
  | .repository e => e.message
  | .io failure => failure.message

/-- The message with the domain of the error in front. -/
def text : Error → String
  | .action e => "action error: " ++ e.message
  | .config e => "config error: " ++ e.message
  | .repository e => "repository error: " ++ e.message
  | .io failure => "I/O error: " ++ failure.message

/-- The stable code. -/
def code : Error → String
  | .action e => e.code
  | .config e => e.code
  | .repository e => e.code
  | .io _ => "error.io"

def hint? : Error → Option String
  | .action e => e.hint?
  | .config e => e.hint?
  | .repository e => e.hint?
  | .io _ => none

/-- The coarse reason, for an error of building an action value. -/
def actionKind? : Error → Option ActionErrorKind
  | .action e => some e.kind
  | _ => none

/-- Whether the same operation may succeed later. -/
def isRetryable : Error → Bool
  | .io _ => true
  | _ => false

end Error

end PackageActions
