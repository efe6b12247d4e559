import PackageActions.Argument.Basic

/-!
# Building values by class name

`construct` builds a value of a class from a list of arguments. A record can be given as its fields in
order (the positional form) or as one mapping (the named form); a class without fields takes no argument.
In the named form a foreign key is reported first, and then the first field, in the order declared, that
is missing or has the wrong type.
-/

namespace PackageActions

/-- The place of a field, as errors name it. -/
def fieldPlace (className key : String) : String := className ++ "." ++ key

/-! ## Reading a mapping -/

namespace Mapping

/-- Refuses a mapping with a key that is not allowed, and names the first such key. -/
def allowOnly (className : String) (allowed : List String) (m : Mapping) : Except ActionError Unit :=
  match (Dictionary.keys m).find? fun key => !allowed.contains key with
  | some key => .error (.unrecognizedOption className key)
  | none => .ok ()

/-- The argument under a key, which has to be there. -/
def required (className key : String) (m : Mapping) : Except ActionError Argument :=
  match Dictionary.get? m key with
  | some a => .ok a
  | none => .error (.missingField className key)

/-- The flag under a key, off if the key is missing. -/
def optionalFlag (className key : String) (m : Mapping) : Except ActionError Bool :=
  match Dictionary.get? m key with
  | some a => a.asBool (fieldPlace className key)
  | none => .ok false

def flag (className key : String) (m : Mapping) : Except ActionError Bool := do
  let a ← required className key m
  a.asBool (fieldPlace className key)

def text (className key : String) (m : Mapping) : Except ActionError String := do
  let a ← required className key m
  a.asText (fieldPlace className key)

end Mapping

/-! ## Records -/

namespace FetchOptions

/-- The named form. A flag that is not given is off. -/
def ofMapping (m : Mapping) : Except ActionError FetchOptions := do
  m.allowOnly className keys
  let safeResume ← m.optionalFlag className "safe_resume"
  let fetchUnneeded ← m.optionalFlag className "fetch_unneeded"
  pure ⟨safeResume, fetchUnneeded⟩

/-- Either form. -/
def ofArguments : List Argument → Except ActionError FetchOptions
  | [.mapping m] => ofMapping m
  | [other] => .error (other.mismatch className "Mapping or 2 positional arguments")
  | [a, b] => do
    let safeResume ← a.asBool (fieldPlace className "safe_resume")
    let fetchUnneeded ← b.asBool (fieldPlace className "fetch_unneeded")
    pure ⟨safeResume, fetchUnneeded⟩
  | args => .error (.wrongArity className args.length "1 or 2")

end FetchOptions

namespace FetchFailure

/-- The named form, in which every field is given. -/
def ofMapping (m : Mapping) : Except ActionError FetchFailure := do
  m.allowOnly className keys
  let targetFile ← m.text className "target_file"
  let requiresManualFetching ← m.flag className "requires_manual_fetching"
  let failedAutomaticFetching ← m.flag className "failed_automatic_fetching"
  let failedIntegrityChecks ← m.text className "failed_integrity_checks"
  pure ⟨targetFile, requiresManualFetching, failedAutomaticFetching, failedIntegrityChecks⟩

/-- Either form. -/
def ofArguments : List Argument → Except ActionError FetchFailure
  | [.mapping m] => ofMapping m
  | [other] => .error (other.mismatch className "Mapping or 4 positional arguments")
  | [a, b, c, d] => do
    let targetFile ← a.asText (fieldPlace className "target_file")
    let requiresManualFetching ← b.asBool (fieldPlace className "requires_manual_fetching")
    let failedAutomaticFetching ← c.asBool (fieldPlace className "failed_automatic_fetching")
    let failedIntegrityChecks ← d.asText (fieldPlace className "failed_integrity_checks")
    pure ⟨targetFile, requiresManualFetching, failedAutomaticFetching, failedIntegrityChecks⟩
  | args => .error (.wrongArity className args.length "1 or 4")

end FetchFailure

/-! ## Values of every class -/

/-- The options that a fetch is built from. -/
def fetchArgument : List Argument → Except ActionError FetchOptions
  | [.object (.options o)] => .ok o
  | [other] => .error (other.mismatch ActionKind.fetch.className FetchOptions.className)
  | args => .error (.wrongArity ActionKind.fetch.className args.length "1")

/-- A value that is built from nothing. -/
def withoutArguments (c : Class) (o : Object) : List Argument → Except ActionError Object
  | [] => .ok o
  | args => .error (.wrongArity c.name args.length "0")

/-- Builds a value of a class. -/
def construct (c : Class) (args : List Argument) : Except ActionError Object :=
  match c with
  | .action => .error (.constructionForbidden c.name)
  | .probe => .error (.constructionForbidden c.name)
  | .fetchAction => (fun o => .action (.fetch o)) <$> fetchArgument args
  | .infoAction => withoutArguments c (.action .info) args
  | .configAction => withoutArguments c (.action .config) args
  | .fetchOptions => .options <$> FetchOptions.ofArguments args
  | .fetchFailure => .failure <$> FetchFailure.ofArguments args
  | .fetchProbe => withoutArguments c (.probe (.ofKind .fetch)) args
  | .infoProbe => withoutArguments c (.probe (.ofKind .info)) args
  | .configProbe => withoutArguments c (.probe (.ofKind .config)) args

end PackageActions
