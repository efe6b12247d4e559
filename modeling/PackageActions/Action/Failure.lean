import PackageActions.Decoding.Json

/-!
# Failed fetches

A file that could not be fetched is recorded with what was tried. A fetch that did not complete is a
message and the records of its files.
-/

namespace PackageActions

/-- Why one file could not be fetched. The last field describes failed checks and is empty if none did. -/
structure FetchFailure where
  targetFile : String
  requiresManualFetching : Bool
  failedAutomaticFetching : Bool
  failedIntegrityChecks : String
deriving DecidableEq, Inhabited

/-- A fetch that did not complete. -/
structure FetchError where
  message : String
  failures : List FetchFailure
deriving DecidableEq, Inhabited

open Decoding

/-! ## One file -/

namespace FetchFailure

/-- The name of the class. -/
def className : String := "FetchActionFailure"

/-- The keys of the named form, in the order of the positional form. -/
def keys : List String :=
  ["target_file", "requires_manual_fetching", "failed_automatic_fetching", "failed_integrity_checks"]

def toJson (f : FetchFailure) : Json :=
  .object [("target_file", .string f.targetFile),
    ("requires_manual_fetching", .bool f.requiresManualFetching),
    ("failed_automatic_fetching", .bool f.failedAutomaticFetching),
    ("failed_integrity_checks", .string f.failedIntegrityChecks)]

/-- The record of an object: every field is required, and there are no other members. -/
def ofMembers (members : List (String × Json)) : Except DecodeError FetchFailure := do
  checkMembers [("target_file", check text), ("requires_manual_fetching", check boolean),
    ("failed_automatic_fetching", check boolean), ("failed_integrity_checks", check text)]
    .refused members
  let targetFile ← required "target_file" text members
  let requiresManualFetching ← required "requires_manual_fetching" boolean members
  let failedAutomaticFetching ← required "failed_automatic_fetching" boolean members
  let failedIntegrityChecks ← required "failed_integrity_checks" text members
  pure ⟨targetFile, requiresManualFetching, failedAutomaticFetching, failedIntegrityChecks⟩

/-- The record of an array of its fields. -/
def ofItems (items : List Json) : Except DecodeError FetchFailure := do
  let targetFile ← requiredItem className 4 0 text items
  let requiresManualFetching ← requiredItem className 4 1 boolean items
  let failedAutomaticFetching ← requiredItem className 4 2 boolean items
  let failedIntegrityChecks ← requiredItem className 4 3 text items
  atMost .direct 4 items
  pure ⟨targetFile, requiresManualFetching, failedAutomaticFetching, failedIntegrityChecks⟩

def decode (v : Json) : Except DecodeError FetchFailure := record className ofMembers ofItems v

end FetchFailure

/-! ## A whole fetch -/

namespace FetchError

/-- The error in words. -/
def text (e : FetchError) : String :=
  "fetch failed: " ++ e.message ++ " (" ++ toString e.failures.length ++ " file(s) affected)"

/-- Whether something has to be downloaded by hand before another try. -/
def requiresManualFetching (e : FetchError) : Bool :=
  e.failures.any fun f => f.requiresManualFetching

/-- Whether a file failed its checks. -/
def hasIntegrityFailures (e : FetchError) : Bool :=
  e.failures.any fun f => f.failedIntegrityChecks ≠ ""

def toJson (e : FetchError) : Json :=
  .object [("message", .string e.message), ("failures", .array (e.failures.map FetchFailure.toJson))]

/-- The error of an object; other members are passed over. -/
def ofMembers (members : List (String × Json)) : Except DecodeError FetchError := do
  checkMembers [("message", check Decoding.text), ("failures", check (list FetchFailure.decode))]
    .ignored members
  let message ← required "message" Decoding.text members
  let failures ← required "failures" (list FetchFailure.decode) members
  pure ⟨message, failures⟩

/-- The error of an array of its fields. -/
def ofItems (items : List Json) : Except DecodeError FetchError := do
  let message ← requiredItem "FetchActionError" 2 0 Decoding.text items
  let failures ← requiredItem "FetchActionError" 2 1 (list FetchFailure.decode) items
  atMost .direct 2 items
  pure ⟨message, failures⟩

def decode (v : Json) : Except DecodeError FetchError :=
  record "FetchActionError" ofMembers ofItems v

end FetchError

end PackageActions
