import PackageActions.Decoding.Json

/-!
# Options of a fetch

Two flags, both off unless they are set.
-/

namespace PackageActions

/-- How files are to be fetched: whether a partial download is resumed, and whether files are fetched that
nothing needs. -/
structure FetchOptions where
  safeResume : Bool := false
  fetchUnneeded : Bool := false
deriving DecidableEq, Inhabited

namespace FetchOptions

/-- The name of the class. -/
def className : String := "FetchActionOptions"

/-- The keys of the named form, in the order of the positional form. -/
def keys : List String := ["safe_resume", "fetch_unneeded"]

def toJson (o : FetchOptions) : Json :=
  .object [("safe_resume", .bool o.safeResume), ("fetch_unneeded", .bool o.fetchUnneeded)]

/-! ## Reading -/

open Decoding

/-- The options of an object: each flag may be missing, and there are no other members. -/
def ofMembers (members : List (String × Json)) : Except DecodeError FetchOptions := do
  checkMembers (keys.map fun key => (key, check boolean)) .refused members
  let safeResume ← optional "safe_resume" boolean false members
  let fetchUnneeded ← optional "fetch_unneeded" boolean false members
  pure ⟨safeResume, fetchUnneeded⟩

/-- The options of an array: flags may be missing at its end. -/
def ofItems (surplus : Surplus) (items : List Json) : Except DecodeError FetchOptions := do
  let safeResume ← optionalItem 0 boolean false items
  let fetchUnneeded ← optionalItem 1 boolean false items
  atMost surplus 2 items
  pure ⟨safeResume, fetchUnneeded⟩

def decode (surplus : Surplus) (v : Json) : Except DecodeError FetchOptions :=
  record className ofMembers (ofItems surplus) v

end FetchOptions

end PackageActions
