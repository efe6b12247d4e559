import PackageActions.Config.Basic
import PackageActions.Decoding.Basic

/-!
# Reading configurations

The sections of a configuration, read from a value of any format. The options of a fetch are no part of
this reading, and of a configuration itself unknown members are passed over; its sections are strict.
-/

namespace PackageActions

open Decoding

variable {α : Type} [SelfDescribing α]

def OutputFormat.decode (v : α) : Except DecodeError OutputFormat :=
  oneOf (all.map fun format => (format.name, format)) v

def RepositoryFormat.decode (v : α) : Except DecodeError RepositoryFormat :=
  oneOf (all.map fun format => (format.name, format)) v

/-! ## The general section -/

namespace Config

def generalOfMembers (members : List (String × α)) : Except DecodeError OutputFormat := do
  checkMembers [("default_output", check OutputFormat.decode)] .refused members
  optional "default_output" OutputFormat.decode .plain members

def generalOfItems (items : List α) : Except DecodeError OutputFormat := do
  let output ← optionalItem 0 OutputFormat.decode .plain items
  atMost .direct 1 items
  pure output

/-- The general section, whose only setting is how results are shown. -/
def decodeGeneral (v : α) : Except DecodeError OutputFormat :=
  record "GeneralConfig" generalOfMembers generalOfItems v

end Config

/-! ## Repositories -/

namespace RepositoryConfig

def ofMembers (members : List (String × α)) : Except DecodeError RepositoryConfig := do
  checkMembers [("format", check RepositoryFormat.decode), ("location", check path?)] .refused members
  let format ← required "format" RepositoryFormat.decode members
  let location ← optional "location" path? none members
  pure ⟨format, location⟩

def ofItems (items : List α) : Except DecodeError RepositoryConfig := do
  let format ← requiredItem "RepositoryConfig" 2 0 RepositoryFormat.decode items
  let location ← optionalItem 1 path? none items
  atMost .direct 2 items
  pure ⟨format, location⟩

/-- The settings of one repository; only the location may be missing. -/
def decode (v : α) : Except DecodeError RepositoryConfig :=
  record "RepositoryConfig" ofMembers ofItems v

end RepositoryConfig

/-! ## Whole configurations -/

namespace Config

/-- The repositories by name. -/
def decodeRepositories (v : α) : Except DecodeError (Dictionary RepositoryConfig) :=
  dictionary RepositoryConfig.decode v

def ofMembers (members : List (String × α)) : Except DecodeError Config := do
  checkMembers [("general", check decodeGeneral), ("repositories", check decodeRepositories)]
    .ignored members
  let output ← optional "general" decodeGeneral .plain members
  let repositories ← optional "repositories" decodeRepositories [] members
  pure { output, repositories }

def ofItems (items : List α) : Except DecodeError Config := do
  let output ← optionalItem 0 decodeGeneral .plain items
  let repositories ← optionalItem 1 decodeRepositories [] items
  atMost .direct 2 items
  pure { output, repositories }

/-- A configuration without options of a fetch. -/
def decode (v : α) : Except DecodeError Config := record "Config" ofMembers ofItems v

end Config

end PackageActions
