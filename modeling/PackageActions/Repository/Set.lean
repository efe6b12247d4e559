import PackageActions.Error.Basic
import PackageActions.Repository.Basic

/-!
# Sets of repositories

A set lists its repositories in the order in which they were added. A name is looked up from the front, so
of two repositories with one name the earlier is found.
-/

namespace PackageActions

/-- Repositories in the order in which they were added. -/
structure RepositorySet (ρ : Type := Repository) where
  repositories : List ρ := []
deriving DecidableEq, Inhabited

namespace RepositorySet

variable {ρ : Type}

/-- The set with one more repository. -/
def add (r : ρ) (set : RepositorySet ρ) : RepositorySet ρ := ⟨set.repositories ++ [r]⟩

@[simp] theorem repositories_add (r : ρ) (set : RepositorySet ρ) :
    (set.add r).repositories = set.repositories ++ [r] := rfl

/-- The repositories that are configured, by name. -/
def ofConfig (config : Dictionary RepositoryConfig) : RepositorySet :=
  ⟨config.map fun entry => ⟨entry.1, entry.2.format, entry.2.location⟩⟩

def size (set : RepositorySet ρ) : Nat := set.repositories.length

def isEmpty (set : RepositorySet ρ) : Bool := set.repositories.isEmpty

section Asking

variable [Askable ρ]

def names (set : RepositorySet ρ) : List String := set.repositories.map Askable.name

/-- The repository of a name. -/
def get (name : String) (set : RepositorySet ρ) : Except RepositoryError ρ :=
  match set.repositories.find? fun r => Askable.name r = name with
  | some r => .ok r
  | none => .error (.notFound name)

variable {α : Type} [Probe α]

/-- The names of the repositories that might support what a probe asks for. -/
def mightSupport (probe : α) (set : RepositorySet ρ) : List String :=
  (set.repositories.filter fun r => Askable.mightSupport probe r).map Askable.name

/-- Whether the repository of a name might support what a probe asks for. -/
def ask (name : String) (probe : α) (set : RepositorySet ρ) : Except RepositoryError Bool :=
  (fun r => Askable.mightSupport probe r) <$> set.get name

/-! ## Adding one repository -/

@[simp] theorem names_add (r : ρ) (set : RepositorySet ρ) :
    (set.add r).names = set.names ++ [Askable.name r] := by
  simp [names]

theorem mightSupport_add (probe : α) (r : ρ) (set : RepositorySet ρ) :
    (set.add r).mightSupport probe =
      set.mightSupport probe ++ if Askable.mightSupport probe r then [Askable.name r] else [] := by
  by_cases h : Askable.mightSupport probe r = true <;> simp [mightSupport, List.filter_append, h]

end Asking

/-! ## Configured sets -/

@[simp] theorem names_ofConfig (config : Dictionary RepositoryConfig) :
    (ofConfig config).names = Dictionary.keys config := by
  rw [names, ofConfig, List.map_map]
  rfl

end RepositorySet

end PackageActions
