import PackageActions.Action.Probe
import PackageActions.Config.Basic

/-!
# Repositories

Of a repository only two things are asked: its name, and whether any of its packages might support what a
probe asks for (`Askable`). It can say of a probe that none of its packages does, without looking at them.

A configured repository has one of two formats. A repository of packages to be built holds what can be
fetched, a repository of packages in place holds what can be configured, and both can give information.
-/

namespace PackageActions

/-- What is asked of a repository: its name, and whether its packages might support what a probe asks for;
`false` is definite. -/
class Askable (ρ : Type) where
  name : ρ → String
  mightSupport {α : Type} [Probe α] (probe : α) : ρ → Bool

/-- A configured repository. -/
structure Repository where
  name : String
  format : RepositoryFormat
  location : Option String
deriving DecidableEq, Inhabited

/-- Whether packages in a repository of this format might support a kind of action. -/
def RepositoryFormat.mightSupport : RepositoryFormat → ActionKind → Bool
  | .source, .config => false
  | .installed, .fetch => false
  | _, _ => true

/-- Whether packages in the repository might support what a probe asks for. -/
def Repository.mightSupport {α : Type} [Probe α] (probe : α) (r : Repository) : Bool :=
  r.format.mightSupport (Probe.kind probe)

instance : Askable Repository := ⟨Repository.name, Repository.mightSupport⟩

@[simp] theorem Repository.askable_name (r : Repository) : Askable.name r = r.name := rfl

@[simp] theorem Repository.askable_mightSupport {α : Type} [Probe α] (probe : α) (r : Repository) :
    Askable.mightSupport probe r = r.mightSupport probe := rfl

end PackageActions
