import PackageActions.Action.Basic

/-!
# Probes

A probe asks whether something might support an action. The kind of action is fixed by the type of a
`TypedProbe`, and only known from the value of an `AnyProbe`; whoever is asked sees the kind alone.
-/

namespace PackageActions

/-- What a probe shows. -/
class Probe (α : Type) where
  kind : α → ActionKind
  description : α → String

/-- A probe for one kind of action. -/
structure TypedProbe (kind : ActionKind) where
deriving DecidableEq

instance (kind : ActionKind) : Probe (TypedProbe kind) where
  kind _ := kind
  description _ := "SupportsActionTest<" ++ kind.className ++ ">"

/-- A probe for some kind of action. -/
inductive AnyProbe where
  | fetch (probe : TypedProbe .fetch)
  | info (probe : TypedProbe .info)
  | config (probe : TypedProbe .config)
deriving DecidableEq

namespace AnyProbe

/-- The probe for a kind. -/
def ofKind : ActionKind → AnyProbe
  | .fetch => .fetch ⟨⟩
  | .info => .info ⟨⟩
  | .config => .config ⟨⟩

/-- The kind that the probe asks about. -/
def kind : AnyProbe → ActionKind
  | .fetch probe => Probe.kind probe
  | .info probe => Probe.kind probe
  | .config probe => Probe.kind probe

def description : AnyProbe → String
  | .fetch probe => "Fetch(" ++ Probe.description probe ++ ")"
  | .info probe => "Info(" ++ Probe.description probe ++ ")"
  | .config probe => "Config(" ++ Probe.description probe ++ ")"

instance : Probe AnyProbe := ⟨kind, description⟩

@[simp] theorem kind_ofKind (k : ActionKind) : (ofKind k).kind = k := by
  cases k <;> rfl

/-- A probe is written as its kind. -/
def toJson (p : AnyProbe) : Json := p.kind.toJson

def decode (v : Json) : Except DecodeError AnyProbe := ofKind <$> ActionKind.decode v

end AnyProbe

end PackageActions
