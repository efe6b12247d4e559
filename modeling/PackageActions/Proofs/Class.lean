import PackageActions.Class

/-!
# Names and order of classes

Every class has a name of its own, so a name stands for at most one class: reading a class gives exactly
the class that bears the name (`ofName_eq_ok_iff`), and fails, with the name in the error, for every
other text (`ofName_eq_error_iff`).

The classes of actions stand below one class and those of probes below another, and nothing else stands below
a class (`superclass?_eq_some_iff`).
-/

namespace PackageActions

namespace Class

/-! ## Names -/

theorem mem_all (c : Class) : c ∈ all := by
  cases c <;> decide

theorem ofName_name (c : Class) : ofName c.name = .ok c := by
  cases c <;> rfl

theorem ofName_eq_ok_iff {name : String} {c : Class} : ofName name = .ok c ↔ c.name = name := by
  constructor
  · intro h
    unfold ofName at h
    split at h
    · rename_i d hd
      obtain rfl := Except.ok.inj h
      simpa using List.find?_some hd
    · cases h
  · rintro rfl
    exact ofName_name c

theorem ofName_eq_error_iff {name : String} {e : ActionError} :
    ofName name = .error e ↔ name ∉ all.map Class.name ∧ e = .unknownClass name := by
  have hfind : all.find? (fun c => c.name = name) = none ↔ name ∉ all.map Class.name := by
    simp [List.find?_eq_none]
  unfold ofName
  split
  · rename_i c hc
    have : name ∈ all.map Class.name :=
      List.mem_map.2 ⟨c, mem_all c, by simpa using List.find?_some hc⟩
    exact iff_of_false (by simp) fun h => h.1 this
  · rename_i hnone
    rw [Except.error.injEq, eq_comm]
    exact (and_iff_right (hfind.1 hnone)).symm

/-! ## Order -/

/-- What stands directly below a class. -/
inductive Below : Class → Class → Prop where
  | action (kind : ActionKind) : Below (.ofAction kind) .action
  | probe (kind : ActionKind) : Below (.ofProbe kind) .probe

theorem superclass?_eq_some_iff {c d : Class} : c.superclass? = some d ↔ c.Below d := by
  constructor
  · intro h
    cases c with
    | fetchAction => cases h; exact .action .fetch
    | infoAction => cases h; exact .action .info
    | configAction => cases h; exact .action .config
    | fetchProbe => cases h; exact .probe .fetch
    | infoProbe => cases h; exact .probe .info
    | configProbe => cases h; exact .probe .config
    | _ => cases h
  · rintro (kind | kind)
    · cases kind <;> rfl
    · cases kind <;> rfl

/-- The abstract classes are those that something stands below. -/
theorem isAbstract_iff {c : Class} : c.isAbstract = true ↔ ∃ d : Class, d.Below c := by
  constructor
  · intro h
    cases c with
    | action => exact ⟨_, .action .fetch⟩
    | probe => exact ⟨_, .probe .fetch⟩
    | _ => cases h
  · rintro ⟨_, kind | kind⟩
    · rfl
    · rfl

end Class

end PackageActions
