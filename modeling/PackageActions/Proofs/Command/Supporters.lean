import PackageActions.Proofs.Action.Kind
import PackageActions.Proofs.Config.InForce
import PackageActions.Proofs.Repository.Set

/-!
# Asking for supporters

The repositories that might support an action can be asked for all at once or one by name. The text of the
action is read before any name is looked up, so both forms refuse the same texts
(`execute_supports_of_unknown`). For every other text the two forms tell the same: each answer for one
name follows from the answer for all, and that answer joins the answers for the configured names
(`supports_one_agrees_with_all`). This needs the names to be in order, and so they are whenever a command
is carried out (`Invocation.answeredSingly`).
-/

namespace PackageActions

namespace Command

open Dictionary RepositorySet

variable {config : Config} {action : String} {kind : ActionKind}

theorem execute_supports_of_unknown (h : ∀ kind, ActionKind.ofText action ≠ .ok kind)
    (repository : Option String) :
    execute config (.supports action repository) = .error (.action (.unknownClass action)) := by
  rw [execute, supporters]
  cases hkind : ActionKind.ofText action with
  | ok kind => exact absurd hkind (h kind)
  | error e =>
      rw [(ActionKind.ofText_eq_error_iff.1 hkind).2]
      rfl

/-- The repositories of a configuration that might support a kind of action. -/
def supportersOf (config : Config) (kind : ActionKind) : List String :=
  (RepositorySet.ofConfig config.repositories).mightSupport (AnyProbe.ofKind kind)

theorem execute_supports_all (h : ActionKind.ofText action = .ok kind) :
    execute config (.supports action none) = .ok (.supports kind (supportersOf config kind)) := by
  rw [execute, supporters, h]
  rfl

theorem execute_supports_one (h : ActionKind.ofText action = .ok kind) (name : String) :
    execute config (.supports action (some name)) =
      (fun answer => .supports kind (if answer then [name] else [])) <$>
        ((RepositorySet.ofConfig config.repositories).ask name (AnyProbe.ofKind kind)).mapError
          .repository := by
  rw [execute, supporters, h]
  rfl

theorem execute_supports_one_eq_error_iff (h : ActionKind.ofText action = .ok kind) {name : String}
    {e : Error} : execute config (.supports action (some name)) = .error e ↔
      name ∉ keys config.repositories ∧ e = .repository (.notFound name) := by
  rw [execute_supports_one h, Except.map_eq_error_iff, Except.mapError_eq_error_iff]
  simp only [ask_eq_error_iff, names_ofConfig]
  constructor
  · rintro ⟨_, ⟨hname, rfl⟩, rfl⟩
    exact ⟨hname, rfl⟩
  · rintro ⟨hname, rfl⟩
    exact ⟨_, ⟨hname, rfl⟩, rfl⟩

section Configured

variable (hsorted : Sorted config.repositories) (h : ActionKind.ofText action = .ok kind)
include hsorted h

theorem execute_supports_one_eq_ok {name : String} (hname : name ∈ keys config.repositories) :
    execute config (.supports action (some name)) =
      .ok (.supports kind (if name ∈ supportersOf config kind then [name] else [])) := by
  rw [← names_ofConfig] at hname
  rw [execute_supports_one h, ask_eq_decide (nodup_names_ofConfig hsorted) hname, supportersOf]
  simp only [Except.mapError, Except.map_ok, decide_eq_true_eq]

/-- The single answers for all configured names, in the order of the names. -/
theorem exists_answers_supportersOf : ∃ answers : List (List String),
    List.Forall₂ (fun name answer =>
        execute config (.supports action (some name)) = .ok (.supports kind answer))
      (keys config.repositories) answers ∧ supportersOf config kind = answers.flatten := by
  refine ⟨(ofConfig config.repositories).repositories.map fun r =>
    if Askable.mightSupport (AnyProbe.ofKind kind) r then [Askable.name r] else [], ?_, ?_⟩
  · rw [← names_ofConfig, names, List.forall₂_map_left_iff, List.forall₂_map_right_iff,
      List.forall₂_same]
    intro r hr
    rw [execute_supports_one h, ask_name (nodup_names_ofConfig hsorted) hr]
    rfl
  · rw [supportersOf, mightSupport_eq_flatMap, List.flatMap_def]

end Configured

/-- A list of names is what the single questions make of it. For a name that is not configured, and for no
other, a single question fails; for any other name it is answered by the name itself, if the name is in the
list, or by nothing. -/
structure AnsweredSingly (config : Config) (action : String) (kind : ActionKind)
    (names : List String) : Prop where
  unknown : ∀ name e, execute config (.supports action (some name)) = .error e ↔
    name ∉ keys config.repositories ∧ e = .repository (.notFound name)
  known : ∀ name ∈ keys config.repositories, execute config (.supports action (some name)) =
    .ok (.supports kind (if name ∈ names then [name] else []))
  joined : ∃ answers : List (List String),
    List.Forall₂ (fun name answer =>
        execute config (.supports action (some name)) = .ok (.supports kind answer))
      (keys config.repositories) answers ∧ names = answers.flatten
  increasing : names.Pairwise (· < ·)
  configured : names ⊆ keys config.repositories

theorem answeredSingly_supportersOf (hsorted : Sorted config.repositories)
    (h : ActionKind.ofText action = .ok kind) :
    AnsweredSingly config action kind (supportersOf config kind) := by
  have hsub : (supportersOf config kind).Sublist (keys config.repositories) := by
    rw [← names_ofConfig]
    exact mightSupport_sublist
  constructor
  · exact fun name e => execute_supports_one_eq_error_iff h
  · exact fun name hname => execute_supports_one_eq_ok hsorted h hname
  · exact exists_answers_supportersOf hsorted h
  · exact List.Pairwise.sublist hsub hsorted
  · exact hsub.subset

/-- Asking for one repository and asking for all come to the same. A text that names no action is refused
by both, whatever repository is asked for. For any other text the answer for all is a list that the answers
for single repositories make up. -/
theorem supports_one_agrees_with_all (config : Config) (hsorted : Sorted config.repositories)
    (action : String) :
    ((∀ kind, ActionKind.ofText action ≠ .ok kind) → ∀ repository,
        execute config (.supports action repository) = .error (.action (.unknownClass action))) ∧
      ∀ kind, ActionKind.ofText action = .ok kind →
        ∃ names, execute config (.supports action none) = .ok (.supports kind names) ∧
          AnsweredSingly config action kind names := by
  constructor
  · exact execute_supports_of_unknown
  · intro kind h
    exact ⟨_, execute_supports_all h, answeredSingly_supportersOf hsorted h⟩

theorem supports_one_agrees_with_all_fetch :
    let config : Config :=
      { repositories := [("live", ⟨.installed, none⟩), ("tree", ⟨.source, none⟩)] }
    Sorted config.repositories ∧ ActionKind.ofText "FETCH" = .ok .fetch ∧
      AnsweredSingly config "FETCH" .fetch ["tree"] := by
  intro config
  have hsorted : Sorted config.repositories := by
    simp only [config, Sorted]
    decide
  have hkind : ActionKind.ofText "FETCH" = .ok .fetch := by decide
  obtain ⟨names, hall, h⟩ := (supports_one_agrees_with_all config hsorted "FETCH").2 .fetch hkind
  obtain rfl : names = ["tree"] := by
    rw [execute_supports_all hkind] at hall
    cases hall
    decide
  exact ⟨hsorted, hkind, h⟩

end Command

/-- Whatever the configuration file and the environment hold, single questions make up the answer. -/
theorem Invocation.answeredSingly {files : Files} {env : Environment} {invocation : Invocation}
    {config : Config} {action : String} {kind : ActionKind}
    (hconfig : invocation.settings files env = .ok config) (h : ActionKind.ofText action = .ok kind) :
    Command.AnsweredSingly config action kind (Command.supportersOf config kind) :=
  Command.answeredSingly_supportersOf (sorted_repositories hconfig) h

end PackageActions
