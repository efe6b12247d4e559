import PackageActions.Proofs.Argument.Refusals
import PackageActions.Proofs.Command.Building
import PackageActions.Proofs.Command.Stages

/-!
# Asking for abstract classes

No value of an abstract class is ever built, neither by a JSON request nor by a command. But the arguments are
read before anything is built, so an argument that cannot be read is reported first (`Class.refusalAfter`):
the error says that the class is abstract exactly if every argument can be read, or the first that cannot be
is itself refused as abstract (`abstract_refused_after_arguments`).
-/

namespace PackageActions

/-- What an abstract class is refused with, once its arguments are read or have failed to be. -/
def Class.refusalAfter {α : Type} (c : Class) : Except ActionError α → ActionError
  | .error e => e
  | .ok _ => .constructionForbidden c.name

/-- The error says that a class is abstract. -/
def RefusedAsAbstract {α : Type} (r : Except ActionError α) : Prop :=
  ∃ name, r = .error (.constructionForbidden name)

theorem Class.refusalAfter_eq_constructionForbidden_iff {α : Type} {c : Class} {r : Except ActionError α} :
    (∃ name, c.refusalAfter r = .constructionForbidden name) ↔
      (∃ a, r = .ok a) ∨ RefusedAsAbstract r := by
  cases r with
  | ok a => simp [refusalAfter]
  | error e => simp [refusalAfter, RefusedAsAbstract]

/-- Of several words the first that cannot be read decides how reading them is refused. -/
theorem refusedAsAbstract_mapM_iff {words : List String} :
    RefusedAsAbstract (words.mapM Argument.ofWord) ↔ ∃ before word after,
      words = before ++ word :: after ∧ (∀ earlier ∈ before, ∃ a, Argument.ofWord earlier = .ok a) ∧
        RefusedAsAbstract (Argument.ofWord word) := by
  simp only [RefusedAsAbstract, Except.mapM_eq_error_iff]
  constructor
  · rintro ⟨name, before, word, after, hwords, hbefore, hword⟩
    exact ⟨before, word, after, hwords, hbefore, name, hword⟩
  · rintro ⟨before, word, after, hwords, hbefore, name, hword⟩
    exact ⟨name, before, word, after, hwords, hbefore, hword⟩

section Abstract

variable {c : Class} (hc : c.isAbstract = true)
include hc

/-- Whatever the arguments are made of, building ends in the refusal that comes after them. -/
theorem bind_construct_abstract {α : Type} (read : Except ActionError α) (args : α → List Argument) :
    (read >>= fun a => construct c (args a)) = .error (c.refusalAfter read) := by
  cases read with
  | error e => rfl
  | ok a => exact construct_of_isAbstract hc (args a)

theorem Argument.ofJson_request_abstract (w : Json) :
    ofJson (.request c.name w) = .error (c.refusalAfter (ofJson w)) := by
  have hbuild := bind_construct_abstract hc (ofJson w) given
  have hmap : ofJson (.request c.name w) =
      .object <$> (ofJson w >>= fun a => construct c (given a)) := by
    rw [ofJson_request_args, Class.ofName_name, map_bind]
    rfl
  rw [hmap, hbuild]
  rfl

theorem Command.build_abstract (words : List String) :
    build c.name words = .error (c.refusalAfter (words.mapM Argument.ofWord)) := by
  rw [build_name]
  exact bind_construct_abstract hc (words.mapM Argument.ofWord) id

theorem Invocation.answer_abstract {files : Files} {env : Environment} {invocation : Invocation}
    {loaded : Config} {words : List String} (hload : Config.load files env invocation.config = .ok loaded)
    (henv : env.failure? = none) (hcommand : invocation.command = .new c.name words) :
    invocation.answer files env = .error (.action (c.refusalAfter (words.mapM Argument.ofWord))) := by
  have hfails : Command.Builds c.name words (.error (c.refusalAfter (words.mapM Argument.ofWord))) := by
    rw [← Command.build_abstract hc]
    exact Command.builds_build c.name words
  apply Ends.answer_eq
  apply Ends.failed hload henv
  rw [hcommand]
  exact .notBuilt hfails

end Abstract

/-- A request or a command for a value of an abstract class always fails. It is refused as that of an abstract
class exactly if all its arguments can be read, or the first that cannot be is refused so itself; otherwise
the error is the one of that argument. For a command the configuration and the environment have to be in
order. -/
theorem abstract_refused_after_arguments {c : Class} (hc : c.isAbstract = true) :
    (∀ w, Argument.ofJson (.request c.name w) = .error (c.refusalAfter (Argument.ofJson w)) ∧
      (RefusedAsAbstract (Argument.ofJson (.request c.name w)) ↔
        (∃ a, Argument.ofJson w = .ok a) ∨ RefusedAsAbstract (Argument.ofJson w))) ∧
      ∀ (files : Files) (env : Environment) (invocation : Invocation) (loaded : Config) words,
        Config.load files env invocation.config = .ok loaded → env.failure? = none →
        invocation.command = .new c.name words →
          invocation.answer files env =
              .error (.action (c.refusalAfter (words.mapM Argument.ofWord))) ∧
            ((∃ name, invocation.answer files env = .error (.action (.constructionForbidden name))) ↔
              (∀ word ∈ words, ∃ a, Argument.ofWord word = .ok a) ∨
                ∃ before word after, words = before ++ word :: after ∧
                  (∀ earlier ∈ before, ∃ a, Argument.ofWord earlier = .ok a) ∧
                  RefusedAsAbstract (Argument.ofWord word)) := by
  refine ⟨fun w => ?_, fun files env invocation loaded words hload henv hcommand => ?_⟩
  · have hrequest := Argument.ofJson_request_abstract hc w
    refine ⟨hrequest, ?_⟩
    rw [← Class.refusalAfter_eq_constructionForbidden_iff (c := c), RefusedAsAbstract, hrequest]
    simp only [Except.error.injEq]
  · have hanswer := Invocation.answer_abstract hc hload henv hcommand
    refine ⟨hanswer, ?_⟩
    rw [← refusedAsAbstract_mapM_iff, ← Except.exists_mapM_eq_ok_iff,
      ← Class.refusalAfter_eq_constructionForbidden_iff (c := c), hanswer]
    simp only [Except.error.injEq, Error.action.injEq]

/-- An argument that is itself a request for the other abstract class is refused first. -/
theorem abstract_refused_after_arguments_nested :
    Class.probe.isAbstract = true ∧
      Argument.ofJson (.request "SupportsActionTestBase" (.array [.null, .request "Action" .null])) =
        .error (.constructionForbidden "Action") ∧
      RefusedAsAbstract
        (Argument.ofJson (.request "SupportsActionTestBase" (.array [.null, .bool true]))) := by
  have hprobe : Class.probe.isAbstract = true := rfl
  have hrequests := (abstract_refused_after_arguments hprobe).1
  refine ⟨hprobe, ?_, ?_⟩
  · exact (hrequests (.array [.null, .request "Action" .null])).1
  · exact (hrequests (.array [.null, .bool true])).2.2 (Or.inl ⟨.list [.nil, .bool true], rfl⟩)

/-- A request for a class that does not exist, as the argument of one for an abstract class, is reported in
the place of the abstract class, and so is the word that spells it. -/
theorem abstract_not_refused_of_unknown_argument :
    (Class.action.isAbstract = true ∧ Class.action.name = "Action") ∧
      Argument.ofJson (.request "Action" (.object [("new", .string "Nope")])) =
        .error (.unknownClass "Nope") ∧
      Command.build "Action" ["\x7b\"new\":\"Nope\"\x7d"] = .error (.unknownClass "Nope") ∧
      ¬ ∀ w, RefusedAsAbstract (Argument.ofJson (.request "Action" w)) := by
  have hnested : Argument.ofJson (.request "Action" (.object [("new", .string "Nope")])) =
      .error (.unknownClass "Nope") := rfl
  refine ⟨⟨rfl, rfl⟩, hnested, by decide +kernel, fun hall => ?_⟩
  obtain ⟨name, hname⟩ := hall (.object [("new", .string "Nope")])
  rw [hnested] at hname
  cases hname

end PackageActions
