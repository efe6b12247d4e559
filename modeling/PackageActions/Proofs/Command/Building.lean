import PackageActions.Command.Run
import PackageActions.Proofs.Argument.Nesting

/-!
# Building from a command line and from a request

A value can be asked for by the words of a command line or by a JSON request. The words stand for JSON
values (`Json.ofWord`), and the request that lists these values as its arguments comes to the same as the
command (`ofJson_request_words`): it builds the same value or fails with the same error. By
`ofJson_fill_all` that also holds of the request inside other values.
-/

namespace PackageActions

/-- The JSON value that a word of a command line stands for: the one that it spells, or else the word. -/
def Json.ofWord (word : String) : Json := (Json.parse? word).getD (.string word)

namespace Argument

theorem ofWord_eq_ofJson (word : String) : ofWord word = ofJson (.ofWord word) := by
  unfold ofWord Json.ofWord
  cases Json.parse? word <;> rfl

theorem mapM_ofWord (words : List String) :
    words.mapM ofWord = ofItems (words.map Json.ofWord) := by
  rw [ofItems_eq_mapM, List.mapM_map]
  exact congrArg (fun f => words.mapM f) (funext ofWord_eq_ofJson)

/-- A request for what a command line asks for. -/
theorem ofJson_request_words (className : String) (words : List String) :
    ofJson (.request className (.array (words.map Json.ofWord))) =
      .object <$> Command.build className words := by
  rw [ofJson_request_args, ofJson_array, ← mapM_ofWord, Command.build]
  simp only [map_bind, bind_map_left]
  rfl

end Argument

namespace Command

open Argument

/-- A command builds a value exactly when the request for the same arguments does, and fails exactly as
that request fails; the request may stand anywhere inside other values that are read. -/
theorem new_agrees_with_request (config : Config) (className : String) (words : List String) :
    let request := Json.request className (.array (words.map Json.ofWord))
    (∀ o, execute config (.new className words) = .ok (.object o) ↔
        ofJson request = .ok (.object o)) ∧
      (∀ e, execute config (.new className words) = .error e ↔
        ∃ cause, e = .action cause ∧ ofJson request = .error cause) ∧
      ((∃ o, execute config (.new className words) = .ok (.object o)) ∨
        ∃ cause, execute config (.new className words) = .error (.action cause)) ∧
      ∀ frames : List Frame, ofJson (frames.foldr Frame.fill request) =
        frames.foldr Frame.resume (.object <$> build className words) := by
  intro request
  have hrequest : ofJson request = .object <$> build className words :=
    ofJson_request_words className words
  have hframes : ∀ frames : List Frame, ofJson (frames.foldr Frame.fill request) =
      frames.foldr Frame.resume (.object <$> build className words) := by
    intro frames
    rw [ofJson_fill_all frames fun s => Json.noConfusion, hrequest]
  cases hbuild : build className words with
  | error cause =>
      have hexecute : execute config (.new className words) = .error (.action cause) := by
        rw [execute, hbuild]
        rfl
      rw [hbuild] at hrequest hframes
      refine ⟨fun o => ?_, fun e => ?_, Or.inr ⟨cause, hexecute⟩, hframes⟩
      · rw [hexecute, hrequest]
        exact iff_of_false (fun h => by cases h) (fun h => by cases h)
      · rw [hexecute, hrequest, Except.error.injEq]
        constructor
        · rintro rfl
          exact ⟨cause, rfl, rfl⟩
        · rintro ⟨cause', rfl, h⟩
          exact congrArg Error.action (Except.error.inj h)
  | ok o =>
      have hexecute : execute config (.new className words) = .ok (.object o) := by
        rw [execute, hbuild]
        rfl
      rw [hbuild] at hrequest hframes
      refine ⟨fun o' => ?_, fun e => ?_, Or.inl ⟨o, hexecute⟩, hframes⟩
      · rw [hexecute, hrequest]
        constructor
        · intro h
          cases h
          rfl
        · intro h
          cases h
          rfl
      · rw [hexecute, hrequest]
        refine iff_of_false (fun h => by cases h) ?_
        rintro ⟨cause, -, h⟩
        cases h

end Command

end PackageActions
