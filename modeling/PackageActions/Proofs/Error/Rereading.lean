import PackageActions.Proofs.Json.Decoding

/-!
# Errors that are written and read back

An error that is written as JSON is read back as itself, save for the kind of an input or output failure:
six kinds keep their identity, and every other kind comes back as `other` (`IoKind.reread`). What a user is
told of an error does not depend on that kind, so it is the same for the error read back, and once read back
an error does not change again (`Error.read_back_once`).
-/

namespace PackageActions

open Decoding Dictionary

/-! ## The kind of a failure -/

/-- The kind that is read back for a kind. -/
def IoKind.reread : IoKind → IoKind
  | .notFound => .notFound
  | .permissionDenied => .permissionDenied
  | .alreadyExists => .alreadyExists
  | .invalidInput => .invalidInput
  | .invalidData => .invalidData
  | .unexpectedEof => .unexpectedEof
  | _ => .other

theorem IoKind.ofWritten_name (kind : IoKind) : ofWritten kind.name = kind.reread := by
  cases kind <;> rfl

theorem IoKind.reread_reread (kind : IoKind) : kind.reread.reread = kind.reread := by
  cases kind <;> rfl

/-! ## Errors of one domain -/

/-- The number of arguments given has 64 bits. -/
def ActionError.CountFits : ActionError → Prop
  | .wrongArity _ given _ => given < UInt64.size
  | _ => True

namespace ActionError

theorem decode_sorted_toJson (e : ActionError) : decode e.toJson.sorted = .ok e := by
  cases e with
  | constructionForbidden c => rfl
  | unknownClass c => rfl
  | typeMismatch context expected found =>
      obtain ⟨m, hm, htexts⟩ := Json.exists_textFields
        [("context", context), ("expected", expected), ("found", found)] (by simp)
      have hcontext : required "context" text m = .ok context := htexts ("context", context) (by simp)
      have hexpected : required "expected" text m = .ok expected :=
        htexts ("expected", expected) (by simp)
      have hfound : required "found" text m = .ok found := htexts ("found", found) (by simp)
      refine (Json.caseOf_ofCase rfl _).trans (Except.bind_ok hm ?_)
      exact Except.bind_ok hcontext (Except.bind_ok hexpected (Except.bind_ok hfound rfl))
  | unrecognizedOption c key =>
      obtain ⟨m, hm, htexts⟩ := Json.exists_textFields [("class", c), ("key", key)] (by simp)
      have hclass : required "class" text m = .ok c := htexts ("class", c) (by simp)
      have hkey : required "key" text m = .ok key := htexts ("key", key) (by simp)
      refine (Json.caseOf_ofCase rfl _).trans (Except.bind_ok hm ?_)
      exact Except.bind_ok hclass (Except.bind_ok hkey rfl)
  | missingField c field =>
      obtain ⟨m, hm, htexts⟩ := Json.exists_textFields [("class", c), ("field", field)] (by simp)
      have hclass : required "class" text m = .ok c := htexts ("class", c) (by simp)
      have hfield : required "field" text m = .ok field := htexts ("field", field) (by simp)
      refine (Json.caseOf_ofCase rfl _).trans (Except.bind_ok hm ?_)
      exact Except.bind_ok hclass (Except.bind_ok hfield rfl)
  | wrongArity c given expected =>
      -- the count is no text, so `exists_textFields` does not apply
      obtain ⟨m, hm, -, hget, hmem⟩ := Json.exists_sorted_object
        [("class", .string c), ("given", .natural given), ("expected", .string expected)] (by simp [keys])
      have hcheck : checkMembers [textField "class", ("given", check count), textField "expected"]
          .ignored m = .ok () := by
        refine checkMembers_eq_ok_iff.2 fun member hmember => ?_
        rcases List.mem_cons.1 (hmem member hmember) with rfl | hmember
        · rfl
        rcases List.mem_pair.1 hmember with rfl | rfl
        · rfl
        · rfl
      have hclass : required "class" text m = .ok c := by
        rw [Json.required_text_eq_ok_iff, hget]
        rfl
      have hgiven : required "given" count m = .ok given := by
        rw [required_eq_ok_iff, hget]
        exact ⟨.natural given, rfl, by simp [count, SelfDescribing.shape, Json.shape, Json.natural]⟩
      have hexpected : required "expected" text m = .ok expected := by
        rw [Json.required_text_eq_ok_iff, hget]
        rfl
      refine (Json.caseOf_ofCase rfl _).trans ?_
      rw [hm]
      refine Except.bind_ok rfl (Except.bind_ok hcheck ?_)
      exact Except.bind_ok hclass (Except.bind_ok hgiven (Except.bind_ok hexpected rfl))

theorem portable_toJson {e : ActionError} (h : e.CountFits) (depth : Nat) :
    e.toJson.Portable (depth + 2) := by
  cases e with
  | wrongArity c given expected =>
      have hgiven : Json.HasWord given := by
        have hlow : Int64.minValue.toInt ≤ 0 := by decide
        exact ⟨Int.le_trans hlow (Int.natCast_nonneg given), Int.ofNat_lt.2 h⟩
      simp [toJson, Json.ofCase, Json.natural, Json.Portable, Json.PortableMembers, hgiven]
  | _ => simp [toJson, Json.ofCase, Json.Portable, Json.PortableMembers]

end ActionError

theorem ConfigError.decode_sorted_toJson (e : ConfigError) : decode e.toJson.sorted = .ok e := by
  cases e with
  | notFound path => rfl
  | invalid message => rfl
  | unreadable message => rfl
  | invalidValue field value =>
      obtain ⟨m, hm, htexts⟩ := Json.exists_textFields [("field", field), ("value", value)] (by simp)
      have hfield : required "field" text m = .ok field := htexts ("field", field) (by simp)
      have hvalue : required "value" text m = .ok value := htexts ("value", value) (by simp)
      refine (Json.caseOf_ofCase rfl _).trans (Except.bind_ok hm ?_)
      exact Except.bind_ok hfield (Except.bind_ok hvalue rfl)

theorem RepositoryError.decode_sorted_toJson (e : RepositoryError) : decode e.toJson.sorted = .ok e := by
  cases e with
  | notFound name => rfl

/-! ## Any error -/

namespace Error

/-- The number of arguments that the error tells of, if it does, has 64 bits. -/
def CountFits : Error → Prop
  | .action e => e.CountFits
  | _ => True

/-- The error that is read back for an error. -/
def reread : Error → Error
  | .io failure => .io ⟨failure.kind.reread, failure.message⟩
  | e => e

theorem decode_sorted_toJson (e : Error) : decode e.toJson.sorted = .ok e.reread := by
  cases e with
  | action e =>
      refine (Json.caseOf_ofCase rfl _).trans ?_
      rw [valueOfCase, e.decode_sorted_toJson]
      rfl
  | config e =>
      refine (Json.caseOf_ofCase rfl _).trans ?_
      rw [valueOfCase, e.decode_sorted_toJson]
      rfl
  | repository e =>
      refine (Json.caseOf_ofCase rfl _).trans ?_
      rw [valueOfCase, e.decode_sorted_toJson]
      rfl
  | io failure =>
      obtain ⟨m, hm, htexts⟩ := Json.exists_textFields
        [("kind", failure.kind.name), ("message", failure.message)] (by simp)
      have hkind : required "kind" Decoding.text m = .ok failure.kind.name :=
        htexts ("kind", failure.kind.name) (by simp)
      have hmessage : required "message" Decoding.text m = .ok failure.message :=
        htexts ("message", failure.message) (by simp)
      refine (Json.caseOf_ofCase rfl _).trans (Except.bind_ok hm ?_)
      refine Except.bind_ok hkind (Except.bind_ok hmessage ?_)
      rw [IoKind.ofWritten_name]
      rfl

theorem portable_toJson {e : Error} (h : e.CountFits) (depth : Nat) : e.toJson.Portable (depth + 3) := by
  cases e with
  | action e =>
      have hcase : e.toJson.Portable (depth + 2) := ActionError.portable_toJson h depth
      simpa [toJson, Json.ofCase, Json.Portable, Json.PortableMembers] using hcase
  | config e =>
      cases e <;> simp [toJson, ConfigError.toJson, Json.ofCase, Json.Portable, Json.PortableMembers]
  | repository e =>
      cases e
      simp [toJson, RepositoryError.toJson, Json.ofCase, Json.Portable, Json.PortableMembers]
  | io failure => simp [toJson, IoFailure.toJson, Json.ofCase, Json.Portable, Json.PortableMembers]

theorem reread_reread (e : Error) : e.reread.reread = e.reread := by
  cases e with
  | io failure => rw [reread, reread, failure.kind.reread_reread]
  | _ => rfl

theorem countFits_reread {e : Error} (h : e.CountFits) : e.reread.CountFits := by
  cases e with
  | action e => exact h
  | _ => trivial

/-- Two errors of which a user and a caller are told the same. -/
structure ToldAlike (e e' : Error) : Prop where
  text : e.text = e'.text
  message : e.message = e'.message
  code : e.code = e'.code
  hint? : e.hint? = e'.hint?
  isRetryable : e.isRetryable = e'.isRetryable
  actionKind? : e.actionKind? = e'.actionKind?

theorem toldAlike_reread (e : Error) : ToldAlike e.reread e := by
  cases e <;> constructor <;> rfl

/-- An error can be written and read back. It comes back with at most the kind of a failure changed, which
nobody is told of, and when it is written and read once more nothing changes. -/
theorem read_back_once (e : Error) (h : e.CountFits) :
    Json.Rereads decode e.toJson e.reread ∧ Json.Rereads decode e.reread.toJson e.reread ∧
      e.reread.reread = e.reread ∧ ToldAlike e.reread e := by
  have hagain : decode e.reread.toJson.sorted = .ok e.reread := by
    rw [decode_sorted_toJson, reread_reread]
  refine ⟨?_, ?_, reread_reread e, toldAlike_reread e⟩
  · exact Json.rereads_of_portable (portable_toJson h 124) (decode_sorted_toJson e)
  · exact Json.rereads_of_portable (portable_toJson (countFits_reread h) 124) hagain

theorem read_back_once_large_count :
    let e := Error.action (.wrongArity "Info\"\nAction\x07" 9223372036854775808 "0")
    e.CountFits ∧ Json.Rereads decode e.toJson e := by
  intro e
  have hfits : e.CountFits := by
    show 9223372036854775808 < UInt64.size
    decide
  exact ⟨hfits, (read_back_once e hfits).1⟩

end Error

end PackageActions
