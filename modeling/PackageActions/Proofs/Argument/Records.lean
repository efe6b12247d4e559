import Mathlib.Tactic.MkIffOfInductiveProp
import PackageActions.Argument.Construct
import PackageActions.Proofs.Dictionary

/-!
# Records from arguments

A record is given by a dictionary when the dictionary has no keys but the names of fields and holds the
fields under them (`FetchOptions.GivenBy`, `FetchFailure.GivenBy`). These descriptions do not say what the
values of the dictionary are, so they serve for named arguments and for members of JSON objects alike. The
named form reads exactly the record that the mapping gives (`FetchOptions.ofMapping_eq_ok_iff`,
`FetchFailure.ofMapping_eq_ok_iff`).

The named form and the positional form of a record come to the same (`construct_named_eq_positional`): the
same fields are read in the same order and for the same places, so the first that is wrong is the same in
both, and is reported in the same words.
-/

namespace PackageActions

open Dictionary

/-! ## One argument -/

namespace Argument

variable {place : String} {a : Argument}

theorem asBool_eq_ok_iff {b : Bool} : a.asBool place = .ok b ↔ a = .bool b := by
  cases a <;> simp [asBool]

theorem asText_eq_ok_iff {s : String} : a.asText place = .ok s ↔ a = .text s := by
  cases a <;> simp [asText]

theorem asBool_eq_error_iff {e : ActionError} :
    a.asBool place = .error e ↔ (∀ b, a ≠ .bool b) ∧ e = a.mismatch place "Bool" := by
  cases a <;> simp [asBool, eq_comm]

theorem asText_eq_error_iff {e : ActionError} :
    a.asText place = .error e ↔ (∀ s, a ≠ .text s) ∧ e = a.mismatch place "String" := by
  cases a <;> simp [asText, eq_comm]

end Argument

/-! ## One named argument -/

namespace Mapping

variable {className key : String} {m : Mapping}

theorem allowOnly_eq_ok_iff {allowed : List String} :
    m.allowOnly className allowed = .ok () ↔ ∀ key ∈ keys m, key ∈ allowed := by
  have hfind : ((keys m).find? fun key => !allowed.contains key) = none ↔
      ∀ key ∈ keys m, key ∈ allowed := by
    simp [List.find?_eq_none]
  unfold allowOnly
  split
  · rename_i foreign hforeign
    refine iff_of_false (fun h => by cases h) fun h => ?_
    rw [hfind.2 h] at hforeign
    cases hforeign
  · rename_i hnone
    exact iff_of_true rfl (hfind.1 hnone)

/-- A flag that is missing is read as one that is given and off. -/
theorem optionalFlag_eq_asBool (m : Mapping) : m.optionalFlag className key =
    ((get? m key).getD (.bool false)).asBool (fieldPlace className key) := by
  unfold optionalFlag
  cases get? m key <;> rfl

theorem flag_of_get? {a : Argument} (h : get? m key = some a) :
    m.flag className key = a.asBool (fieldPlace className key) := by
  rw [flag, required, h]
  rfl

theorem text_of_get? {a : Argument} (h : get? m key = some a) :
    m.text className key = a.asText (fieldPlace className key) := by
  rw [text, required, h]
  rfl

theorem flag_eq_ok_iff {b : Bool} :
    m.flag className key = .ok b ↔ get? m key = some (.bool b) := by
  cases hget : get? m key with
  | none => simp [flag, required, hget, bind, Except.bind]
  | some a => rw [flag_of_get? hget, Argument.asBool_eq_ok_iff, Option.some.injEq]

theorem text_eq_ok_iff {s : String} :
    m.text className key = .ok s ↔ get? m key = some (.text s) := by
  cases hget : get? m key with
  | none => simp [text, required, hget, bind, Except.bind]
  | some a => rw [text_of_get? hget, Argument.asText_eq_ok_iff, Option.some.injEq]

end Mapping

/-! ## Options of a fetch -/

namespace FetchOptions

/-- A dictionary gives the options: it has no other keys than theirs, and what it has under them are the
flags. A flag that is missing is off. -/
@[mk_iff]
structure GivenBy {α : Type} (flag : Bool → α) (d : Dictionary α) (o : FetchOptions) : Prop where
  known : ∀ key ∈ Dictionary.keys d, key ∈ FetchOptions.keys
  safeResume : (get? d "safe_resume").getD (flag false) = flag o.safeResume
  fetchUnneeded : (get? d "fetch_unneeded").getD (flag false) = flag o.fetchUnneeded

theorem GivenBy.mem_keys {α : Type} {flag : Bool → α} {d : Dictionary α} {o : FetchOptions}
    (h : o.GivenBy flag d) {key : String} {v : α} (hv : get? d key = some v) :
    key ∈ FetchOptions.keys :=
  h.known key (mem_keys_iff_exists.2 ⟨v, hv⟩)

theorem GivenBy.exists_eq_flag {α : Type} {flag : Bool → α} {d : Dictionary α} {o : FetchOptions}
    (h : o.GivenBy flag d) {key : String} {v : α} (hv : get? d key = some v) : ∃ b, v = flag b := by
  rcases List.mem_pair.1 (h.mem_keys hv) with rfl | rfl
  · exact ⟨_, by simpa [hv] using h.safeResume⟩
  · exact ⟨_, by simpa [hv] using h.fetchUnneeded⟩

/-- Whatever flags are made of, options are given by a dictionary of flags under their keys. -/
theorem exists_givenBy_flag_iff {α : Type} {flag : Bool → α} {d : Dictionary α} :
    (∃ o : FetchOptions, o.GivenBy flag d) ↔
      (∀ key ∈ Dictionary.keys d, key ∈ FetchOptions.keys) ∧
        ∀ key v, get? d key = some v → ∃ b, v = flag b := by
  constructor
  · rintro ⟨o, h⟩
    exact ⟨h.known, fun key v hv => h.exists_eq_flag hv⟩
  · rintro ⟨hknown, hflags⟩
    have hflag : ∀ key, ∃ b, (get? d key).getD (flag false) = flag b := by
      intro key
      cases hget : get? d key with
      | none => exact ⟨false, rfl⟩
      | some v => exact hflags key v hget
    obtain ⟨safeResume, hsafe⟩ := hflag "safe_resume"
    obtain ⟨fetchUnneeded, hfetch⟩ := hflag "fetch_unneeded"
    exact ⟨⟨safeResume, fetchUnneeded⟩, hknown, hsafe, hfetch⟩

theorem ofMapping_eq_ok_iff {m : Mapping} {o : FetchOptions} :
    ofMapping m = .ok o ↔ GivenBy .bool m o := by
  unfold ofMapping
  simp only [Mapping.optionalFlag_eq_asBool, Except.bind_eq_ok_iff, Argument.asBool_eq_ok_iff]
  constructor
  · rintro ⟨_, hknown, safeResume, hsafe, fetchUnneeded, hfetch, h⟩
    obtain rfl := Except.ok.inj h
    exact ⟨Mapping.allowOnly_eq_ok_iff.1 hknown, hsafe, hfetch⟩
  · rintro ⟨hknown, hsafe, hfetch⟩
    exact ⟨(), Mapping.allowOnly_eq_ok_iff.2 hknown, _, hsafe, _, hfetch, rfl⟩

theorem ofArguments_pair (a b : Argument) : ofArguments [a, b] = (do
    let safeResume ← a.asBool (fieldPlace className "safe_resume")
    let fetchUnneeded ← b.asBool (fieldPlace className "fetch_unneeded")
    pure ⟨safeResume, fetchUnneeded⟩) := by
  cases a <;> rfl

theorem ofArguments_pair_eq_ok_iff {a b : Argument} {o : FetchOptions} :
    ofArguments [a, b] = .ok o ↔ a = .bool o.safeResume ∧ b = .bool o.fetchUnneeded := by
  rw [ofArguments_pair]
  simp only [Except.bind_eq_ok_iff, Argument.asBool_eq_ok_iff]
  constructor
  · rintro ⟨safeResume, ha, fetchUnneeded, hb, h⟩
    obtain rfl := Except.ok.inj h
    exact ⟨ha, hb⟩
  · rintro ⟨ha, hb⟩
    exact ⟨_, ha, _, hb, rfl⟩

theorem ofMapping_eq_ofArguments {m : Mapping}
    (hknown : ∀ key ∈ Dictionary.keys m, key ∈ FetchOptions.keys) :
    ofMapping m = ofArguments [(get? m "safe_resume").getD (.bool false),
      (get? m "fetch_unneeded").getD (.bool false)] := by
  rw [ofMapping, Mapping.allowOnly_eq_ok_iff.2 hknown, Mapping.optionalFlag_eq_asBool,
    Mapping.optionalFlag_eq_asBool, ofArguments_pair]
  rfl

end FetchOptions

/-! ## Records of failed files -/

namespace FetchFailure

/-- A dictionary gives the record: it has no other keys than those of the fields, and each field stands
under its key. -/
@[mk_iff]
structure GivenBy {α : Type} (flag : Bool → α) (text : String → α) (d : Dictionary α)
    (f : FetchFailure) : Prop where
  known : ∀ key ∈ Dictionary.keys d, key ∈ FetchFailure.keys
  targetFile : get? d "target_file" = some (text f.targetFile)
  requiresManualFetching : get? d "requires_manual_fetching" = some (flag f.requiresManualFetching)
  failedAutomaticFetching : get? d "failed_automatic_fetching" = some (flag f.failedAutomaticFetching)
  failedIntegrityChecks : get? d "failed_integrity_checks" = some (text f.failedIntegrityChecks)

theorem mem_keys_iff {key : String} : key ∈ FetchFailure.keys ↔ key = "target_file" ∨
    key = "requires_manual_fetching" ∨ key = "failed_automatic_fetching" ∨
    key = "failed_integrity_checks" := by
  simp [FetchFailure.keys]

theorem GivenBy.mem_keys {α : Type} {flag : Bool → α} {text : String → α} {d : Dictionary α}
    {f : FetchFailure} (h : f.GivenBy flag text d) {key : String} {v : α} (hv : get? d key = some v) :
    key ∈ FetchFailure.keys :=
  h.known key (mem_keys_iff_exists.2 ⟨v, hv⟩)

theorem GivenBy.eq_field {α : Type} {flag : Bool → α} {text : String → α} {d : Dictionary α}
    {f : FetchFailure} (h : f.GivenBy flag text d) {key : String} {v : α} (hv : get? d key = some v) :
    (∃ b, v = flag b) ∨ ∃ s, v = text s := by
  rcases mem_keys_iff.1 (h.mem_keys hv) with rfl | rfl | rfl | rfl
  · exact Or.inr ⟨_, Option.some.inj (hv.symm.trans h.targetFile)⟩
  · exact Or.inl ⟨_, Option.some.inj (hv.symm.trans h.requiresManualFetching)⟩
  · exact Or.inl ⟨_, Option.some.inj (hv.symm.trans h.failedAutomaticFetching)⟩
  · exact Or.inr ⟨_, Option.some.inj (hv.symm.trans h.failedIntegrityChecks)⟩

theorem ofMapping_eq_ok_iff {m : Mapping} {f : FetchFailure} :
    ofMapping m = .ok f ↔ GivenBy .bool .text m f := by
  unfold ofMapping
  simp only [Except.bind_eq_ok_iff, Mapping.text_eq_ok_iff, Mapping.flag_eq_ok_iff]
  constructor
  · rintro ⟨_, hknown, targetFile, htarget, manual, hmanual, automatic, hautomatic, checks, hchecks, h⟩
    obtain rfl := Except.ok.inj h
    exact ⟨Mapping.allowOnly_eq_ok_iff.1 hknown, htarget, hmanual, hautomatic, hchecks⟩
  · rintro ⟨hknown, htarget, hmanual, hautomatic, hchecks⟩
    exact ⟨(), Mapping.allowOnly_eq_ok_iff.2 hknown, _, htarget, _, hmanual, _, hautomatic, _, hchecks,
      rfl⟩

theorem ofArguments_four (a b c d : Argument) : ofArguments [a, b, c, d] = (do
    let targetFile ← a.asText (fieldPlace className "target_file")
    let requiresManualFetching ← b.asBool (fieldPlace className "requires_manual_fetching")
    let failedAutomaticFetching ← c.asBool (fieldPlace className "failed_automatic_fetching")
    let failedIntegrityChecks ← d.asText (fieldPlace className "failed_integrity_checks")
    pure ⟨targetFile, requiresManualFetching, failedAutomaticFetching, failedIntegrityChecks⟩) := by
  cases a <;> rfl

theorem ofArguments_four_eq_ok_iff {a b c d : Argument} {f : FetchFailure} :
    ofArguments [a, b, c, d] = .ok f ↔ a = .text f.targetFile ∧ b = .bool f.requiresManualFetching ∧
      c = .bool f.failedAutomaticFetching ∧ d = .text f.failedIntegrityChecks := by
  rw [ofArguments_four]
  simp only [Except.bind_eq_ok_iff, Argument.asBool_eq_ok_iff, Argument.asText_eq_ok_iff]
  constructor
  · rintro ⟨targetFile, ha, manual, hb, automatic, hc, checks, hd, h⟩
    obtain rfl := Except.ok.inj h
    exact ⟨ha, hb, hc, hd⟩
  · rintro ⟨ha, hb, hc, hd⟩
    exact ⟨_, ha, _, hb, _, hc, _, hd, rfl⟩

theorem ofMapping_eq_ofArguments {m : Mapping} {a b c d : Argument}
    (hknown : ∀ key ∈ Dictionary.keys m, key ∈ FetchFailure.keys)
    (ha : get? m "target_file" = some a) (hb : get? m "requires_manual_fetching" = some b)
    (hc : get? m "failed_automatic_fetching" = some c)
    (hd : get? m "failed_integrity_checks" = some d) :
    ofMapping m = ofArguments [a, b, c, d] := by
  rw [ofMapping, Mapping.allowOnly_eq_ok_iff.2 hknown, Mapping.text_of_get? ha, Mapping.flag_of_get? hb,
    Mapping.flag_of_get? hc, Mapping.text_of_get? hd, ofArguments_four]
  rfl

end FetchFailure

/-! ## Failures of reading -/

/-- Whatever goes wrong is reported as an argument of the wrong type for a place. -/
def OnlyMismatches {α : Type} (r : Except ActionError α) : Prop :=
  ∀ e, r = .error e → ∃ place expected found, e = .typeMismatch place expected found

namespace OnlyMismatches

variable {α β : Type}

theorem asBool (place : String) (a : Argument) : OnlyMismatches (a.asBool place) := by
  intro e h
  exact ⟨place, "Bool", a.typeName, (Argument.asBool_eq_error_iff.1 h).2⟩

theorem asText (place : String) (a : Argument) : OnlyMismatches (a.asText place) := by
  intro e h
  exact ⟨place, "String", a.typeName, (Argument.asText_eq_error_iff.1 h).2⟩

theorem pure (a : α) : OnlyMismatches (Pure.pure a : Except ActionError α) := Except.FailsOnly.pure a

theorem bind {x : Except ActionError α} {f : α → Except ActionError β} (hx : OnlyMismatches x)
    (hf : ∀ a, OnlyMismatches (f a)) : OnlyMismatches (x >>= f) :=
  Except.FailsOnly.bind hx fun a _ => hf a

theorem map {x : Except ActionError α} (hx : OnlyMismatches x) (f : α → β) :
    OnlyMismatches (f <$> x) :=
  Except.FailsOnly.map hx f

end OnlyMismatches

theorem FetchOptions.onlyMismatches_pair (a b : Argument) :
    OnlyMismatches (FetchOptions.ofArguments [a, b]) := by
  rw [ofArguments_pair]
  exact (OnlyMismatches.asBool _ a).bind fun _ => (OnlyMismatches.asBool _ b).bind fun _ =>
    OnlyMismatches.pure _

theorem FetchFailure.onlyMismatches_four (a b c d : Argument) :
    OnlyMismatches (FetchFailure.ofArguments [a, b, c, d]) := by
  rw [ofArguments_four]
  exact (OnlyMismatches.asText _ a).bind fun _ => (OnlyMismatches.asBool _ b).bind fun _ =>
    (OnlyMismatches.asBool _ c).bind fun _ => (OnlyMismatches.asText _ d).bind fun _ =>
      OnlyMismatches.pure _

/-! ## The two forms -/

/-- A record built from one mapping is the record built from the values of the mapping in the order of the
fields, where a flag that is missing from options of a fetch stands as off; and where the one is refused,
the other is refused with the same error. -/
theorem construct_named_eq_positional (m : Mapping) :
    ((∀ key ∈ keys m, key ∈ FetchOptions.keys) →
      construct .fetchOptions [.mapping m] =
          construct .fetchOptions [(get? m "safe_resume").getD (.bool false),
            (get? m "fetch_unneeded").getD (.bool false)] ∧
        OnlyMismatches (construct .fetchOptions [.mapping m])) ∧
      ((∀ key, key ∈ keys m ↔ key ∈ FetchFailure.keys) →
        ∃ a b c d, get? m "target_file" = some a ∧ get? m "requires_manual_fetching" = some b ∧
          get? m "failed_automatic_fetching" = some c ∧ get? m "failed_integrity_checks" = some d ∧
          construct .fetchFailure [.mapping m] = construct .fetchFailure [a, b, c, d] ∧
          OnlyMismatches (construct .fetchFailure [.mapping m])) := by
  constructor
  · intro hknown
    have hforms : construct .fetchOptions [.mapping m] =
        construct .fetchOptions [(get? m "safe_resume").getD (.bool false),
          (get? m "fetch_unneeded").getD (.bool false)] :=
      congrArg (Object.options <$> ·) (FetchOptions.ofMapping_eq_ofArguments hknown)
    refine ⟨hforms, ?_⟩
    rw [hforms]
    exact (FetchOptions.onlyMismatches_pair _ _).map _
  · intro hkeys
    have hgiven : ∀ key ∈ FetchFailure.keys, ∃ a, get? m key = some a := by
      intro key hkey
      exact mem_keys_iff_exists.1 ((hkeys key).2 hkey)
    obtain ⟨a, ha⟩ := hgiven "target_file" (by decide)
    obtain ⟨b, hb⟩ := hgiven "requires_manual_fetching" (by decide)
    obtain ⟨c, hc⟩ := hgiven "failed_automatic_fetching" (by decide)
    obtain ⟨d, hd⟩ := hgiven "failed_integrity_checks" (by decide)
    have hforms : construct .fetchFailure [.mapping m] = construct .fetchFailure [a, b, c, d] :=
      congrArg (Object.failure <$> ·)
        (FetchFailure.ofMapping_eq_ofArguments (fun key hkey => (hkeys key).1 hkey) ha hb hc hd)
    refine ⟨a, b, c, d, ha, hb, hc, hd, hforms, ?_⟩
    rw [hforms]
    exact (FetchFailure.onlyMismatches_four a b c d).map _

/-- Of two wrong values the first in the order of the fields is reported, not the first in key order. -/
theorem construct_named_eq_positional_two_wrong :
    let m : Mapping := [("fetch_unneeded", .text "no"), ("safe_resume", .list [])]
    (∀ key ∈ keys m, key ∈ FetchOptions.keys) ∧
      construct .fetchOptions [.mapping m] = construct .fetchOptions [.list [], .text "no"] ∧
      construct .fetchOptions [.mapping m] =
        .error (.typeMismatch "FetchActionOptions.safe_resume" "Bool" "List") := by
  intro m
  have hknown : ∀ key ∈ keys m, key ∈ FetchOptions.keys := by decide
  exact ⟨hknown, ((construct_named_eq_positional m).1 hknown).1, rfl⟩

end PackageActions
