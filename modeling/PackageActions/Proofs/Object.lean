import Mathlib.Logic.Function.Basic
import PackageActions.Object
import PackageActions.Proofs.Action.Records

/-!
# Built values that are written and read back

Nothing is lost when a built value is written as JSON. Its tag names its family, families have different
names, and the family reads the content back as that very value (`Object.Recoverable`). So different values
are written differently (`json_loses_nothing`), although the three kinds of action share one tag and the
three kinds of probe another: the content tells them apart. A failed fetch comes back with all its records
in their order.
-/

namespace PackageActions

open Decoding Dictionary

/-! ## Records -/

theorem FetchOptions.decode_sorted_toJson (surplus : Surplus) (o : FetchOptions) :
    decode surplus o.toJson.sorted = .ok o := by
  obtain ⟨m, hm, hs, hget, -⟩ := Json.exists_sorted_object
    [("safe_resume", .bool o.safeResume), ("fetch_unneeded", .bool o.fetchUnneeded)]
    (by simp [Dictionary.keys])
  rw [toJson, hm, decode_object_eq_ok_iff surplus hs]
  refine ⟨fun key hkey => (mem_keys_iff_of_get? hget key).1 hkey, ?_, ?_⟩
  · rw [hget]
    rfl
  · rw [hget]
    rfl

theorem FetchFailure.decode_sorted_toJson (f : FetchFailure) : decode f.toJson.sorted = .ok f := by
  obtain ⟨m, hm, hs, hget, -⟩ := Json.exists_sorted_object
    [("target_file", .string f.targetFile), ("requires_manual_fetching", .bool f.requiresManualFetching),
      ("failed_automatic_fetching", .bool f.failedAutomaticFetching),
      ("failed_integrity_checks", .string f.failedIntegrityChecks)] (by simp [Dictionary.keys])
  rw [toJson, hm, decode_object_eq_ok_iff hs]
  refine ⟨fun key hkey => (mem_keys_iff_of_get? hget key).1 hkey, ?_, ?_, ?_, ?_⟩
  · rw [hget]
    rfl
  · rw [hget]
    rfl
  · rw [hget]
    rfl
  · rw [hget]
    rfl

theorem FetchFailure.portable_toJson (f : FetchFailure) (depth : Nat) : f.toJson.Portable (depth + 1) := by
  simp [toJson, Json.Portable, Json.PortableMembers]

/-! ## A whole fetch -/

namespace FetchError

/-- The records of the files come back in their order. -/
theorem decode_sorted_failures (failures : List FetchFailure) :
    list FetchFailure.decode (Json.array (failures.map FetchFailure.toJson)).sorted = .ok failures := by
  have hitems : (Json.array (failures.map FetchFailure.toJson)).sorted =
      .array (failures.map fun f => f.toJson.sorted) := by
    rw [Json.sorted, Json.sortedItems_eq_map, List.map_map]
    rfl
  rw [hitems]
  refine Except.mapM_eq_ok_iff.2 (List.forall₂_map_left_iff.2 (List.forall₂_same.2 fun f _ => ?_))
  exact f.decode_sorted_toJson

theorem decode_sorted_toJson (e : FetchError) : decode e.toJson.sorted = .ok e := by
  obtain ⟨m, hm, -, hget, hmem⟩ := Json.exists_sorted_object
    [("message", .string e.message), ("failures", .array (e.failures.map FetchFailure.toJson))]
    (by simp [keys])
  have hcheck : checkMembers [("message", check Decoding.text), ("failures", check (list FetchFailure.decode))]
      .ignored m = .ok () := by
    -- whatever is read was written, so each member passes the check of its own field
    refine checkMembers_eq_ok_iff.2 fun member hmember => ?_
    rcases List.mem_pair.1 (hmem member hmember) with rfl | rfl
    · rfl
    · exact within_eq_ok_iff.2 (check_eq_ok_iff.2 ⟨_, decode_sorted_failures e.failures⟩)
  have hmessage : required "message" Decoding.text m = .ok e.message := by
    rw [Json.required_text_eq_ok_iff, hget]
    rfl
  have hfailures : required "failures" (list FetchFailure.decode) m = .ok e.failures := by
    rw [required_eq_ok_iff, hget]
    exact ⟨_, rfl, decode_sorted_failures e.failures⟩
  rw [toJson, hm]
  exact Except.bind_ok hcheck (Except.bind_ok hmessage (Except.bind_ok hfailures rfl))

theorem portable_toJson (e : FetchError) : e.toJson.Portable Json.maxDepth := by
  have hfailures : Json.PortableItems (e.failures.map FetchFailure.toJson) (Json.maxDepth - 2) := by
    refine Json.portableItems_iff.2 fun item hitem => ?_
    obtain ⟨f, -, rfl⟩ := List.mem_map.1 hitem
    exact f.portable_toJson 124
  simpa [toJson, Json.Portable, Json.PortableMembers, Json.maxDepth] using hfailures

end FetchError

/-! ## Actions and probes -/

theorem Action.decode_sorted_toJson (a : Action) : decode a.toJson.sorted = .ok a := by
  cases a with
  | fetch o =>
      obtain ⟨m, hm, -, hget, -⟩ := Json.exists_sorted_object
        [("action", ActionKind.fetch.toJson), ("options", o.toJson)] (by simp [keys])
      have hkind : required "action" tagOf m = .ok .fetch := by
        rw [required_eq_ok_iff, hget]
        exact ⟨_, rfl, rfl⟩
      have hoptions : required "options" (FetchOptions.decode .setAside) m = .ok o := by
        rw [required_eq_ok_iff, hget]
        exact ⟨_, rfl, o.decode_sorted_toJson .setAside⟩
      rw [toJson, kind, elim, hm]
      exact Except.bind_ok hkind (Except.bind_ok hoptions rfl)
  | info => rfl
  | config => rfl

theorem AnyProbe.decode_sorted_toJson (p : AnyProbe) : decode p.toJson.sorted = .ok p := by
  cases p <;> rfl

/-! ## Any value -/

namespace Family

def all : List Family := [.action, .options, .failure, .probe]

/-- The family that a tag names. -/
def decode (v : Json) : Except DecodeError Family :=
  oneOf (all.map fun family => (family.name, family)) v

theorem decode_name (family : Family) : decode (.string family.name) = .ok family := by
  cases family <;> rfl

theorem name_injective : Function.Injective name := by
  intro family other h
  have hdecode := decode_name family
  rw [h, decode_name other] at hdecode
  exact (Except.ok.inj hdecode).symm

end Family

namespace Object

/-- The value that a tagged value tells of: the tag says how the content is read. -/
def recover : Json → Except DecodeError Object
  | .object members => do
    let family ← required "class" Family.decode members
    required "value" (decodeContent family) members
  | other => mismatch other.shape "tagged value"

theorem decodeContent_sorted_content (o : Object) : decodeContent o.family o.content.sorted = .ok o := by
  cases o with
  | action a => exact Except.map_eq_ok_iff.2 ⟨a, a.decode_sorted_toJson, rfl⟩
  | options o => exact Except.map_eq_ok_iff.2 ⟨o, o.decode_sorted_toJson .direct, rfl⟩
  | failure f => exact Except.map_eq_ok_iff.2 ⟨f, f.decode_sorted_toJson, rfl⟩
  | probe p => exact Except.map_eq_ok_iff.2 ⟨p, p.decode_sorted_toJson, rfl⟩

theorem portable_content (o : Object) (depth : Nat) : o.content.Portable (depth + 2) := by
  cases o with
  | action a =>
      cases a <;> simp [content, Action.toJson, Action.elim, FetchOptions.toJson, ActionKind.toJson,
        Json.Portable, Json.PortableMembers]
  | options o => simp [content, FetchOptions.toJson, Json.Portable, Json.PortableMembers]
  | failure f => exact f.portable_toJson (depth + 1)
  | probe p => simp [content, AnyProbe.toJson, ActionKind.toJson, Json.Portable]

/-- What is written for a value is an object of a tag, the name of the family, and a content that the
family reads as the value; so the value can be told from the object alone. -/
structure Recoverable (o : Object) : Prop where
  members : ∃ m, o.toJson.sorted = .object m ∧ (∀ key, key ∈ keys m ↔ key = "class" ∨ key = "value") ∧
    get? m "class" = some (.string o.family.name) ∧ get? m "value" = some o.content.sorted
  content : Json.Rereads (decodeContent o.family) o.content o
  whole : Json.Rereads recover o.toJson o

theorem recoverable (o : Object) : o.Recoverable := by
  obtain ⟨m, hm, -, hget, -⟩ := Json.exists_sorted_object
    [("class", .string o.family.name), ("value", o.content)] (by simp [keys])
  have htag : get? m "class" = some (.string o.family.name) := by
    rw [hget]
    rfl
  have hvalue : get? m "value" = some o.content.sorted := by
    rw [hget]
    rfl
  have hwhole : recover o.toJson.sorted = .ok o := by
    have hfamily : required "class" Family.decode m = .ok o.family :=
      required_eq_ok_iff.2 ⟨_, htag, Family.decode_name o.family⟩
    rw [toJson, hm]
    exact Except.bind_ok hfamily
      (required_eq_ok_iff.2 ⟨_, hvalue, decodeContent_sorted_content o⟩)
  have hportable : o.toJson.Portable Json.maxDepth := by
    have hcontent : o.content.Portable (Json.maxDepth - 1) := portable_content o 124
    simpa [toJson, Json.Portable, Json.PortableMembers, Json.maxDepth] using hcontent
  refine ⟨⟨m, hm, fun key => ?_, htag, hvalue⟩, ?_, ?_⟩
  · rw [mem_keys_iff_of_get? hget]
    simp [keys]
  · exact Json.rereads_of_portable (portable_content o 125) (decodeContent_sorted_content o)
  · exact Json.rereads_of_portable hportable hwhole

/-- Only the tag of a record is the name of its class. -/
theorem family_name_eq_classOf_name_iff (o : Object) :
    o.family.name = o.classOf.name ↔ o.family = .options ∨ o.family = .failure := by
  cases o with
  | action a =>
      cases a <;> simp [family, Family.name, classOf, Action.kind, Class.ofAction, Class.name,
        ActionKind.className]
  | options o => exact iff_of_true rfl (Or.inl rfl)
  | failure f => exact iff_of_true rfl (Or.inr rfl)
  | probe p =>
      cases p <;> simp [family, Family.name, classOf, AnyProbe.kind, Probe.kind, Class.ofProbe, Class.name]

end Object

/-- Every built value can be told from what is written for it, so no two are written alike, also where the
tag does not name the class. A failed fetch is read back as it was. -/
theorem json_loses_nothing :
    Function.Injective Family.name ∧
      (∀ o : Object, o.Recoverable ∧
        (o.family.name = o.classOf.name ↔ o.family = .options ∨ o.family = .failure)) ∧
      (Function.Injective fun o : Object => o.toJson.sorted) ∧
      (Function.Injective fun o : Object => o.toJson.compact) ∧
      (Function.Injective fun o : Object => o.toJson.pretty) ∧
      ∀ e : FetchError, Json.Rereads FetchError.decode e.toJson e := by
  refine ⟨Family.name_injective, fun o => ⟨o.recoverable, o.family_name_eq_classOf_name_iff⟩, ?_, ?_, ?_,
    fun e => Json.rereads_of_portable e.portable_toJson e.decode_sorted_toJson⟩
  · exact fun o o' h => o.recoverable.whole.eq_of_sorted_eq o'.recoverable.whole h
  · exact fun o o' h => o.recoverable.whole.eq_of_compact_eq o'.recoverable.whole h
  · exact fun o o' h => o.recoverable.whole.eq_of_pretty_eq o'.recoverable.whole h

end PackageActions
