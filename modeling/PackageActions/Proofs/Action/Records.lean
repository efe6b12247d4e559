import PackageActions.Proofs.Argument.Checks
import PackageActions.Proofs.Argument.Construct
import PackageActions.Proofs.Json.Decoding

/-!
# Records as JSON

The two records can be read from JSON in two ways: by decoding the value, or by turning it into an argument
first and reading that. Both come to what `GivenBy` says of the members of an object
(`FetchOptions.decode_object_eq_ok_iff`, `FetchFailure.decode_object_eq_ok_iff`), since flags and texts
become arguments as they stand and a request becomes something else. Writing a record gives back the object
that it was read from, apart from flags that were left out.
-/

namespace PackageActions

open Decoding Dictionary

/-! ## Decoding an object -/

namespace FetchOptions

variable {members : List (String × Json)} {o : FetchOptions}

theorem checkMembers_of_givenBy (hs : Sorted members) (h : o.GivenBy Json.bool members) :
    checkMembers (FetchOptions.keys.map fun key => (key, check boolean)) .refused members = .ok () := by
  refine (checkMembers_refused_eq_ok_iff hs).2 fun key v hv => ?_
  have hflag : check boolean v = .ok () := Json.check_boolean_eq_ok_iff.2 (h.exists_eq_flag hv)
  rcases List.mem_pair.1 (h.mem_keys hv) with rfl | rfl
  · exact ⟨check boolean, rfl, hflag⟩
  · exact ⟨check boolean, rfl, hflag⟩

theorem decode_object_eq_ok_iff (surplus : Surplus) (hs : Sorted members) :
    decode surplus (.object members) = .ok o ↔ o.GivenBy Json.bool members := by
  rw [show decode surplus (.object members) = ofMembers members from rfl, ofMembers]
  simp only [Except.bind_eq_ok_iff, Json.optional_boolean_eq_ok_iff]
  constructor
  · rintro ⟨_, hcheck, safeResume, hsafe, fetchUnneeded, hfetch, h⟩
    obtain rfl := Except.ok.inj h
    exact ⟨keys_of_checkMembers hcheck, hsafe, hfetch⟩
  · intro h
    exact ⟨(), checkMembers_of_givenBy hs h, _, h.safeResume, _, h.fetchUnneeded, rfl⟩

end FetchOptions

namespace FetchFailure

variable {members : List (String × Json)} {f : FetchFailure}

/-- The checks of the members. -/
def memberChecks : List (String × (Json → Except DecodeError Unit)) :=
  [("target_file", check text), ("requires_manual_fetching", check boolean),
    ("failed_automatic_fetching", check boolean), ("failed_integrity_checks", check text)]

theorem checkMembers_of_givenBy (hs : Sorted members) (h : f.GivenBy Json.bool Json.string members) :
    checkMembers memberChecks .refused members = .ok () := by
  refine (checkMembers_refused_eq_ok_iff hs).2 fun key v hv => ?_
  rcases FetchFailure.mem_keys_iff.1 (h.mem_keys hv) with rfl | rfl | rfl | rfl
  · obtain rfl := Option.some.inj (hv.symm.trans h.targetFile)
    exact ⟨_, rfl, rfl⟩
  · obtain rfl := Option.some.inj (hv.symm.trans h.requiresManualFetching)
    exact ⟨_, rfl, rfl⟩
  · obtain rfl := Option.some.inj (hv.symm.trans h.failedAutomaticFetching)
    exact ⟨_, rfl, rfl⟩
  · obtain rfl := Option.some.inj (hv.symm.trans h.failedIntegrityChecks)
    exact ⟨_, rfl, rfl⟩

theorem decode_object_eq_ok_iff (hs : Sorted members) :
    decode (.object members) = .ok f ↔ f.GivenBy Json.bool Json.string members := by
  rw [show decode (.object members) = ofMembers members from rfl, ofMembers]
  simp only [Except.bind_eq_ok_iff, Json.required_text_eq_ok_iff, Json.required_boolean_eq_ok_iff]
  constructor
  · rintro ⟨_, hcheck, targetFile, htarget, manual, hmanual, automatic, hautomatic, checks, hchecks, h⟩
    obtain rfl := Except.ok.inj h
    exact ⟨keys_of_checkMembers hcheck, htarget, hmanual, hautomatic, hchecks⟩
  · intro h
    exact ⟨(), checkMembers_of_givenBy hs h, _, h.targetFile, _, h.requiresManualFetching, _,
      h.failedAutomaticFetching, _, h.failedIntegrityChecks, rfl⟩

end FetchFailure

/-! ## Reading through an argument -/

namespace Argument

/-- Flags and texts, and nothing else, become flags and texts. -/
theorem plain_of_ofJson {v : Json} {a : Argument} (h : ofJson v = .ok a) :
    (∀ b, a = .bool b ↔ v = .bool b) ∧ ∀ s, a = .text s ↔ v = .string s := by
  have hv := becomes_of_ofJson h
  cases v with
  | integer n =>
      -- an integer, or a double if it has no 64-bit form
      rw [show a = ofInt n from hv, ofInt]
      split <;> simp
  | array items =>
      obtain ⟨as, rfl, -⟩ := hv
      simp
  | object members =>
      rw [Becomes] at hv
      split at hv
      · obtain ⟨args, o, -, -, rfl⟩ := hv
        simp
      · obtain ⟨entries, rfl, -⟩ := hv
        simp
  | null | bool b | float x | string s =>
      rw [show a = _ from hv]
      simp

theorem ofJson_eq_mapping_iff {members : List (String × Json)} {m : Mapping} :
    ofJson (.object members) = .ok (.mapping m) ↔
      requested? members = none ∧ ReadAs ofJson members m := by
  cases hnew : requested? members with
  | none =>
      rw [ofJson_mapping hnew, Except.map_eq_ok_iff]
      simp [ofMembers_eq_ok_iff]
  | some name =>
      refine iff_of_false (fun h => ?_) (fun h => by cases h.1)
      rw [ofJson_request hnew] at h
      obtain ⟨c, -, h⟩ := Except.bind_eq_ok_iff.1 h
      obtain ⟨args, -, h⟩ := Except.bind_eq_ok_iff.1 h
      obtain ⟨o, -, ho⟩ := build_eq_ok h
      cases ho

theorem exists_ofJson_eq_mapping {members : List (String × Json)} (hnew : "new" ∉ keys members)
    (hplain : ∀ member ∈ members, ∃ a, ofJson member.2 = .ok a) :
    ∃ m, ofJson (.object members) = .ok (.mapping m) := by
  obtain ⟨m, hm⟩ := exists_readAs hplain
  refine ⟨m, ofJson_eq_mapping_iff.2 ⟨requested?_eq_none_iff.2 fun name hname => ?_, hm⟩⟩
  rw [get?_eq_none_iff.2 hnew] at hname
  cases hname

/-- What can be told of an object's members can be told of the mapping that the object is read as, provided
that it is read as a mapping whenever it holds of them. -/
theorem iff_exists_mapping {members : List (String × Json)} {P : Prop} {Q : Mapping → Prop}
    (hmapping : P → ∃ m, ofJson (.object members) = .ok (.mapping m))
    (htransfer : ∀ m, ReadAs ofJson members m → (P ↔ Q m)) :
    P ↔ ∃ m, ofJson (.object members) = .ok (.mapping m) ∧ Q m := by
  constructor
  · intro hP
    obtain ⟨m, hm⟩ := hmapping hP
    exact ⟨m, hm, (htransfer m (ofJson_eq_mapping_iff.1 hm).2).1 hP⟩
  · rintro ⟨m, hm, hQ⟩
    exact (htransfer m (ofJson_eq_mapping_iff.1 hm).2).2 hQ

theorem eq_bool_iff_of_ofJson (b : Bool) (v : Json) (a : Argument) (h : ofJson v = .ok a) :
    v = .bool b ↔ a = .bool b :=
  ((plain_of_ofJson h).1 b).symm

theorem eq_text_iff_of_ofJson (s : String) (v : Json) (a : Argument) (h : ofJson v = .ok a) :
    v = .string s ↔ a = .text s :=
  ((plain_of_ofJson h).2 s).symm

theorem ofJson_eq_bool_iff {v : Json} {b : Bool} : ofJson v = .ok (.bool b) ↔ v = .bool b := by
  constructor
  · intro h
    exact (eq_bool_iff_of_ofJson b v _ h).2 rfl
  · rintro rfl
    rfl

theorem ofJson_eq_text_iff {v : Json} {s : String} : ofJson v = .ok (.text s) ↔ v = .string s := by
  constructor
  · intro h
    exact (eq_text_iff_of_ofJson s v _ h).2 rfl
  · rintro rfl
    rfl

theorem exists_construct_items_iff {items : List Json} (hlength : items.length ≠ 1) {o : Object} :
    (∃ args, List.Forall₂ (fun item a => ofJson item = .ok a) items args ∧
        construct o.classOf args = .ok o) ↔
      List.Forall₂ (fun item a => ofJson item = .ok a) items o.fields := by
  constructor
  · rintro ⟨args, hargs, h⟩
    rcases (construct_eq_ok h).2 with rfl | ⟨m, rfl, -⟩
    · exact hargs
    · -- the named form takes a single argument
      exact absurd hargs.length_eq hlength
  · intro h
    exact ⟨o.fields, h, construct_fields o⟩

end Argument

namespace FetchOptions

open Argument

variable {members : List (String × Json)} {o : FetchOptions}

theorem givenBy_iff_of_readAs {m : Mapping} (h : ReadAs ofJson members m) :
    o.GivenBy Json.bool members ↔ o.GivenBy Argument.bool m := by
  have hflag : ∀ key b, (get? members key).getD (.bool false) = .bool b ↔
      (get? m key).getD (.bool false) = .bool b := fun key b =>
    h.getD_get?_eq_iff (eq_bool_iff_of_ofJson b) (by simp) key
  rw [givenBy_iff, givenBy_iff, h.keys_eq, hflag, hflag]

theorem exists_mapping_of_givenBy (hs : Sorted members) (h : o.GivenBy Json.bool members) :
    ∃ m, ofJson (.object members) = .ok (.mapping m) := by
  refine exists_ofJson_eq_mapping (fun hnew => absurd (h.known _ hnew) (by decide)) ?_
  rintro ⟨key, v⟩ hmember
  obtain ⟨b, rfl⟩ := h.exists_eq_flag ((get?_eq_some_iff_mem hs).2 hmember)
  exact ⟨.bool b, rfl⟩

theorem decode_object_iff_ofMapping (surplus : Surplus) (hs : Sorted members) :
    decode surplus (.object members) = .ok o ↔
      ∃ m, ofJson (.object members) = .ok (.mapping m) ∧ ofMapping m = .ok o := by
  rw [decode_object_eq_ok_iff surplus hs]
  simp only [ofMapping_eq_ok_iff]
  exact iff_exists_mapping (exists_mapping_of_givenBy hs) fun m hm => givenBy_iff_of_readAs hm

theorem decode_pair_eq_ok_iff {v w : Json} :
    decode .direct (.array [v, w]) = .ok o ↔ v = .bool o.safeResume ∧ w = .bool o.fetchUnneeded := by
  have hitems : decode .direct (.array [v, w]) = (do
      let safeResume ← boolean v
      let fetchUnneeded ← boolean w
      pure ⟨safeResume, fetchUnneeded⟩) := rfl
  rw [hitems]
  simp only [Except.bind_eq_ok_iff, Json.boolean_eq_ok_iff]
  constructor
  · rintro ⟨safeResume, hv, fetchUnneeded, hw, h⟩
    obtain rfl := Except.ok.inj h
    exact ⟨hv, hw⟩
  · rintro ⟨hv, hw⟩
    exact ⟨_, hv, _, hw, rfl⟩

theorem sorted_toJson_of_givenBy (hs : Sorted members) (h : o.GivenBy Json.bool members) :
    o.toJson.sorted = .object (fillIn FetchOptions.keys (.bool false) members) := by
  have hsorted : o.toJson.sorted = .object (ofList [("safe_resume", .bool o.safeResume),
      ("fetch_unneeded", .bool o.fetchUnneeded)]) := rfl
  rw [hsorted]
  -- both objects are in key order, so it is enough to look up each key in both
  refine congrArg Json.object (eq_of_get?_eq (sorted_ofList _) (sorted_fillIn _ _ hs) fun key => ?_)
  rw [get?_fillIn, ofList, List.foldl_cons, List.foldl_cons, List.foldl_nil, get?_insert, get?_insert,
    get?_nil]
  by_cases hfetch : key = "fetch_unneeded"
  · rw [hfetch, if_pos rfl, if_pos (by decide), Option.or_some, h.fetchUnneeded]
  · by_cases hsafe : key = "safe_resume"
    · rw [if_neg hfetch, hsafe, if_pos rfl, if_pos (by decide), Option.or_some, h.safeResume]
    · have hforeign : key ∉ FetchOptions.keys := fun hkey =>
        (List.mem_pair.1 hkey).elim hsafe hfetch
      rw [if_neg hfetch, if_neg hsafe, if_neg hforeign, Option.or_none,
        get?_eq_none_iff.2 fun hkey => hforeign (h.known key hkey)]

theorem decode_items_iff_construct {items : List Json} (hlength : items.length = 2) :
    decode .direct (.array items) = .ok o ↔
      ∃ args, List.Forall₂ (fun item a => ofJson item = .ok a) items args ∧
        construct .fetchOptions args = .ok (.options o) := by
  obtain ⟨v, w, rfl⟩ := List.length_eq_two.1 hlength
  rw [show Class.fetchOptions = (Object.options o).classOf from rfl,
    exists_construct_items_iff (by simp), decode_pair_eq_ok_iff, Object.fields]
  simp [ofJson_eq_bool_iff]

end FetchOptions

namespace FetchFailure

open Argument

variable {members : List (String × Json)} {f : FetchFailure}

theorem givenBy_iff_of_readAs {m : Mapping} (h : ReadAs ofJson members m) :
    f.GivenBy Json.bool Json.string members ↔ f.GivenBy Argument.bool Argument.text m := by
  have hflag : ∀ key b, get? members key = some (.bool b) ↔ get? m key = some (.bool b) :=
    fun key b => h.get?_eq_some_iff (eq_bool_iff_of_ofJson b) key
  have htext : ∀ key s, get? members key = some (.string s) ↔ get? m key = some (.text s) :=
    fun key s => h.get?_eq_some_iff (eq_text_iff_of_ofJson s) key
  rw [givenBy_iff, givenBy_iff, h.keys_eq, htext, hflag, hflag, htext]

theorem exists_mapping_of_givenBy (hs : Sorted members) (h : f.GivenBy Json.bool Json.string members) :
    ∃ m, ofJson (.object members) = .ok (.mapping m) := by
  refine exists_ofJson_eq_mapping (fun hnew => absurd (h.known _ hnew) (by decide)) ?_
  rintro ⟨key, v⟩ hmember
  have hv : get? members key = some v := (get?_eq_some_iff_mem hs).2 hmember
  rcases h.eq_field hv with ⟨b, rfl⟩ | ⟨s, rfl⟩
  · exact ⟨.bool b, rfl⟩
  · exact ⟨.text s, rfl⟩

theorem decode_object_iff_ofMapping (hs : Sorted members) :
    decode (.object members) = .ok f ↔
      ∃ m, ofJson (.object members) = .ok (.mapping m) ∧ ofMapping m = .ok f := by
  rw [decode_object_eq_ok_iff hs]
  simp only [ofMapping_eq_ok_iff]
  exact iff_exists_mapping (exists_mapping_of_givenBy hs) fun m hm => givenBy_iff_of_readAs hm

theorem decode_four_eq_ok_iff {v w x y : Json} :
    decode (.array [v, w, x, y]) = .ok f ↔ v = .string f.targetFile ∧
      w = .bool f.requiresManualFetching ∧ x = .bool f.failedAutomaticFetching ∧
      y = .string f.failedIntegrityChecks := by
  have hitems : decode (.array [v, w, x, y]) = (do
      let targetFile ← text v
      let requiresManualFetching ← boolean w
      let failedAutomaticFetching ← boolean x
      let failedIntegrityChecks ← text y
      pure ⟨targetFile, requiresManualFetching, failedAutomaticFetching, failedIntegrityChecks⟩) := rfl
  rw [hitems]
  simp only [Except.bind_eq_ok_iff, Json.boolean_eq_ok_iff, Json.text_eq_ok_iff]
  constructor
  · rintro ⟨targetFile, hv, manual, hw, automatic, hx, checks, hy, h⟩
    obtain rfl := Except.ok.inj h
    exact ⟨hv, hw, hx, hy⟩
  · rintro ⟨hv, hw, hx, hy⟩
    exact ⟨_, hv, _, hw, _, hx, _, hy, rfl⟩

theorem sorted_toJson_of_givenBy (hs : Sorted members) (h : f.GivenBy Json.bool Json.string members) :
    f.toJson.sorted = .object members := by
  have hsorted : f.toJson.sorted = .object (ofList [("target_file", .string f.targetFile),
      ("requires_manual_fetching", .bool f.requiresManualFetching),
      ("failed_automatic_fetching", .bool f.failedAutomaticFetching),
      ("failed_integrity_checks", .string f.failedIntegrityChecks)]) := rfl
  rw [hsorted]
  refine congrArg Json.object (eq_of_get?_eq (sorted_ofList _) hs fun key => ?_)
  simp only [ofList, List.foldl_cons, List.foldl_nil, get?_insert, get?_nil]
  by_cases hkey : key ∈ FetchFailure.keys
  · rcases FetchFailure.mem_keys_iff.1 hkey with rfl | rfl | rfl | rfl
    · exact h.targetFile.symm
    · exact h.requiresManualFetching.symm
    · exact h.failedAutomaticFetching.symm
    · exact h.failedIntegrityChecks.symm
  · rw [get?_eq_none_iff.2 fun hmem => hkey (h.known key hmem)]
    simp only [FetchFailure.mem_keys_iff, not_or] at hkey
    simp [hkey]

theorem decode_items_iff_construct {items : List Json} (hlength : items.length = 4) :
    decode (.array items) = .ok f ↔
      ∃ args, List.Forall₂ (fun item a => ofJson item = .ok a) items args ∧
        construct .fetchFailure args = .ok (.failure f) := by
  match items, hlength with
  | [v, w, x, y], _ =>
    rw [show Class.fetchFailure = (Object.failure f).classOf from rfl,
      exists_construct_items_iff (by simp), decode_four_eq_ok_iff, Object.fields]
    simp [ofJson_eq_bool_iff, ofJson_eq_text_iff]

end FetchFailure

/-! ## Agreement -/

/-- The ways of reading and writing a kind of record agree. An object is decoded to a record exactly if it
becomes a mapping that names the record, and writing the record gives the object back, where flags under
some keys may have been left out and are then written as off. An array with an item for each field is decoded
to a record exactly if the record is built from what its items become. -/
structure ReadersAgree {ρ : Type} (fields optional : List String)
    (decode : Json → Except DecodeError ρ) (toJson : ρ → Json)
    (ofMapping : Mapping → Except ActionError ρ) (c : Class) (wrap : ρ → Object) : Prop where
  object : ∀ members, Sorted members → ∀ x, decode (.object members) = .ok x ↔
    ∃ m, Argument.ofJson (.object members) = .ok (.mapping m) ∧ ofMapping m = .ok x
  written : ∀ members, Sorted members → ∀ x, decode (.object members) = .ok x →
    (toJson x).sorted = .object (fillIn optional (.bool false) members)
  array : ∀ items : List Json, items.length = fields.length → ∀ x, decode (.array items) = .ok x ↔
    ∃ args, List.Forall₂ (fun item a => Argument.ofJson item = .ok a) items args ∧
      construct c args = .ok (wrap x)

/-- Both records are read and written alike in every way. -/
theorem records_read_alike :
    ReadersAgree FetchOptions.keys FetchOptions.keys (FetchOptions.decode .direct) FetchOptions.toJson
        FetchOptions.ofMapping .fetchOptions .options ∧
      ReadersAgree FetchFailure.keys [] FetchFailure.decode FetchFailure.toJson FetchFailure.ofMapping
        .fetchFailure .failure := by
  constructor
  · constructor
    · exact fun members hs o => FetchOptions.decode_object_iff_ofMapping .direct hs
    · intro members hs o h
      exact FetchOptions.sorted_toJson_of_givenBy hs
        ((FetchOptions.decode_object_eq_ok_iff .direct hs).1 h)
    · exact fun items hlength o => FetchOptions.decode_items_iff_construct hlength
  · constructor
    · exact fun members hs f => FetchFailure.decode_object_iff_ofMapping hs
    · intro members hs f h
      exact FetchFailure.sorted_toJson_of_givenBy hs ((FetchFailure.decode_object_eq_ok_iff hs).1 h)
    · exact fun items hlength f => FetchFailure.decode_items_iff_construct hlength

/-- An object in key order that leaves out a flag, and an array of full length. -/
theorem records_read_alike_flag_left_out :
    let members : List (String × Json) := [("fetch_unneeded", .bool true)]
    let items : List Json := [.string "a.tar", .bool true, .bool false, .string ""]
    Sorted members ∧ items.length = FetchFailure.keys.length ∧
      (∃ m, Argument.ofJson (.object members) = .ok (.mapping m) ∧
        FetchOptions.ofMapping m = .ok ⟨false, true⟩) ∧
      (FetchOptions.toJson ⟨false, true⟩).sorted =
        .object [("fetch_unneeded", .bool true), ("safe_resume", .bool false)] ∧
      ∃ args, List.Forall₂ (fun item a => Argument.ofJson item = .ok a) items args ∧
        construct .fetchFailure args = .ok (.failure ⟨"a.tar", true, false, ""⟩) := by
  intro members items
  have hsorted : Sorted members := List.pairwise_singleton _ _
  have hmembers : FetchOptions.decode .direct (.object members) = .ok ⟨false, true⟩ := rfl
  have hitems : FetchFailure.decode (.array items) = .ok ⟨"a.tar", true, false, ""⟩ := rfl
  obtain ⟨hoptions, hfailures⟩ := records_read_alike
  exact ⟨hsorted, rfl, (hoptions.object members hsorted _).1 hmembers,
    hoptions.written members hsorted _ hmembers, (hfailures.array items rfl _).1 hitems⟩

end PackageActions
