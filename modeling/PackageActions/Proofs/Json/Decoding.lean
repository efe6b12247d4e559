import PackageActions.Error.Json
import PackageActions.Proofs.Decoding
import PackageActions.Proofs.Json.Written

/-!
# Decoding JSON

Plain values are decoded from one kind of JSON value each. The members of an object may be written in any
order: in key order the same is found under each key (`exists_sorted_object`), so a record of texts is
decoded from what was written for it (`exists_textFields`).

`Rereads decode v a` says of a value that is to be written that it is decoded as `a`, directly and from both
of its texts.
-/

namespace PackageActions.Json

open Decoding Dictionary

/-! ## Plain values -/

theorem boolean_eq_ok_iff {v : Json} {b : Bool} : boolean v = .ok b ↔ v = .bool b := by
  cases v <;> simp [boolean, SelfDescribing.shape, Json.shape, mismatch, refuse]

theorem text_eq_ok_iff {v : Json} {s : String} : text v = .ok s ↔ v = .string s := by
  cases v <;> simp [text, SelfDescribing.shape, Json.shape, mismatch, refuse]

theorem check_boolean_eq_ok_iff {v : Json} : check boolean v = .ok () ↔ ∃ b, v = .bool b := by
  simp only [check_eq_ok_iff, boolean_eq_ok_iff]

theorem optional_boolean_eq_ok_iff {members : List (String × Json)} {key : String} {b : Bool} :
    Decoding.optional key boolean false members = .ok b ↔
      (get? members key).getD (.bool false) = .bool b := by
  unfold Decoding.optional
  cases get? members key with
  | none => simp
  | some v => rw [within_eq_ok_iff, boolean_eq_ok_iff, Option.getD_some]

theorem required_boolean_eq_ok_iff {members : List (String × Json)} {key : String} {b : Bool} :
    required key boolean members = .ok b ↔ get? members key = some (.bool b) := by
  simp only [required_eq_ok_iff, boolean_eq_ok_iff, exists_eq_right]

theorem required_text_eq_ok_iff {members : List (String × Json)} {key s : String} :
    required key text members = .ok s ↔ get? members key = some (.string s) := by
  simp only [required_eq_ok_iff, text_eq_ok_iff, exists_eq_right]

/-! ## Members in key order -/

theorem sortedItems_eq_map (items : List Json) : sortedItems items = items.map sorted := by
  induction items with
  | nil => rfl
  | cons item rest ih => rw [sortedItems, ih]; rfl

theorem sortedMembers_eq_mapValues (members : List (String × Json)) :
    sortedMembers members = mapValues sorted members := by
  induction members with
  | nil => rfl
  | cons member rest ih => rw [sortedMembers, ih]; rfl

/-- In key order the same members are found, and there are no others. -/
theorem exists_sorted_object (members : List (String × Json)) (h : (keys members).Nodup) :
    ∃ m, (object members).sorted = .object m ∧ Dictionary.Sorted m ∧
      (∀ key, get? m key = (get? members key).map sorted) ∧ ∀ member ∈ m, member ∈ mapValues sorted members := by
  have hget : ∀ key, get? (ofList (sortedMembers members)) key = (get? members key).map sorted := by
    intro key
    rw [sortedMembers_eq_mapValues, get?_ofList (by rwa [keys_mapValues]), get?_mapValues]
  refine ⟨_, rfl, sorted_ofList _, hget, fun member hmember => ?_⟩
  have hfound := (get?_eq_some_iff_mem (sorted_ofList _)).2 hmember
  rw [hget, ← get?_mapValues] at hfound
  exact mem_of_get?_eq_some hfound

/-! ## Cases -/

theorem caseOf_ofCase {β : Type} {cases : List (String × (Option Json → Except DecodeError β))}
    {name : String} {decode : Option Json → Except DecodeError β} (h : cases.lookup name = some decode)
    (payload : Json) : caseOf cases (ofCase name payload) = decode (some payload) := by
  have hchoice : SelfDescribing.choice (ofCase name payload) = .ok ⟨name, some payload⟩ := rfl
  simp only [caseOf, hchoice, bind, Except.bind, h]

/-- A string is read as a case only if it is the name of that case. -/
theorem mem_of_oneOf_string {β : Type} {cases : List (String × β)} {s : String} {b : β}
    (h : oneOf cases (string s) = .ok b) : (s, b) ∈ cases := by
  obtain ⟨chosen, hchosen, h⟩ := Except.bind_eq_ok_iff.1 h
  obtain rfl : Choice.mk s none = chosen := Except.ok.inj hchosen
  split at h
  · cases h
  · rename_i b' hlookup
    obtain ⟨_, -, h⟩ := Except.bind_eq_ok_iff.1 h
    obtain rfl := Except.ok.inj h
    obtain ⟨before, after, hcases, -⟩ := List.lookup_eq_some_iff.1 hlookup
    simp [hcases]

/-- The texts of a case are found in what was written for them. -/
theorem exists_textFields (fields : List (String × String)) (h : (fields.map Prod.fst).Nodup) :
    ∃ m, textFields (fields.map Prod.fst) (some (object (mapValues string fields)).sorted) = .ok m ∧
      ∀ field ∈ fields, required field.1 text m = .ok field.2 := by
  have hkeys : (keys (mapValues string fields)).Nodup := by rwa [keys_mapValues]
  obtain ⟨m, hm, -, hget, hmem⟩ := exists_sorted_object (mapValues string fields) hkeys
  refine ⟨m, ?_, fun field hfield => ?_⟩
  · have hcheck : checkMembers ((fields.map Prod.fst).map textField) .ignored m = .ok () := by
      refine checkMembers_eq_ok_iff.2 fun member hmember => ?_
      obtain ⟨field, -, rfl⟩ : ∃ field ∈ fields, (field.1, Json.string field.2) = member := by
        simpa [mapValues, sorted] using hmem member hmember
      refine checkMember_ignored_eq_ok_iff.2 fun ok hok => ?_
      rw [(lookup_map_eq_some_iff.1 hok).2]
      rfl
    rw [hm, textFields]
    exact Except.bind_ok rfl (Except.bind_ok hcheck rfl)
  · have hfound : get? (mapValues string fields) field.1 = some (.string field.2) :=
      get?_of_mem hkeys (List.mem_map.2 ⟨field, hfield, rfl⟩)
    rw [required_text_eq_ok_iff, hget, hfound]
    rfl

/-! ## Reading back -/

/-- A value that is written is decoded as `a`: from the value itself, its members in key order, and from
what its text on one line or on several is read as. -/
structure Rereads {ε α : Type} (decode : Json → Except ε α) (v : Json) (a : α) : Prop where
  value : decode v.sorted = .ok a
  compact : (parse? v.compact).map decode = some (.ok a)
  pretty : (parse? v.pretty).map decode = some (.ok a)

theorem rereads_of_portable {ε α : Type} {decode : Json → Except ε α} {v : Json} {a : α}
    (hportable : v.Portable maxDepth) (h : decode v.sorted = .ok a) : Rereads decode v a where
  value := h
  compact := by rw [parse?_compact hportable, Option.map_some, h]
  pretty := by rw [parse?_pretty hportable, Option.map_some, h]

section Rereads

variable {ε α : Type} {decode : Json → Except ε α} {v v' : Json} {a a' : α}

theorem Rereads.eq_of_sorted_eq (h : Rereads decode v a) (h' : Rereads decode v' a')
    (hv : v.sorted = v'.sorted) : a = a' := by
  have hdecode := h.value
  rw [hv, h'.value] at hdecode
  exact (Except.ok.inj hdecode).symm

theorem Rereads.eq_of_compact_eq (h : Rereads decode v a) (h' : Rereads decode v' a')
    (hv : v.compact = v'.compact) : a = a' := by
  have hdecode := h.compact
  rw [hv, h'.compact] at hdecode
  exact (Except.ok.inj (Option.some.inj hdecode)).symm

theorem Rereads.eq_of_pretty_eq (h : Rereads decode v a) (h' : Rereads decode v' a')
    (hv : v.pretty = v'.pretty) : a = a' := by
  have hdecode := h.pretty
  rw [hv, h'.pretty] at hdecode
  exact (Except.ok.inj (Option.some.inj hdecode)).symm

end Rereads

end PackageActions.Json
