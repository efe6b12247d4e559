import PackageActions.Decoding.Basic
import PackageActions.Proofs.Dictionary

/-!
# What decoders see

A dictionary is decoded exactly from a map whose values can be decoded (`dictionary_eq_ok_iff`). Where
members that are no fields are passed over, a record cannot tell whether they are there
(`checkMembers_erase`, `optional_erase`). Where they are refused, the members pass the check exactly if each
is a field with a value that can be decoded (`checkMembers_refused_eq_ok_iff`).
-/

namespace PackageActions

open Dictionary

namespace Decoding

variable {α β : Type}

/-! ## Maps of values -/

theorem within_eq_ok_iff {key : String} {decode : α → Except DecodeError β} {v : α} {b : β} :
    within key decode v = .ok b ↔ decode v = .ok b := by
  rw [within, Except.mapError_eq_ok_iff]

theorem dictionary_eq_ok_iff [SelfDescribing α] {decode : α → Except DecodeError β} {v : α}
    {entries : List (String × β)} :
    dictionary decode v = .ok entries ↔
      ∃ members, SelfDescribing.shape v = .map members ∧ ReadAs decode members entries := by
  unfold dictionary
  split
  · rename_i members hshape
    simp only [bind_pure_comp, mapM_eq_ok_iff fun key => within key decode, within_eq_ok_iff]
    constructor
    · intro h
      exact ⟨members, hshape, h⟩
    · rintro ⟨members', hshape', h⟩
      rw [hshape, Shape.map.injEq] at hshape'
      rw [hshape']
      exact h
  · rename_i hshape
    refine iff_of_false (fun h => by cases h) ?_
    rintro ⟨members, h, -⟩
    exact hshape members h

/-! ## Checks of members -/

theorem check_eq_ok_iff {decode : α → Except DecodeError β} {v : α} :
    check decode v = .ok () ↔ ∃ b, decode v = .ok b := by
  rw [check, Except.bind_eq_ok_iff]
  exact exists_congr fun b => and_iff_left rfl

/-- The check of one member. -/
def checkMember (fields : List (String × (α → Except DecodeError Unit))) (others : Others)
    (member : String × α) : Except DecodeError Unit :=
  match fields.lookup member.1 with
  | some ok => within member.1 ok member.2
  | none => match others with
    | .refused => refuse (.unknownField member.1 (fields.map Prod.fst))
    | .ignored => .ok ()

theorem checkMembers_cons (fields : List (String × (α → Except DecodeError Unit))) (others : Others)
    (member : String × α) (rest : List (String × α)) :
    checkMembers fields others (member :: rest) = (do
      checkMember fields others member
      checkMembers fields others rest) := rfl

theorem checkMembers_eq_ok_iff {fields : List (String × (α → Except DecodeError Unit))}
    {others : Others} {members : List (String × α)} :
    checkMembers fields others members = .ok () ↔
      ∀ member ∈ members, checkMember fields others member = .ok () := by
  induction members with
  | nil => exact iff_of_true rfl (by simp)
  | cons member rest ih =>
      rw [checkMembers_cons, Except.bind_eq_ok_iff, List.forall_mem_cons, ← ih]
      exact ⟨fun ⟨_, hmember, hrest⟩ => ⟨hmember, hrest⟩, fun ⟨hmember, hrest⟩ => ⟨(), hmember, hrest⟩⟩

/-- Fields that are all checked alike. -/
theorem lookup_map_eq_some_iff {γ : Type} {names : List String} {name : String} {ok ok' : γ} :
    (names.map fun name => (name, ok)).lookup name = some ok' ↔ name ∈ names ∧ ok' = ok := by
  induction names with
  | nil => simp
  | cons first rest ih =>
      rw [List.map_cons, List.lookup_cons, List.mem_cons]
      by_cases hname : name = first
      · simp [hname, eq_comm]
      · simp only [beq_eq_false_iff_ne.2 hname, ih, hname, false_or]

theorem checkMember_refused_eq_ok_iff {fields : List (String × (α → Except DecodeError Unit))}
    {member : String × α} : checkMember fields .refused member = .ok () ↔
      ∃ ok, fields.lookup member.1 = some ok ∧ ok member.2 = .ok () := by
  unfold checkMember
  cases fields.lookup member.1 with
  | none => simp [refuse]
  | some ok => simp [within_eq_ok_iff]

theorem checkMembers_refused_eq_ok_iff {fields : List (String × (α → Except DecodeError Unit))}
    {members : List (String × α)} (hs : Sorted members) :
    checkMembers fields .refused members = .ok () ↔ ∀ key v, get? members key = some v →
      ∃ ok, fields.lookup key = some ok ∧ ok v = .ok () := by
  simp only [checkMembers_eq_ok_iff, checkMember_refused_eq_ok_iff, get?_eq_some_iff_mem hs,
    Prod.forall]

theorem checkMember_ignored_eq_ok_iff {fields : List (String × (α → Except DecodeError Unit))}
    {member : String × α} : checkMember fields .ignored member = .ok () ↔
      ∀ ok, fields.lookup member.1 = some ok → ok member.2 = .ok () := by
  unfold checkMember
  cases fields.lookup member.1 with
  | none => simp
  | some ok => simp [within_eq_ok_iff]

/-- A field that can be read passes the check. -/
theorem checkMembers_cons_ok {fields : List (String × (α → Except DecodeError Unit))} {others : Others}
    {key : String} {v : α} {rest : List (String × α)} {decode : α → Except DecodeError β} {b : β}
    (hfield : fields.lookup key = some (check decode)) (hv : decode v = .ok b)
    (hrest : checkMembers fields others rest = .ok ()) :
    checkMembers fields others ((key, v) :: rest) = .ok () := by
  have hmember : checkMember fields others (key, v) = .ok () := by
    simp only [checkMember, hfield]
    exact within_eq_ok_iff.2 (check_eq_ok_iff.2 ⟨b, hv⟩)
  rw [checkMembers_cons]
  exact Except.bind_ok hmember hrest

/-- Where other members are refused, whatever passes the check has the keys of fields only. -/
theorem keys_of_checkMembers {fields : List (String × (α → Except DecodeError Unit))}
    {members : List (String × α)} (h : checkMembers fields .refused members = .ok ()) :
    ∀ key ∈ keys members, key ∈ fields.map Prod.fst := by
  intro key hkey
  obtain ⟨member, hmember, rfl⟩ := List.mem_map.1 hkey
  obtain ⟨ok, hok, -⟩ := checkMember_refused_eq_ok_iff.1 (checkMembers_eq_ok_iff.1 h member hmember)
  obtain ⟨before, after, hfields, -⟩ := List.lookup_eq_some_iff.1 hok
  simp [hfields]

/-! ## Members that are no fields -/

theorem checkMembers_erase {fields : List (String × (α → Except DecodeError Unit))} {key : String}
    (h : fields.lookup key = none) (members : List (String × α)) :
    checkMembers fields .ignored (erase members key) = checkMembers fields .ignored members := by
  induction members with
  | nil => rfl
  | cons member rest ih =>
      rw [checkMembers_cons, ← ih]
      by_cases hkey : member.1 = key
      · have hcheck : checkMember fields .ignored member = .ok () := by
          rw [checkMember, hkey, h]
        rw [erase_cons_of_eq hkey, hcheck]
        rfl
      · rw [erase_cons_of_ne hkey, checkMembers_cons]

theorem optional_erase {key other : String} (h : other ≠ key) (decode : α → Except DecodeError β)
    (default : β) (members : List (String × α)) :
    optional other decode default (erase members key) = optional other decode default members := by
  rw [optional, optional, get?_erase_of_ne h]

theorem optional_eq_ok_iff {key : String} {decode : α → Except DecodeError β} {default b : β}
    {members : List (String × α)} :
    optional key decode default members = .ok b ↔
      get? members key = none ∧ b = default ∨
        ∃ v, get? members key = some v ∧ decode v = .ok b := by
  unfold optional
  cases get? members key with
  | none => simp [eq_comm]
  | some v => simp [within_eq_ok_iff]

theorem check_of_optional {key : String} {decode : α → Except DecodeError β} {default b : β}
    {members : List (String × α)} (h : optional key decode default members = .ok b) {v : α}
    (hv : get? members key = some v) : check decode v = .ok () := by
  rw [optional, hv] at h
  exact check_eq_ok_iff.2 ⟨b, within_eq_ok_iff.1 h⟩

theorem required_eq_ok_iff {key : String} {decode : α → Except DecodeError β} {b : β}
    {members : List (String × α)} :
    required key decode members = .ok b ↔ ∃ v, get? members key = some v ∧ decode v = .ok b := by
  unfold required
  cases get? members key with
  | none => simp [refuse]
  | some v => simp [within_eq_ok_iff]

/-! ## Fields by place -/

theorem requiredItem_eq_ok_iff {name : String} {fields index : Nat} {decode : α → Except DecodeError β}
    {items : List α} {b : β} :
    requiredItem name fields index decode items = .ok b ↔
      ∃ v, items[index]? = some v ∧ decode v = .ok b := by
  unfold requiredItem
  cases items[index]? with
  | none => simp [refuse]
  | some v => simp

theorem atMost_eq_ok_iff {surplus : Surplus} {fields : Nat} {items : List α} :
    atMost surplus fields items = .ok () ↔ items.length ≤ fields := by
  unfold atMost
  split
  · rename_i h
    exact iff_of_true rfl h
  · rename_i h
    exact iff_of_false (fun h' => by cases h') h

end Decoding

end PackageActions
