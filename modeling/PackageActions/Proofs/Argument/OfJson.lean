import PackageActions.Argument.OfJson
import PackageActions.Proofs.Dictionary

/-!
# Reading an argument, one shape at a time

`ofJson` by the shape of the value: an array is read item by item, an object either as a mapping or as a
request. A request takes its arguments from what its member `args` becomes, an array for several and any
other value for one (`ofRequest_of_get?_eq_some`), so nothing else about that member matters.
-/

namespace PackageActions.Argument

/-- The arguments that the member `args` of a request stands for. -/
def given : Argument → List Argument
  | .list items => items
  | other => [other]

/-! ## Numbers -/

/-- An integer of 64 bits stays what it is. -/
theorem ofInt_toInt (n : Int64) : ofInt n.toInt = .integer n := by
  have hmin : Int64.minValue.toInt ≤ n.toInt := Int64.minValue_le_toInt n
  have hmax : n.toInt ≤ Int64.maxValue.toInt := Int64.toInt_le n
  have hfits : (Int64.minValue.toInt ≤ n.toInt && n.toInt ≤ Int64.maxValue.toInt) = true := by
    rw [Bool.and_eq_true]
    exact ⟨decide_eq_true hmin, decide_eq_true hmax⟩
  rw [ofInt, if_pos hfits, Int64.ofInt_toInt]

/-! ## Requests and mappings -/

theorem requested?_eq_some_iff {members : List (String × Json)} {name : String} :
    requested? members = some name ↔ Dictionary.get? members "new" = some (.string name) := by
  unfold requested?
  split
  · rename_i s hs
    rw [hs]
    simp
  · rename_i hs
    simpa using hs name

theorem requested?_eq_none_iff {members : List (String × Json)} :
    requested? members = none ↔ ∀ name, Dictionary.get? members "new" ≠ some (.string name) := by
  simp only [Option.eq_none_iff_forall_ne_some, ne_eq, requested?_eq_some_iff]

theorem ofJson_array (items : List Json) : ofJson (.array items) = .list <$> ofItems items := by
  rw [ofJson, bind_pure_comp]

theorem ofJson_mapping {members : List (String × Json)} (h : requested? members = none) :
    ofJson (.object members) = .mapping <$> ofMembers members := by
  simp only [ofJson, h, bind_pure_comp]

theorem ofJson_request {members : List (String × Json)} {name : String}
    (h : requested? members = some name) :
    ofJson (.object members) =
      Class.ofName name >>= fun c => ofRequest members >>= fun args => build c members args := by
  simp only [ofJson, h]

theorem ofItems_eq_mapM (items : List Json) : ofItems items = items.mapM ofJson := by
  induction items with
  | nil => rfl
  | cons item rest ih => rw [ofItems, ih, List.mapM_cons]

theorem ofMembers_eq_mapM (members : List (String × Json)) :
    ofMembers members = members.mapM fun member => (member.1, ·) <$> ofJson member.2 := by
  induction members with
  | nil => rfl
  | cons member rest ih =>
      rw [ofMembers, ih, List.mapM_cons]
      cases ofJson member.2 <;> rfl

theorem ofItems_eq_ok_iff {items : List Json} {as : List Argument} :
    ofItems items = .ok as ↔ List.Forall₂ (fun item a => ofJson item = .ok a) items as := by
  rw [ofItems_eq_mapM, Except.mapM_eq_ok_iff]

theorem ofMembers_eq_ok_iff {members : List (String × Json)} {entries : List (String × Argument)} :
    ofMembers members = .ok entries ↔ Dictionary.ReadAs ofJson members entries := by
  rw [ofMembers_eq_mapM]
  exact Dictionary.mapM_eq_ok_iff fun _ => ofJson

/-! ## The arguments of a request -/

theorem build_eq_ok {c : Class} {members : List (String × Json)} {args : List Argument}
    {a : Argument} (h : build c members args = .ok a) :
    ∃ o, construct c args = .ok o ∧ .object o = a := by
  unfold build at h
  split at h
  · cases h
  · exact Except.map_eq_ok_iff.1 h

/-- Only an array becomes a list. -/
theorem given_of_ofJson {v : Json} (hv : ∀ items, v ≠ .array items) {a : Argument}
    (h : ofJson v = .ok a) : given a = [a] := by
  cases v with
  | null => cases h; rfl
  | bool b => cases h; rfl
  | integer n =>
      cases h
      unfold ofInt
      split <;> rfl
  | float x => cases h; rfl
  | string s => cases h; rfl
  | array items => exact absurd rfl (hv items)
  | object members =>
      cases hnew : requested? members with
      | none =>
          rw [ofJson_mapping hnew] at h
          obtain ⟨entries, -, rfl⟩ := Except.map_eq_ok_iff.1 h
          rfl
      | some name =>
          rw [ofJson_request hnew] at h
          obtain ⟨c, -, h⟩ := Except.bind_eq_ok_iff.1 h
          obtain ⟨args, -, h⟩ := Except.bind_eq_ok_iff.1 h
          obtain ⟨o, -, rfl⟩ := build_eq_ok h
          rfl

theorem ofRequest_cons_args (v : Json) (rest : List (String × Json)) :
    ofRequest (("args", v) :: rest) = given <$> ofJson v := by
  by_cases hv : ∃ items, v = .array items
  · obtain ⟨items, rfl⟩ := hv
    rw [ofRequest, if_pos rfl, ofJson_array]
    cases ofItems items <;> rfl
  · have hv' : ∀ items, v ≠ .array items := fun items h => hv ⟨items, h⟩
    rw [ofRequest, if_pos rfl, bind_pure_comp]
    · cases h : ofJson v with
      | error e => rfl
      | ok a => exact (congrArg Except.ok (given_of_ofJson hv' h)).symm
    · exact hv'

theorem ofRequest_cons_of_ne {key : String} (h : key ≠ "args") (v : Json)
    (rest : List (String × Json)) : ofRequest ((key, v) :: rest) = ofRequest rest := by
  cases v <;> simp [ofRequest, h]

theorem ofRequest_of_get?_eq_none {members : List (String × Json)}
    (h : Dictionary.get? members "args" = none) : ofRequest members = .ok [] := by
  induction members with
  | nil => rfl
  | cons member rest ih =>
      obtain ⟨key, v⟩ := member
      rw [Dictionary.get?_cons] at h
      split at h
      · cases h
      · rename_i hkey
        rw [ofRequest_cons_of_ne hkey, ih h]

theorem ofRequest_of_get?_eq_some {members : List (String × Json)} {v : Json}
    (h : Dictionary.get? members "args" = some v) : ofRequest members = given <$> ofJson v := by
  induction members with
  | nil => cases h
  | cons member rest ih =>
      obtain ⟨key, v'⟩ := member
      rw [Dictionary.get?_cons] at h
      split at h
      · rename_i hkey
        rw [hkey, ofRequest_cons_args, Option.some.inj h]
      · rename_i hkey
        rw [ofRequest_cons_of_ne hkey, ih h]

end PackageActions.Argument
