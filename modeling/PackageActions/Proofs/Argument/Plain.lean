import PackageActions.Proofs.Argument.Checks
import PackageActions.Proofs.Argument.Construct

/-!
# Plain data

A JSON value in which no object is a request (`Json.Plain`) is read whatever else is in it, and it is read
part by part: what stands in the argument are the arguments of what stands in the value
(`within_evaluated_iff`), so nothing in it was built. A whole number of at most 64 bits keeps its value, and
any other number is a double. `Argument.toJson` goes back: it gives the value itself, if the whole numbers in
it have at most 64 bits (`toJson_evaluated`), and so no two such values become the same argument.
-/

namespace PackageActions

open Dictionary

namespace Json

/-! ## Parts of a value -/

/-- A value stands somewhere in another one, or is that value. -/
inductive Within (u : Json) : Json → Prop where
  | self : Within u u
  | item {items : List Json} {item : Json} (hitem : item ∈ items) (hu : Within u item) :
      Within u (.array items)
  | member {members : List (String × Json)} {member : String × Json} (hmember : member ∈ members)
      (hu : Within u member.2) : Within u (.object members)

theorem Within.trans {u v w : Json} (huv : u.Within v) (hvw : v.Within w) : u.Within w := by
  induction hvw with
  | self => exact huv
  | item hitem _ ih => exact .item hitem ih
  | member hmember _ ih => exact .member hmember ih

/-- Induction on a value, with a hypothesis for every item of an array and every member of an object. -/
theorem inductionOn {P : Json → Prop} (v : Json) (null : P .null) (bool : ∀ b, P (.bool b))
    (integer : ∀ n, P (.integer n)) (float : ∀ x, P (.float x)) (string : ∀ s, P (.string s))
    (array : ∀ items, (∀ item ∈ items, P item) → P (.array items))
    (object : ∀ members, (∀ member ∈ members, P member.2) → P (.object members)) : P v :=
  @Json.rec P (fun items => ∀ item ∈ items, P item) (fun members => ∀ member ∈ members, P member.2)
    (fun member => P member.2) null bool integer float string array object
    (List.forall_mem_nil _) (fun _ _ hitem hrest => List.forall_mem_cons.2 ⟨hitem, hrest⟩)
    (List.forall_mem_nil _) (fun _ _ hmember hrest => List.forall_mem_cons.2 ⟨hmember, hrest⟩)
    (fun _ _ hvalue => hvalue) v

/-! ## Plain values -/

/-- No object in the value, at any depth, has a text under the key `new`. -/
def Plain (v : Json) : Prop :=
  ∀ members name, (object members).Within v → get? members "new" ≠ some (.string name)

/-- The number has at most 64 bits with its sign. -/
def FitsInt64 (n : Int) : Prop := -9223372036854775808 ≤ n ∧ n ≤ 9223372036854775807

/-- Every whole number in the value has at most 64 bits with its sign. -/
def IntegersFit (v : Json) : Prop := ∀ n, (integer n).Within v → FitsInt64 n

theorem Plain.of_within {u v : Json} (h : v.Plain) (hu : u.Within v) : u.Plain :=
  fun members name hmembers => h members name (hmembers.trans hu)

theorem Plain.requested?_eq_none {members : List (String × Json)} (h : (object members).Plain) :
    Argument.requested? members = none :=
  Argument.requested?_eq_none_iff.2 fun name => h members name .self

theorem plain_array_iff {items : List Json} : (array items).Plain ↔ ∀ item ∈ items, item.Plain := by
  constructor
  · exact fun h item hitem => h.of_within (.item hitem .self)
  · intro h members name hmembers
    obtain _ | ⟨hitem, hmembers⟩ := hmembers
    exact h _ hitem members name hmembers

theorem plain_object_iff {members : List (String × Json)} : (object members).Plain ↔
    (∀ name, get? members "new" ≠ some (.string name)) ∧ ∀ member ∈ members, member.2.Plain := by
  constructor
  · intro h
    exact ⟨fun name => h members name .self, fun member hmember => h.of_within (.member hmember .self)⟩
  · rintro ⟨hnew, h⟩ members' name hmembers
    obtain _ | _ | ⟨hmember, hmembers⟩ := hmembers
    · exact hnew name
    · exact h _ hmember members' name hmembers

theorem integersFit_integer_iff {n : Int} : (integer n).IntegersFit ↔ FitsInt64 n := by
  constructor
  · exact fun h => h n .self
  · intro h n' hn'
    cases hn'
    exact h

theorem integersFit_array_iff {items : List Json} :
    (array items).IntegersFit ↔ ∀ item ∈ items, item.IntegersFit := by
  constructor
  · exact fun h item hitem n hn => h n (.item hitem hn)
  · intro h n hn
    obtain _ | ⟨hitem, hn⟩ := hn
    exact h _ hitem n hn

theorem integersFit_object_iff {members : List (String × Json)} :
    (object members).IntegersFit ↔ ∀ member ∈ members, member.2.IntegersFit := by
  constructor
  · exact fun h member hmember n hn => h n (.member hmember hn)
  · intro h n hn
    obtain _ | _ | ⟨hmember, hn⟩ := hn
    exact h _ hmember n hn

end Json

namespace Argument

open Json

/-! ## Whole numbers -/

theorem exists_toInt_eq {n : Int} (h : FitsInt64 n) : ∃ k : Int64, k.toInt = n :=
  ⟨Int64.ofInt n, Int64.toInt_ofInt_of_le h.1 (Int.lt_add_one_of_le h.2)⟩

theorem ofInt_of_not_fitsInt64 {n : Int} (h : ¬ FitsInt64 n) : ofInt n = .float (Binary64.ofInt n) := by
  rw [ofInt, if_neg]
  rw [Bool.and_eq_true, decide_eq_true_iff, decide_eq_true_iff]
  exact h

theorem ofInt_eq_integer_iff {n : Int} {k : Int64} : ofInt n = .integer k ↔ k.toInt = n := by
  constructor
  · intro h
    by_cases hn : FitsInt64 n
    · obtain ⟨j, rfl⟩ := exists_toInt_eq hn
      rw [ofInt_toInt] at h
      rw [Argument.integer.inj h]
    · rw [ofInt_of_not_fitsInt64 hn] at h
      cases h
  · rintro rfl
    exact ofInt_toInt k

/-! ## Reading a plain value -/

theorem evaluated_array (items : List Json) : evaluated (.array items) = .list (items.map evaluated) := by
  rw [evaluated, evaluatedItems_eq_map]

theorem ofJson_of_plain {v : Json} (h : v.Plain) : ofJson v = .ok (evaluated v) := by
  induction v using Json.inductionOn with
  | null | bool b | integer n | float x | string s => rfl
  | array items ih =>
      have hitems : ofItems items = .ok (items.map evaluated) := by
        rw [ofItems_eq_ok_iff, List.forall₂_map_right_iff, List.forall₂_same]
        exact fun item hitem => ih item hitem (plain_array_iff.1 h item hitem)
      rw [ofJson_array, hitems, evaluated_array]
      rfl
  | object members ih =>
      have hmembers : ofMembers members = .ok (mapValues evaluated members) := by
        rw [ofMembers_eq_ok_iff, ReadAs, mapValues, List.forall₂_map_right_iff, List.forall₂_same]
        exact fun member hmember => ⟨rfl, ih member hmember ((plain_object_iff.1 h).2 member hmember)⟩
      rw [ofJson_mapping h.requested?_eq_none, hmembers, evaluated_mapping h.requested?_eq_none]
      rfl

theorem evaluated_ne_object {v : Json} (h : v.Plain) (o : Object) : evaluated v ≠ .object o := by
  intro hobject
  cases v with
  | integer n =>
      rw [evaluated, ofInt] at hobject
      split at hobject <;> cases hobject
  | object members =>
      rw [evaluated_mapping h.requested?_eq_none] at hobject
      cases hobject
  | _ => cases hobject

theorem within_evaluated_of_within {u v : Json} (hu : u.Within v) (h : v.Plain) :
    (evaluated u).Within (evaluated v) := by
  induction hu with
  | self => exact .self
  | item hitem _ ih =>
      rw [evaluated_array]
      exact .item (List.mem_map_of_mem hitem) (ih (plain_array_iff.1 h _ hitem))
  | @member members member hmember _ ih =>
      rw [evaluated_mapping h.requested?_eq_none]
      have hentry : (member.1, evaluated member.2) ∈ mapValues evaluated members :=
        List.mem_map_of_mem hmember
      exact .entry hentry (ih ((plain_object_iff.1 h).2 _ hmember))

theorem exists_within_of_within_evaluated {v : Json} (h : v.Plain) {b : Argument}
    (hb : b.Within (evaluated v)) : ∃ u, u.Within v ∧ evaluated u = b := by
  induction v using Json.inductionOn with
  | null | bool n | float x | string s =>
      cases hb
      exact ⟨_, .self, rfl⟩
  | integer n =>
      by_cases hn : FitsInt64 n
      · obtain ⟨k, rfl⟩ := exists_toInt_eq hn
        rw [evaluated, ofInt_toInt] at hb
        cases hb
        exact ⟨_, .self, ofInt_toInt k⟩
      · rw [evaluated, ofInt_of_not_fitsInt64 hn] at hb
        cases hb
        exact ⟨_, .self, ofInt_of_not_fitsInt64 hn⟩
  | array items ih =>
      rw [evaluated_array] at hb
      cases hb with
      | self => exact ⟨_, .self, evaluated_array items⟩
      | item hitem hb =>
          obtain ⟨item, hmem, rfl⟩ := List.mem_map.1 hitem
          obtain ⟨u, hu, rfl⟩ := ih item hmem (plain_array_iff.1 h item hmem) hb
          exact ⟨u, .item hmem hu, rfl⟩
  | object members ih =>
      rw [evaluated_mapping h.requested?_eq_none] at hb
      cases hb with
      | self => exact ⟨_, .self, evaluated_mapping h.requested?_eq_none⟩
      | entry hentry hb =>
          obtain ⟨member, hmem, rfl⟩ := List.mem_map.1 hentry
          obtain ⟨u, hu, rfl⟩ := ih member hmem ((plain_object_iff.1 h).2 member hmem) hb
          exact ⟨u, .member hmem hu, rfl⟩

/-- What stands in the argument of a plain value are the arguments of what stands in the value. -/
theorem within_evaluated_iff {v : Json} (h : v.Plain) {b : Argument} :
    b.Within (evaluated v) ↔ ∃ u, u.Within v ∧ evaluated u = b := by
  constructor
  · exact exists_within_of_within_evaluated h
  · rintro ⟨u, hu, rfl⟩
    exact within_evaluated_of_within hu h

theorem evaluated_eq_integer_iff {v : Json} (h : v.Plain) {k : Int64} :
    evaluated v = .integer k ↔ v = .integer k.toInt := by
  cases v with
  | integer n => rw [evaluated, ofInt_eq_integer_iff, Json.integer.injEq, eq_comm]
  | object members =>
      rw [evaluated_mapping h.requested?_eq_none]
      exact iff_of_false nofun nofun
  | _ => exact iff_of_false nofun nofun

theorem evaluated_eq_float_iff {v : Json} (h : v.Plain) {x : Binary64} : evaluated v = .float x ↔
    v = .float x ∨ ∃ n, v = .integer n ∧ ¬ FitsInt64 n ∧ Binary64.ofInt n = x := by
  cases v with
  | integer n =>
      rw [evaluated]
      by_cases hn : FitsInt64 n
      · obtain ⟨k, rfl⟩ := exists_toInt_eq hn
        simp [ofInt_toInt, hn]
      · simp [ofInt_of_not_fitsInt64 hn, hn]
  | float y => simp [evaluated]
  | object members =>
      rw [evaluated_mapping h.requested?_eq_none]
      simp
  | _ => simp [evaluated]

/-! ## The way back -/

mutual

/-- The JSON value that becomes the argument. What was built is asked for by a request. -/
def toJson : Argument → Json
  | .nil => .null
  | .bool b => .bool b
  | .integer n => .integer n.toInt
  | .float x => .float x
  | .text s => .string s
  | .list items => .array (toJsonItems items)
  | .mapping entries => .object (toJsonMembers entries)
  | .object o => o.request

def toJsonItems : List Argument → List Json
  | [] => []
  | item :: rest => toJson item :: toJsonItems rest

def toJsonMembers : List (String × Argument) → List (String × Json)
  | [] => []
  | (key, value) :: rest => (key, toJson value) :: toJsonMembers rest

end

theorem toJsonItems_eq_map (items : List Argument) : toJsonItems items = items.map toJson := by
  induction items with
  | nil => rfl
  | cons item rest ih => rw [toJsonItems, ih, List.map_cons]

theorem toJsonMembers_eq_mapValues (entries : Mapping) :
    toJsonMembers entries = mapValues toJson entries := by
  induction entries with
  | nil => rfl
  | cons entry rest ih =>
      rw [toJsonMembers, ih]
      rfl

/-- A plain value comes back as it was, unless a whole number in it is too large. -/
theorem toJson_evaluated {v : Json} (h : v.Plain) (hfit : v.IntegersFit) : (evaluated v).toJson = v := by
  induction v using Json.inductionOn with
  | null | bool b | float x | string s => rfl
  | integer n =>
      obtain ⟨k, rfl⟩ := exists_toInt_eq (integersFit_integer_iff.1 hfit)
      rw [evaluated, ofInt_toInt, toJson]
  | array items ih =>
      have hitems : ∀ item ∈ items, (evaluated item).toJson = item := fun item hitem =>
        ih item hitem (plain_array_iff.1 h item hitem) (integersFit_array_iff.1 hfit item hitem)
      rw [evaluated_array, toJson, toJsonItems_eq_map, List.map_map]
      exact congrArg Json.array ((List.map_congr_left hitems).trans (List.map_id' items))
  | object members ih =>
      have hmembers : ∀ member ∈ members, (member.1, (evaluated member.2).toJson) = member :=
        fun member hmember => Prod.ext rfl (ih member hmember ((plain_object_iff.1 h).2 member hmember)
          (integersFit_object_iff.1 hfit member hmember))
      rw [evaluated_mapping h.requested?_eq_none, toJson, toJsonMembers_eq_mapValues, mapValues, mapValues,
        List.map_map]
      exact congrArg Json.object ((List.map_congr_left hmembers).trans (List.map_id' members))

/-! ## What is kept of a value -/

/-- The argument is what a plain value becomes, and everything in the value is in it. -/
structure KeptFrom (v : Json) (a : Argument) : Prop where
  read : ofJson v = .ok a
  parts : ∀ b : Argument, b.Within a ↔ ∃ u : Json, u.Within v ∧ ofJson u = .ok b
  noObject : ∀ o, ¬ (object o).Within a
  array : ∀ items, v = .array items →
    ∃ as, a = .list as ∧ List.Forall₂ (fun item b => ofJson item = .ok b) items as
  mapping : ∀ members, v = .object members → ∃ m, a = .mapping m ∧ ReadAs ofJson members m
  integers : ∀ k : Int64, (integer k).Within a ↔ (Json.integer k.toInt).Within v
  large : ∀ n, (Json.integer n).Within v → ¬ FitsInt64 n →
    ofJson (.integer n) = .ok (.float (Binary64.ofInt n))
  floats : ∀ x, (float x).Within a ↔ (Json.float x).Within v ∨
    ∃ n, (Json.integer n).Within v ∧ ¬ FitsInt64 n ∧ Binary64.ofInt n = x
  back : v.IntegersFit → a.toJson = v

theorem keptFrom_evaluated {v : Json} (h : v.Plain) : KeptFrom v (evaluated v) where
  read := ofJson_of_plain h
  parts b := by
    rw [within_evaluated_iff h]
    refine exists_congr fun u => and_congr_right fun hu => ?_
    rw [ofJson_of_plain (h.of_within hu), Except.ok.injEq]
  noObject o ho := by
    obtain ⟨u, hu, hobject⟩ := exists_within_of_within_evaluated h ho
    exact evaluated_ne_object (h.of_within hu) o hobject
  array items hv := by
    subst hv
    refine ⟨_, evaluated_array items, ?_⟩
    rw [List.forall₂_map_right_iff, List.forall₂_same]
    exact fun item hitem => ofJson_of_plain (plain_array_iff.1 h item hitem)
  mapping members hv := by
    subst hv
    refine ⟨_, evaluated_mapping h.requested?_eq_none, ?_⟩
    rw [ReadAs, mapValues, List.forall₂_map_right_iff, List.forall₂_same]
    exact fun member hmember => ⟨rfl, ofJson_of_plain ((plain_object_iff.1 h).2 member hmember)⟩
  integers k := by
    rw [within_evaluated_iff h]
    constructor
    · rintro ⟨u, hu, hinteger⟩
      rwa [(evaluated_eq_integer_iff (h.of_within hu)).1 hinteger] at hu
    · exact fun hu => ⟨_, hu, (evaluated_eq_integer_iff (h.of_within hu)).2 rfl⟩
  large n _ hn := congrArg Except.ok (ofInt_of_not_fitsInt64 hn)
  floats x := by
    rw [within_evaluated_iff h]
    constructor
    · rintro ⟨u, hu, hfloat⟩
      rcases (evaluated_eq_float_iff (h.of_within hu)).1 hfloat with rfl | ⟨n, rfl, hn⟩
      · exact Or.inl hu
      · exact Or.inr ⟨n, hu, hn⟩
    · rintro (hu | ⟨n, hu, hn⟩)
      · exact ⟨_, hu, rfl⟩
      · exact ⟨_, hu, (evaluated_eq_float_iff (h.of_within hu)).2 (Or.inr ⟨n, rfl, hn⟩)⟩
  back := toJson_evaluated h

/-- A value without requests becomes an argument in which nothing was built and everything is kept: items
and members stay in their order, members under their keys, and whole numbers of at most 64 bits and doubles
are what they were. Larger whole numbers become the nearest doubles. Without such numbers the value can be
told from the argument, so two of these values never become the same. -/
theorem plain_data_unharmed {v : Json} (hv : v.Plain) :
    (∃ a, KeptFrom v a) ∧
      ∀ w : Json, w.Plain → v.IntegersFit → w.IntegersFit → ofJson v = ofJson w → v = w := by
  refine ⟨⟨_, keptFrom_evaluated hv⟩, fun w hw hvfit hwfit h => ?_⟩
  rw [ofJson_of_plain hv, ofJson_of_plain hw] at h
  rw [← toJson_evaluated hv hvfit, ← toJson_evaluated hw hwfit, Except.ok.inj h]

/-- An object whose member `new` is no text is data like any other. -/
theorem plain_data_unharmed_new_number :
    let v : Json := .object [("new", .array [.integer (-9223372036854775808), .null])]
    let w : Json := .object [("new", .integer (-9223372036854775808))]
    v.Plain ∧ w.Plain ∧ (∃ a, KeptFrom v a) ∧ ofJson v ≠ ofJson w := by
  intro v w
  have hinteger : (Json.integer (-9223372036854775808)).Plain := nofun
  have hnull : Json.null.Plain := nofun
  have hv : v.Plain := by
    simp [v, plain_object_iff, plain_array_iff, hinteger, hnull]
  have hw : w.Plain := by
    simp [w, plain_object_iff, hinteger]
  have hleast : (Json.integer (-9223372036854775808)).IntegersFit :=
    integersFit_integer_iff.2 ⟨by decide, by decide⟩
  have hnone : Json.null.IntegersFit := nofun
  have hvfit : v.IntegersFit := by
    simp [v, integersFit_object_iff, integersFit_array_iff, hleast, hnone]
  have hwfit : w.IntegersFit := by
    simp [w, integersFit_object_iff, hleast]
  obtain ⟨hkept, hinjective⟩ := plain_data_unharmed hv
  refine ⟨hv, hw, hkept, fun h => ?_⟩
  have heq := hinjective w hw hvfit hwfit h
  simp [v, w] at heq

/-- Two whole numbers of more than 64 bits may become the same double. -/
example : ofJson (.integer 9223372036854775808) = ofJson (.integer 9223372036854775809) := rfl

end Argument

end PackageActions
