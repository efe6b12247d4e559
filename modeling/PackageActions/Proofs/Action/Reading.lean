import PackageActions.Proofs.Object

/-!
# What is read as an action

An action is read from an object with a tag, or from an array that begins with the tag. The object may hold
anything else besides; the array may not go on behind what the action carries. What a fetch carries is read
strictly in both: no foreign keys, no other values than flags, and no third item. `Action.ReadFrom` lists the
values that actions are read from, and there are no others (`Action.read_exactly`).
-/

namespace PackageActions

open Decoding Dictionary

/-! ## Options of a fetch -/

namespace FetchOptions

/-- The values that options of a fetch are read from. A flag that is missing is off. -/
inductive ReadFrom : Json → FetchOptions → Prop where
  | members {members : List (String × Json)} {o : FetchOptions}
      (hflags : ∀ member ∈ members, member.1 ∈ FetchOptions.keys ∧ ∃ b, member.2 = .bool b)
      (hsafe : (get? members "safe_resume").getD (.bool false) = .bool o.safeResume)
      (hfetch : (get? members "fetch_unneeded").getD (.bool false) = .bool o.fetchUnneeded) :
      ReadFrom (.object members) o
  | items {flags : List Bool} (hlength : flags.length ≤ 2) :
      ReadFrom (.array (flags.map .bool)) ⟨flags.getD 0 false, flags.getD 1 false⟩

theorem checkMembers_keys_eq_ok_iff {members : List (String × Json)} :
    checkMembers (FetchOptions.keys.map fun key => (key, check boolean)) .refused members = .ok () ↔
      ∀ member ∈ members, member.1 ∈ FetchOptions.keys ∧ ∃ b, member.2 = .bool b := by
  simp only [checkMembers_eq_ok_iff, checkMember_refused_eq_ok_iff, lookup_map_eq_some_iff]
  refine forall₂_congr fun member _ => ⟨?_, ?_⟩
  · rintro ⟨ok, ⟨hkey, rfl⟩, hok⟩
    exact ⟨hkey, Json.check_boolean_eq_ok_iff.1 hok⟩
  · rintro ⟨hkey, hflag⟩
    exact ⟨_, ⟨hkey, rfl⟩, Json.check_boolean_eq_ok_iff.2 hflag⟩

theorem ofMembers_eq_ok_iff {members : List (String × Json)} {o : FetchOptions} :
    ofMembers members = .ok o ↔ o.ReadFrom (.object members) := by
  unfold ofMembers
  simp only [Except.bind_eq_ok_iff, Json.optional_boolean_eq_ok_iff]
  constructor
  · rintro ⟨_, hcheck, safeResume, hsafe, fetchUnneeded, hfetch, h⟩
    obtain rfl := Except.ok.inj h
    exact .members (checkMembers_keys_eq_ok_iff.1 hcheck) hsafe hfetch
  · intro h
    cases h with
    | members hflags hsafe hfetch =>
        exact ⟨(), checkMembers_keys_eq_ok_iff.2 hflags, _, hsafe, _, hfetch, rfl⟩

/-- Two flags are read, whether they are there or not, and nothing behind them. -/
theorem ofItems_eq_ok_iff {surplus : Surplus} {items : List Json} {o : FetchOptions} :
    ofItems surplus items = .ok o ↔ o.ReadFrom (.array items) := by
  constructor
  · intro h
    obtain ⟨safeResume, hsafe, h⟩ := Except.bind_eq_ok_iff.1 h
    obtain ⟨fetchUnneeded, hfetch, h⟩ := Except.bind_eq_ok_iff.1 h
    obtain ⟨_, hend, h⟩ := Except.bind_eq_ok_iff.1 h
    obtain rfl := Except.ok.inj h
    have hlength : items.length ≤ 2 := atMost_eq_ok_iff.1 hend
    match items with
    | [] =>
        obtain rfl := Except.ok.inj hsafe
        obtain rfl := Except.ok.inj hfetch
        exact @ReadFrom.items [] hlength
    | [v] =>
        obtain rfl := Json.boolean_eq_ok_iff.1 hsafe
        obtain rfl := Except.ok.inj hfetch
        exact @ReadFrom.items [safeResume] hlength
    | [v, w] =>
        obtain rfl := Json.boolean_eq_ok_iff.1 hsafe
        obtain rfl := Json.boolean_eq_ok_iff.1 hfetch
        exact @ReadFrom.items [safeResume, fetchUnneeded] hlength
  · intro h
    cases h with
    | @items flags hlength =>
        match flags with
        | [] => rfl
        | [a] => rfl
        | [a, b] => rfl

theorem decode_eq_ok_iff {surplus : Surplus} {v : Json} {o : FetchOptions} :
    decode surplus v = .ok o ↔ o.ReadFrom v := by
  cases v with
  | object members => exact ofMembers_eq_ok_iff
  | array items => exact ofItems_eq_ok_iff
  | null | bool b | integer n | float x | string s =>
      exact iff_of_false (fun h => by cases h) (fun h => by cases h)

end FetchOptions

/-! ## Kinds -/

theorem ActionKind.decode_string_eq_ok_iff {s : String} {kind : ActionKind} :
    decode (.string s) = .ok kind ↔ s = kind.name := by
  constructor
  · intro h
    obtain ⟨kind', -, heq⟩ := List.mem_map.1 (Json.mem_of_oneOf_string h)
    obtain ⟨rfl, rfl⟩ := Prod.mk.inj heq
    rfl
  · rintro rfl
    cases kind <;> rfl

/-! ## Actions -/

namespace Action

/-- The values that actions are read from. -/
inductive ReadFrom : Json → Action → Prop where
  | infoMembers {members : List (String × Json)} (htag : get? members "action" = some (.string "info")) :
      ReadFrom (.object members) .info
  | configMembers {members : List (String × Json)}
      (htag : get? members "action" = some (.string "config")) : ReadFrom (.object members) .config
  | fetchMembers {members : List (String × Json)} {v : Json} {o : FetchOptions}
      (htag : get? members "action" = some (.string "fetch"))
      (hoptions : get? members "options" = some v) (ho : o.ReadFrom v) :
      ReadFrom (.object members) (.fetch o)
  | infoItems : ReadFrom (.array [.string "info"]) .info
  | configItems : ReadFrom (.array [.string "config"]) .config
  | fetchItems {v : Json} {o : FetchOptions} (ho : o.ReadFrom v) :
      ReadFrom (.array [.string "fetch", v]) (.fetch o)

theorem tagOf_eq_ok_iff {v : Json} {kind : ActionKind} : tagOf v = .ok kind ↔ v = .string kind.name := by
  cases v with
  | string s =>
      rw [Json.string.injEq]
      exact ActionKind.decode_string_eq_ok_iff
  | null | bool b | integer n | float x | array items | object members =>
      exact iff_of_false (fun h => by cases h) (fun h => by cases h)

theorem decode_object_eq_ok_iff {members : List (String × Json)} {a : Action} :
    decode (.object members) = .ok a ↔ a.ReadFrom (.object members) := by
  have hdecode : decode (.object members) = (do
      let kind ← required "action" tagOf members
      ofMembers kind members) := rfl
  simp only [hdecode, Except.bind_eq_ok_iff, required_eq_ok_iff, tagOf_eq_ok_iff]
  constructor
  · rintro ⟨kind, ⟨_, htag, rfl⟩, h⟩
    cases kind with
    | fetch =>
        obtain ⟨o, ho, h⟩ := Except.bind_eq_ok_iff.1 h
        obtain rfl := Except.ok.inj h
        obtain ⟨v, hv, ho⟩ := required_eq_ok_iff.1 ho
        exact .fetchMembers htag hv (FetchOptions.decode_eq_ok_iff.1 ho)
    | info =>
        obtain rfl := Except.ok.inj h
        exact .infoMembers htag
    | config =>
        obtain rfl := Except.ok.inj h
        exact .configMembers htag
  · intro h
    cases h with
    | infoMembers htag => exact ⟨.info, ⟨_, htag, rfl⟩, rfl⟩
    | configMembers htag => exact ⟨.config, ⟨_, htag, rfl⟩, rfl⟩
    | fetchMembers htag hoptions ho =>
        refine ⟨.fetch, ⟨_, htag, rfl⟩, Except.bind_ok ?_ rfl⟩
        exact required_eq_ok_iff.2 ⟨_, hoptions, FetchOptions.decode_eq_ok_iff.2 ho⟩

/-- An array holds the tag, then what the action carries, and nothing else. -/
theorem decode_array_eq_ok_iff {items : List Json} {a : Action} :
    decode (.array items) = .ok a ↔ a.ReadFrom (.array items) := by
  constructor
  · intro h
    cases items with
    | nil => cases h
    | cons tag rest =>
        obtain ⟨kind, htag, hrest⟩ := Except.bind_eq_ok_iff.1 h
        obtain rfl := tagOf_eq_ok_iff.1 htag
        cases kind with
        | fetch =>
            obtain ⟨o, ho, hrest⟩ := Except.bind_eq_ok_iff.1 hrest
            obtain ⟨_, hend, ha⟩ := Except.bind_eq_ok_iff.1 hrest
            obtain rfl := Except.ok.inj ha
            obtain ⟨v, hv, ho⟩ := requiredItem_eq_ok_iff.1 ho
            have hlength : rest.length ≤ 1 := atMost_eq_ok_iff.1 hend
            match rest with
            | [w] =>
                obtain rfl := Option.some.inj hv
                exact .fetchItems (FetchOptions.decode_eq_ok_iff.1 ho)
        | info =>
            obtain ⟨_, hend, ha⟩ := Except.bind_eq_ok_iff.1 hrest
            obtain rfl := Except.ok.inj ha
            obtain rfl := List.eq_nil_of_length_eq_zero (Nat.le_zero.1 (atMost_eq_ok_iff.1 hend))
            exact .infoItems
        | config =>
            obtain ⟨_, hend, ha⟩ := Except.bind_eq_ok_iff.1 hrest
            obtain rfl := Except.ok.inj ha
            obtain rfl := List.eq_nil_of_length_eq_zero (Nat.le_zero.1 (atMost_eq_ok_iff.1 hend))
            exact .configItems
  · intro h
    cases h with
    | infoItems => rfl
    | configItems => rfl
    | fetchItems ho =>
        refine Except.bind_ok (a := ActionKind.fetch) rfl (Except.bind_ok ?_ rfl)
        exact requiredItem_eq_ok_iff.2 ⟨_, rfl, FetchOptions.decode_eq_ok_iff.2 ho⟩

theorem decode_eq_ok_iff {v : Json} {a : Action} : decode v = .ok a ↔ a.ReadFrom v := by
  cases v with
  | object members => exact decode_object_eq_ok_iff
  | array items => exact decode_array_eq_ok_iff
  | null | bool b | integer n | float x | string s =>
      exact iff_of_false (fun h => by cases h) (fun h => by cases h)

/-- Of an object only the tag and the options are looked at. -/
theorem decode_object_congr {members members' : List (String × Json)}
    (htag : get? members' "action" = get? members "action")
    (hoptions : get? members' "options" = get? members "options") :
    decode (.object members') = decode (.object members) := by
  have hkind : required "action" tagOf members' = required "action" tagOf members := by
    rw [required, required, htag]
  have hcarried : ∀ kind, ofMembers kind members' = ofMembers kind members := by
    intro kind
    cases kind with
    | fetch => simp only [ofMembers, required, hoptions]
    | info => rfl
    | config => rfl
  simp only [decode, hkind, hcarried]

/-- Actions are read from the values listed and from no others; which other members an object has makes no
difference, not even to the error if it is refused. An action that is written is read back. -/
theorem read_exactly :
    (∀ v a, decode v = .ok a ↔ a.ReadFrom v) ∧
      (∀ members members', (∀ key, key = "action" ∨ key = "options" →
          get? members' key = get? members key) →
        decode (.object members') = decode (.object members)) ∧
      ∀ a : Action, Json.Rereads decode a.toJson a := by
  refine ⟨fun v a => decode_eq_ok_iff, fun members members' h => ?_, fun a => ?_⟩
  · exact decode_object_congr (h _ (Or.inl rfl)) (h _ (Or.inr rfl))
  · exact Json.rereads_of_portable (Object.portable_content (.action a) 125) a.decode_sorted_toJson

/-- Flags may be missing at the end of an array. -/
example : decode (.array [.string "fetch", .array [.bool true]]) = .ok (.fetch ⟨true, false⟩) := rfl

end Action

end PackageActions
