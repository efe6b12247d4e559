import PackageActions.Config.Decode
import PackageActions.Decoding.Toml
import PackageActions.Proofs.Decoding
import PackageActions.Proofs.Toml.Order

/-!
# What is read as a section

A format is named by a text, or by the only key of a table that holds nothing (`Toml.Names`). What a general
section says about showing results is read from a table or from an array of at most one value
(`OutputFormat.GivenBy`), and the settings of a repository from a table of at most two entries or from an array
of one or two values (`RepositoryConfig.ReadFrom`). There are no other values that they are read from.
-/

namespace PackageActions

open Decoding Dictionary

/-! ## Names and texts -/

namespace Toml

/-- The value names a case. What stands beside the name may be empty only. -/
inductive Names : Toml → String → Prop where
  | text (name : String) : Names (.string name) name
  | emptyArray (name : String) : Names (.table [(name, .array [])]) name
  | emptyTable (name : String) : Names (.table [(name, .table [])]) name

/-- The value is read as a text. A date-time is read as it is written. -/
inductive Tells : Toml → String → Prop where
  | text (s : String) : Tells (.string s) s
  | datetime (t : Datetime) : Tells (.datetime t) t.text

theorem nothing_some_eq_ok_iff {v : Toml} :
    nothing (some v) = .ok () ↔ v = .array [] ∨ v = .table [] := by
  cases v with
  | array items => cases items <;> simp [nothing, refuse]
  | table entries => cases entries <;> simp [nothing, refuse]
  | string s | integer n | float x | boolean b | datetime t => simp [nothing, refuse]

theorem names_iff {v : Toml} {name : String} :
    v.Names name ↔ ∃ payload, choice v = .ok ⟨name, payload⟩ ∧ nothing payload = .ok () := by
  constructor
  · rintro (_ | _ | _)
    · exact ⟨none, rfl, rfl⟩
    · exact ⟨some (.array []), rfl, rfl⟩
    · exact ⟨some (.table []), rfl, rfl⟩
  · rintro ⟨payload, hchoice, hnothing⟩
    unfold choice at hchoice
    split at hchoice
    · obtain ⟨rfl, rfl⟩ := Choice.mk.inj (Except.ok.inj hchoice)
      exact .text _
    · obtain ⟨rfl, rfl⟩ := Choice.mk.inj (Except.ok.inj hchoice)
      rcases nothing_some_eq_ok_iff.1 hnothing with rfl | rfl
      · exact .emptyArray _
      · exact .emptyTable _
    all_goals cases hchoice

theorem oneOf_eq_ok_iff {β : Type} {cases : List (String × β)} {v : Toml} {b : β} :
    oneOf cases v = .ok b ↔ ∃ name, v.Names name ∧ cases.lookup name = some b := by
  simp only [names_iff]
  constructor
  · intro h
    obtain ⟨⟨name, payload⟩, hchoice, h⟩ := Except.bind_eq_ok_iff.1 h
    split at h
    · cases h
    · rename_i hlookup
      obtain ⟨_, hnothing, h⟩ := Except.bind_eq_ok_iff.1 h
      obtain rfl := Except.ok.inj h
      exact ⟨name, ⟨payload, hchoice, hnothing⟩, hlookup⟩
  · rintro ⟨name, ⟨payload, hchoice, hnothing⟩, hlookup⟩
    refine Except.bind_ok hchoice ?_
    simp only [hlookup]
    exact Except.bind_ok hnothing rfl

theorem path?_eq_ok_iff {v : Toml} {location : Option String} :
    path? v = .ok location ↔ ∃ s, v.Tells s ∧ location = some s := by
  constructor
  · intro h
    cases v with
    | string s => exact ⟨s, .text s, (Except.ok.inj h).symm⟩
    | datetime t => exact ⟨t.text, .datetime t, (Except.ok.inj h).symm⟩
    | integer n | float x | boolean b | array items | table entries => cases h
  · rintro ⟨s, htells, rfl⟩
    cases htells <;> rfl

theorem dictionary_eq_ok_iff {β : Type} {decode : Toml → Except DecodeError β} {v : Toml}
    {entries' : Dictionary β} :
    dictionary decode v = .ok entries' ↔ ∃ entries, v = .table entries ∧ ReadAs decode entries entries' := by
  rw [Decoding.dictionary_eq_ok_iff]
  refine exists_congr fun entries => and_congr_left fun _ => ?_
  cases v with
  | table members => simp [SelfDescribing.shape, shape]
  | string s | integer n | float x | boolean b | datetime t | array items =>
      simp [SelfDescribing.shape, shape]

end Toml

/-! ## Formats -/

/-- Cases listed by their own names. -/
theorem Decoding.lookup_named_eq_some_iff {γ : Type} {name : γ → String} (hname : Function.Injective name)
    {all : List γ} {key : String} {a : γ} :
    (all.map fun a => (name a, a)).lookup key = some a ↔ a ∈ all ∧ name a = key := by
  induction all with
  | nil => simp
  | cons first rest ih =>
      rw [List.map_cons, List.lookup_cons, List.mem_cons]
      by_cases hkey : key = name first
      · subst hkey
        simp only [beq_self_eq_true, Option.some.injEq, hname.eq_iff]
        exact ⟨fun h => ⟨.inl h.symm, h.symm⟩, fun h => h.2.symm⟩
      · have hne : ¬ (a = first ∧ name a = key) := fun ⟨ha, hk⟩ => hkey (by rw [← hk, ha])
        simp only [beq_eq_false_iff_ne.2 hkey, ih, or_and_right, hne, false_or]

theorem Toml.oneOf_named_eq_ok_iff {γ : Type} {name : γ → String} (hname : Function.Injective name)
    {all : List γ} (hall : ∀ a, a ∈ all) {v : Toml} {a : γ} :
    oneOf (all.map fun a => (name a, a)) v = .ok a ↔ v.Names (name a) := by
  rw [oneOf_eq_ok_iff]
  simp only [lookup_named_eq_some_iff hname, hall, true_and, exists_eq_right']

theorem OutputFormat.name_injective : Function.Injective name := by
  intro format format'
  cases format <;> cases format' <;> simp [name]

theorem OutputFormat.mem_all (format : OutputFormat) : format ∈ all := by
  cases format <;> decide

theorem OutputFormat.decode_eq_ok_iff {v : Toml} {format : OutputFormat} :
    decode v = .ok format ↔ v.Names format.name :=
  Toml.oneOf_named_eq_ok_iff name_injective mem_all

theorem RepositoryFormat.name_injective : Function.Injective name := by
  intro format format'
  cases format <;> cases format' <;> simp [name]

theorem RepositoryFormat.mem_all (format : RepositoryFormat) : format ∈ all := by
  cases format <;> decide

theorem RepositoryFormat.decode_eq_ok_iff {v : Toml} {format : RepositoryFormat} :
    decode v = .ok format ↔ v.Names format.name :=
  Toml.oneOf_named_eq_ok_iff name_injective mem_all

/-! ## The general section -/

/-- The values that a general section is read from, and the format that each gives. -/
inductive OutputFormat.GivenBy : Toml → OutputFormat → Prop where
  | noEntry : GivenBy (.table []) .plain
  | entry {v : Toml} {format : OutputFormat} (hv : v.Names format.name) :
      GivenBy (.table [("default_output", v)]) format
  | noItem : GivenBy (.array []) .plain
  | item {v : Toml} {format : OutputFormat} (hv : v.Names format.name) : GivenBy (.array [v]) format

theorem Config.generalOfMembers_eq_ok_iff {members : Toml.Table} (hsorted : Sorted members)
    {format : OutputFormat} :
    generalOfMembers members = .ok format ↔ format.GivenBy (.table members) := by
  constructor
  · intro h
    obtain ⟨_, hcheck, hread⟩ := Except.bind_eq_ok_iff.1 h
    have hkeys : (keys members).Sublist ["default_output"] :=
      keys_sublist hsorted (List.pairwise_singleton _ _) (keys_of_checkMembers hcheck)
    obtain hkeys | ⟨v, rest, rfl, hrest⟩ := keys_sublist_cons hkeys
    · obtain rfl := eq_nil_of_keys_sublist hkeys
      obtain rfl := Except.ok.inj hread
      exact .noEntry
    · obtain rfl := eq_nil_of_keys_sublist hrest
      exact .entry (OutputFormat.decode_eq_ok_iff.1 (within_eq_ok_iff.1 hread))
  · intro h
    cases h with
    | noEntry => rfl
    | entry hv =>
        have hread := OutputFormat.decode_eq_ok_iff.2 hv
        exact Except.bind_ok (checkMembers_cons_ok rfl hread rfl) (within_eq_ok_iff.2 hread)

theorem Config.generalOfItems_eq_ok_iff {items : List Toml} {format : OutputFormat} :
    generalOfItems items = .ok format ↔ format.GivenBy (.array items) := by
  constructor
  · intro h
    obtain ⟨_, hread, h⟩ := Except.bind_eq_ok_iff.1 h
    obtain ⟨_, hend, h⟩ := Except.bind_eq_ok_iff.1 h
    obtain rfl := Except.ok.inj h
    match items with
    | [] =>
        obtain rfl := Except.ok.inj hread
        exact .noItem
    | [v] => exact .item (OutputFormat.decode_eq_ok_iff.1 hread)
    | _ :: _ :: _ => cases hend
  · intro h
    cases h with
    | noItem => rfl
    | item hv => exact Except.bind_ok (OutputFormat.decode_eq_ok_iff.2 hv) rfl

theorem Config.decodeGeneral_eq_ok_iff {v : Toml} (hsorted : v.Sorted) {format : OutputFormat} :
    decodeGeneral v = .ok format ↔ format.GivenBy v := by
  cases v with
  | table members => exact generalOfMembers_eq_ok_iff (Toml.sorted_table_iff.1 hsorted).sorted
  | array items => exact generalOfItems_eq_ok_iff
  | string s | integer n | float x | boolean b | datetime t =>
      exact iff_of_false (fun h => by cases h) (fun h => by cases h)

/-! ## Repositories -/

namespace RepositoryConfig

/-- The values that the settings of a repository are read from. -/
inductive ReadFrom : Toml → RepositoryConfig → Prop where
  | format {v : Toml} {format : RepositoryFormat} (hv : v.Names format.name) :
      ReadFrom (.table [("format", v)]) ⟨format, none⟩
  | formatAndLocation {v w : Toml} {format : RepositoryFormat} {location : String}
      (hv : v.Names format.name) (hw : w.Tells location) :
      ReadFrom (.table [("format", v), ("location", w)]) ⟨format, some location⟩
  | item {v : Toml} {format : RepositoryFormat} (hv : v.Names format.name) :
      ReadFrom (.array [v]) ⟨format, none⟩
  | items {v w : Toml} {format : RepositoryFormat} {location : String} (hv : v.Names format.name)
      (hw : w.Tells location) : ReadFrom (.array [v, w]) ⟨format, some location⟩

theorem ofMembers_eq_ok_iff {members : Toml.Table} (hsorted : Sorted members) {c : RepositoryConfig} :
    ofMembers members = .ok c ↔ c.ReadFrom (.table members) := by
  constructor
  · intro h
    obtain ⟨_, hcheck, h⟩ := Except.bind_eq_ok_iff.1 h
    obtain ⟨format, hformat, h⟩ := Except.bind_eq_ok_iff.1 h
    obtain ⟨location, hlocation, h⟩ := Except.bind_eq_ok_iff.1 h
    obtain rfl := Except.ok.inj h
    have hkeys : (keys members).Sublist ["format", "location"] :=
      keys_sublist hsorted (by decide) (keys_of_checkMembers hcheck)
    obtain hkeys | ⟨v, rest, rfl, hrest⟩ := keys_sublist_cons hkeys
    · -- the format is missing
      obtain hkeys | ⟨w, rest, rfl, hrest⟩ := keys_sublist_cons hkeys
      · obtain rfl := eq_nil_of_keys_sublist hkeys
        cases hformat
      · obtain rfl := eq_nil_of_keys_sublist hrest
        cases hformat
    · have hv : v.Names format.name := RepositoryFormat.decode_eq_ok_iff.1 (within_eq_ok_iff.1 hformat)
      obtain hkeys | ⟨w, rest, rfl, hlast⟩ := keys_sublist_cons hrest
      · obtain rfl := eq_nil_of_keys_sublist hkeys
        obtain rfl := Except.ok.inj hlocation
        exact .format hv
      · obtain rfl := eq_nil_of_keys_sublist hlast
        obtain ⟨s, hw, rfl⟩ := Toml.path?_eq_ok_iff.1 (within_eq_ok_iff.1 hlocation)
        exact .formatAndLocation hv hw
  · intro h
    cases h with
    | format hv =>
        have hformat := RepositoryFormat.decode_eq_ok_iff.2 hv
        refine Except.bind_ok (checkMembers_cons_ok rfl hformat rfl) ?_
        exact Except.bind_ok (within_eq_ok_iff.2 hformat) rfl
    | formatAndLocation hv hw =>
        have hformat := RepositoryFormat.decode_eq_ok_iff.2 hv
        have hlocation := Toml.path?_eq_ok_iff.2 ⟨_, hw, rfl⟩
        refine Except.bind_ok
          (checkMembers_cons_ok rfl hformat (checkMembers_cons_ok rfl hlocation rfl)) ?_
        exact Except.bind_ok (within_eq_ok_iff.2 hformat) (Except.bind_ok (within_eq_ok_iff.2 hlocation) rfl)

theorem ofItems_eq_ok_iff {items : List Toml} {c : RepositoryConfig} :
    ofItems items = .ok c ↔ c.ReadFrom (.array items) := by
  constructor
  · intro h
    obtain ⟨format, hformat, h⟩ := Except.bind_eq_ok_iff.1 h
    obtain ⟨location, hlocation, h⟩ := Except.bind_eq_ok_iff.1 h
    obtain ⟨_, hend, h⟩ := Except.bind_eq_ok_iff.1 h
    obtain rfl := Except.ok.inj h
    match items with
    | [] => cases hformat
    | [v] =>
        obtain rfl := Except.ok.inj hlocation
        exact .item (RepositoryFormat.decode_eq_ok_iff.1 hformat)
    | [v, w] =>
        obtain ⟨s, hw, rfl⟩ := Toml.path?_eq_ok_iff.1 hlocation
        exact .items (RepositoryFormat.decode_eq_ok_iff.1 hformat) hw
    | _ :: _ :: _ :: _ => cases hend
  · intro h
    cases h with
    | item hv => exact Except.bind_ok (RepositoryFormat.decode_eq_ok_iff.2 hv) rfl
    | items hv hw =>
        have hlocation := Toml.path?_eq_ok_iff.2 ⟨_, hw, rfl⟩
        exact Except.bind_ok (RepositoryFormat.decode_eq_ok_iff.2 hv) (Except.bind_ok hlocation rfl)

theorem decode_eq_ok_iff {v : Toml} (hsorted : v.Sorted) {c : RepositoryConfig} :
    decode v = .ok c ↔ c.ReadFrom v := by
  cases v with
  | table members => exact ofMembers_eq_ok_iff (Toml.sorted_table_iff.1 hsorted).sorted
  | array items => exact ofItems_eq_ok_iff
  | string s | integer n | float x | boolean b | datetime t =>
      exact iff_of_false (fun h => by cases h) (fun h => by cases h)

end RepositoryConfig

end PackageActions
