import PackageActions.Proofs.Argument.Nesting
import PackageActions.Proofs.Argument.Refusals
import PackageActions.Proofs.Config.Sections

/-!
# TOML values as arguments

A TOML value becomes an argument part by part: what stands in the argument are the arguments of what stands in
the value (`within_toArgument_iff`), and so nothing in it was built and nothing in it is nil. JSON values
become arguments in the same way, unless they are requests. A TOML value whose parts all have a counterpart in
JSON, and of which no table looks like a request (`Toml.JsonLike`), therefore becomes the argument that its
counterpart becomes (`ofJson_toJson`).

Of the section on fetches this means that it is read as named arguments are, except that a key `new` has no
meaning of its own there: like any other key that names no option it is refused.
-/

namespace PackageActions

open Decoding Dictionary

namespace Toml

/-! ## Parts of a value -/

/-- A value stands somewhere in another one, or is that value. -/
inductive Within (u : Toml) : Toml → Prop where
  | self : Within u u
  | item {items : List Toml} {item : Toml} (hitem : item ∈ items) (hu : Within u item) :
      Within u (.array items)
  | entry {entries : Table} {entry : String × Toml} (hentry : entry ∈ entries)
      (hu : Within u entry.2) : Within u (.table entries)

theorem Within.trans {s t u : Toml} (hst : s.Within t) (htu : t.Within u) : s.Within u := by
  induction htu with
  | self => exact hst
  | item hitem _ ih => exact .item hitem ih
  | entry hentry _ ih => exact .entry hentry ih

/-! ## Arguments of the parts -/

theorem toArguments_eq_map (items : List Toml) : toArguments items = items.map toArgument := by
  induction items with
  | nil => rfl
  | cons item rest ih => rw [toArguments, ih, List.map_cons]

theorem toNamedArguments_eq_mapValues (entries : Table) :
    toNamedArguments entries = mapValues toArgument entries := by
  induction entries with
  | nil => rfl
  | cons entry rest ih =>
      rw [toNamedArguments, ih]
      rfl

theorem keys_toNamedArguments (entries : Table) : keys (toNamedArguments entries) = keys entries := by
  rw [toNamedArguments_eq_mapValues, keys_mapValues]

theorem sorted_toNamedArguments {entries : Table} (h : Dictionary.Sorted entries) :
    Dictionary.Sorted (toNamedArguments entries) := by
  rw [toNamedArguments_eq_mapValues]
  exact sorted_mapValues h

theorem toArgument_array (items : List Toml) :
    (array items).toArgument = .list (items.map toArgument) := by
  rw [toArgument, toArguments_eq_map]

theorem toArgument_table (entries : Table) :
    (table entries).toArgument = .mapping (mapValues toArgument entries) := by
  rw [toArgument, toNamedArguments_eq_mapValues]

theorem toArgument_eq_bool_iff {v : Toml} {b : Bool} : v.toArgument = .bool b ↔ v = .boolean b := by
  cases v <;> simp [toArgument]

theorem toArgument_ne_nil (t : Toml) : t.toArgument ≠ .nil := by
  cases t <;> simp [toArgument]

theorem toArgument_ne_object (t : Toml) (o : Object) : t.toArgument ≠ .object o := by
  cases t <;> simp [toArgument]

theorem toArgument_eq_list {t : Toml} {items : List Argument} (h : t.toArgument = .list items) :
    ∃ items', t = .array items' ∧ items'.map toArgument = items := by
  cases t with
  | array items' =>
      rw [toArgument_array] at h
      exact ⟨items', rfl, Argument.list.inj h⟩
  | _ => simp [toArgument] at h

theorem toArgument_eq_mapping {t : Toml} {m : Mapping} (h : t.toArgument = .mapping m) :
    ∃ entries, t = .table entries ∧ mapValues toArgument entries = m := by
  cases t with
  | table entries =>
      rw [toArgument_table] at h
      exact ⟨entries, rfl, Argument.mapping.inj h⟩
  | _ => simp [toArgument] at h

theorem Within.toArgument {u t : Toml} (h : u.Within t) : u.toArgument.Within t.toArgument := by
  induction h with
  | self => exact .self
  | item hitem _ ih =>
      rw [toArgument_array]
      exact .item (List.mem_map_of_mem hitem) ih
  | @entry entries entry hentry _ ih =>
      rw [toArgument_table]
      have hmem : (entry.1, entry.2.toArgument) ∈ mapValues Toml.toArgument entries :=
        List.mem_map_of_mem hentry
      exact .entry hmem ih

theorem exists_within_of_within_toArgument {a b : Argument} (h : a.Within b) :
    ∀ {t : Toml}, t.toArgument = b → ∃ u : Toml, u.Within t ∧ u.toArgument = a := by
  -- the value is taken apart along the place of the part in the argument
  induction h with
  | self =>
      intro t ht
      exact ⟨t, .self, ht⟩
  | item hitem _ ih =>
      intro t ht
      obtain ⟨items, rfl, rfl⟩ := toArgument_eq_list ht
      obtain ⟨item, hitem', hargument⟩ := List.mem_map.1 hitem
      obtain ⟨u, hu, ha⟩ := ih hargument
      exact ⟨u, .item hitem' hu, ha⟩
  | entry hentry _ ih =>
      intro t ht
      obtain ⟨entries, rfl, rfl⟩ := toArgument_eq_mapping ht
      obtain ⟨entry, hentry', rfl⟩ := List.mem_map.1 hentry
      obtain ⟨u, hu, ha⟩ := ih rfl
      exact ⟨u, .entry hentry' hu, ha⟩

/-- What stands in the argument of a value are the arguments of what stands in the value. -/
theorem within_toArgument_iff {a : Argument} {t : Toml} :
    a.Within t.toArgument ↔ ∃ u : Toml, u.Within t ∧ u.toArgument = a := by
  constructor
  · intro h
    exact exists_within_of_within_toArgument h rfl
  · rintro ⟨u, hu, rfl⟩
    exact hu.toArgument

/-! ## The counterpart in JSON -/

mutual

/-- The JSON value for a TOML value. JSON has no date-times and no numbers that are not finite: a date-time is
given by its text, and such a number as null. -/
def toJson : Toml → Json
  | .string s => .string s
  | .integer n => .integer n.toInt
  | .float x => if x.isFinite then .float x else .null
  | .boolean b => .bool b
  | .datetime t => .string t.text
  | .array items => .array (toJsonItems items)
  | .table entries => .object (toJsonMembers entries)

def toJsonItems : List Toml → List Json
  | [] => []
  | item :: rest => toJson item :: toJsonItems rest

def toJsonMembers : List (String × Toml) → List (String × Json)
  | [] => []
  | (key, value) :: rest => (key, toJson value) :: toJsonMembers rest

end

theorem toJsonMembers_eq_mapValues (entries : Table) :
    toJsonMembers entries = mapValues toJson entries := by
  induction entries with
  | nil => rfl
  | cons entry rest ih =>
      rw [toJsonMembers, ih]
      rfl

mutual

/-- Tables in key order become objects in key order. -/
theorem Sorted.toJson : ∀ {t : Toml}, t.Sorted → t.toJson.Sorted
  | .string _, _ => trivial
  | .integer _, _ => trivial
  | .float x, _ => by
      rw [Toml.toJson]
      split <;> trivial
  | .boolean _, _ => trivial
  | .datetime _, _ => trivial
  | .array items, .array hitems => sortedItems_toJsonItems items hitems
  | .table entries, .table hkeys hentries => by
      refine ⟨?_, sortedMembers_toJsonMembers entries hentries⟩
      rw [toJsonMembers_eq_mapValues]
      exact sorted_mapValues hkeys

theorem sortedItems_toJsonItems : ∀ items : List Toml, (∀ item ∈ items, item.Sorted) →
    Json.SortedItems (toJsonItems items)
  | [], _ => trivial
  | _ :: rest, h => ⟨Sorted.toJson (h _ List.mem_cons_self),
      sortedItems_toJsonItems rest fun item hitem => h item (List.mem_cons_of_mem _ hitem)⟩

theorem sortedMembers_toJsonMembers : ∀ entries : List (String × Toml),
    (∀ entry ∈ entries, entry.2.Sorted) → Json.SortedMembers (toJsonMembers entries)
  | [], _ => trivial
  | (_, _) :: rest, h => ⟨Sorted.toJson (h _ List.mem_cons_self),
      sortedMembers_toJsonMembers rest fun entry hentry => h entry (List.mem_cons_of_mem _ hentry)⟩

end

/-- Everything in the value has a counterpart in JSON, and nothing in it has the form of a request. -/
structure JsonLike (t : Toml) : Prop where
  noDatetime : ∀ d, ¬ (datetime d).Within t
  finite : ∀ x, (float x).Within t → x.isFinite = true
  noRequest : ∀ (entries : Table) name, (table entries).Within t → get? entries "new" ≠ some (.string name)

namespace JsonLike

theorem of_within {t u : Toml} (h : t.JsonLike) (hu : u.Within t) : u.JsonLike where
  noDatetime d hd := h.noDatetime d (hd.trans hu)
  finite x hx := h.finite x (hx.trans hu)
  noRequest entries name hentries := h.noRequest entries name (hentries.trans hu)

theorem item {items : List Toml} (h : (array items).JsonLike) {item : Toml} (hitem : item ∈ items) :
    item.JsonLike :=
  h.of_within (.item hitem .self)

theorem entry {entries : Table} (h : (table entries).JsonLike) {entry : String × Toml}
    (hentry : entry ∈ entries) : entry.2.JsonLike :=
  h.of_within (.entry hentry .self)

theorem integer (n : Int64) : (Toml.integer n).JsonLike where
  noDatetime _ hd := by cases hd
  finite _ hx := by cases hx
  noRequest _ _ h := by cases h

theorem of_entries {entries : Table} (hentries : ∀ entry ∈ entries, entry.2.JsonLike)
    (hnew : ∀ name, get? entries "new" ≠ some (.string name)) : (table entries).JsonLike where
  noDatetime d hd := by
    obtain _ | _ | ⟨hentry, hd⟩ := hd
    exact (hentries _ hentry).noDatetime d hd
  finite x hx := by
    obtain _ | _ | ⟨hentry, hx⟩ := hx
    exact (hentries _ hentry).finite x hx
  noRequest entries' name h := by
    obtain _ | _ | ⟨hentry, h⟩ := h
    · exact hnew name
    · exact (hentries _ hentry).noRequest entries' name h

theorem eq_string_of_toJson {t : Toml} (h : t.JsonLike) {s : String} (hs : t.toJson = .string s) :
    t = .string s := by
  cases t with
  | string s' => rw [Json.string.inj hs]
  | datetime d => exact absurd .self (h.noDatetime d)
  | float x =>
      rw [toJson, if_pos (h.finite x .self)] at hs
      cases hs
  | integer n => cases hs
  | boolean b => cases hs
  | array items => cases hs
  | table entries => cases hs

/-- The counterpart of a table is no request. -/
theorem requested?_eq_none {entries : Table} (h : (table entries).JsonLike) :
    Argument.requested? (toJsonMembers entries) = none := by
  rw [Argument.requested?_eq_none_iff, toJsonMembers_eq_mapValues]
  intro name hname
  rw [get?_mapValues] at hname
  obtain ⟨v, hv, hstring⟩ := Option.map_eq_some_iff.1 hname
  have hlike : v.JsonLike := h.entry (mem_of_get?_eq_some hv)
  rw [hlike.eq_string_of_toJson hstring] at hv
  exact h.noRequest entries name .self hv

end JsonLike

mutual

/-- A value and its counterpart become the same argument. -/
theorem ofJson_toJson : ∀ {t : Toml}, t.JsonLike → Argument.ofJson t.toJson = .ok t.toArgument
  | .string _, _ => rfl
  | .integer n, _ => congrArg Except.ok (Argument.ofInt_toInt n)
  | .float x, h => by
      rw [toJson, if_pos (h.finite x .self)]
      rfl
  | .boolean _, _ => rfl
  | .datetime d, h => absurd .self (h.noDatetime d)
  | .array items, h => by
      have hitems := ofItems_toJsonItems items fun item hitem => h.item hitem
      rw [toJson, Argument.ofJson_array, hitems]
      rfl
  | .table entries, h => by
      have hentries := ofMembers_toJsonMembers entries fun entry hentry => h.entry hentry
      rw [toJson, Argument.ofJson_mapping h.requested?_eq_none, hentries]
      rfl

theorem ofItems_toJsonItems : ∀ items : List Toml, (∀ item ∈ items, item.JsonLike) →
    Argument.ofItems (toJsonItems items) = .ok (toArguments items)
  | [], _ => rfl
  | item :: rest, h => by
      have hitem := ofJson_toJson (h item List.mem_cons_self)
      have hrest := ofItems_toJsonItems rest fun other hother => h other (List.mem_cons_of_mem _ hother)
      rw [toJsonItems, Argument.ofItems, hitem, hrest]
      rfl

theorem ofMembers_toJsonMembers : ∀ entries : List (String × Toml),
    (∀ entry ∈ entries, entry.2.JsonLike) →
      Argument.ofMembers (toJsonMembers entries) = .ok (toNamedArguments entries)
  | [], _ => rfl
  | (key, value) :: rest, h => by
      have hvalue := ofJson_toJson (h (key, value) List.mem_cons_self)
      have hrest := ofMembers_toJsonMembers rest fun other hother => h other (List.mem_cons_of_mem _ hother)
      rw [toJsonMembers, Argument.ofMembers, hvalue, hrest]
      rfl

end

end Toml

/-! ## Options from a table -/

namespace FetchOptions

variable {table : Toml.Table} {o : FetchOptions}

theorem givenBy_toNamedArguments_iff :
    o.GivenBy Argument.bool (Toml.toNamedArguments table) ↔ o.GivenBy Toml.boolean table := by
  have hflag : ∀ key b, (get? (Toml.toNamedArguments table) key).getD (.bool false) = .bool b ↔
      (get? table key).getD (.boolean false) = .boolean b := by
    intro key b
    rw [Toml.toNamedArguments_eq_mapValues, get?_mapValues]
    cases get? table key with
    | none => simp
    | some v => exact Toml.toArgument_eq_bool_iff
  rw [givenBy_iff, givenBy_iff, Toml.keys_toNamedArguments, hflag, hflag]

theorem ofTable_eq_ok_iff : ofTable table = .ok o ↔ o.GivenBy Toml.boolean table := by
  rw [ofTable, ofMapping_eq_ok_iff, givenBy_toNamedArguments_iff]

/-- A table is accepted if it has flags only, under keys of options. -/
theorem exists_ofTable_iff :
    (∃ o, ofTable table = .ok o) ↔
      ∀ key v, get? table key = some v → key ∈ FetchOptions.keys ∧ ∃ b, v = .boolean b := by
  simp only [ofTable_eq_ok_iff, exists_givenBy_flag_iff]
  constructor
  · rintro ⟨hknown, hflags⟩ key v hv
    exact ⟨hknown key (mem_keys_iff_exists.2 ⟨v, hv⟩), hflags key v hv⟩
  · intro h
    refine ⟨fun key hkey => ?_, fun key v hv => (h key v hv).2⟩
    obtain ⟨v, hv⟩ := mem_keys_iff_exists.1 hkey
    exact (h key v hv).1

/-- The least key of a table that names no option. -/
structure LeastForeign (table : Toml.Table) (key : String) : Prop where
  mem : key ∈ Dictionary.keys table
  foreign : key ∉ FetchOptions.keys
  least : ∀ other ∈ Dictionary.keys table, other ∉ FetchOptions.keys → key ≤ other

theorem ofTable_of_leastForeign (hsorted : Sorted table) {key : String} (h : LeastForeign table key) :
    ofTable table = .error (.unrecognizedOption className key) := by
  have hfind : (Dictionary.keys (Toml.toNamedArguments table)).find?
      (fun key => !FetchOptions.keys.contains key) = some key := by
    rw [find?_foreign_eq_some_iff (Toml.sorted_toNamedArguments hsorted),
      Toml.keys_toNamedArguments]
    exact ⟨h.mem, h.foreign, h.least⟩
  rw [ofTable, ofMapping, Mapping.allowOnly_of_find? hfind]
  rfl

theorem exists_leastForeign (hsorted : Sorted table) {key : String} (hkey : key ∈ Dictionary.keys table)
    (hforeign : key ∉ FetchOptions.keys) : ∃ least, LeastForeign table least := by
  have hfind : ((Dictionary.keys table).find? fun key => !FetchOptions.keys.contains key).isSome := by
    rw [List.find?_isSome]
    exact ⟨key, hkey, by simpa using hforeign⟩
  obtain ⟨least, hleast⟩ := Option.isSome_iff_exists.1 hfind
  obtain ⟨hmem, hforeign', hmin⟩ := (find?_foreign_eq_some_iff hsorted).1 hleast
  exact ⟨least, hmem, hforeign', hmin⟩

/-- A key `new` is refused as a foreign key, whatever stands under it. -/
theorem ofTable_of_mem_new (hsorted : Sorted table) (hnew : "new" ∈ Dictionary.keys table) :
    ∃ key, LeastForeign table key ∧ ofTable table = .error (.unrecognizedOption className key) := by
  obtain ⟨key, hkey⟩ := exists_leastForeign hsorted hnew (by decide)
  exact ⟨key, hkey, ofTable_of_leastForeign hsorted hkey⟩

/-- A table without requests is read as its counterpart is read in JSON. -/
theorem ofTable_eq_ofMapping (h : (Toml.table table).JsonLike) :
    ∃ m, Argument.ofJson (Toml.table table).toJson = .ok (.mapping m) ∧ ofTable table = ofMapping m :=
  ⟨Toml.toNamedArguments table, Toml.ofJson_toJson h, rfl⟩

end FetchOptions

/-- A section that is read as a dictionary, and not as the empty one, is a table of the same keys. -/
theorem Toml.exists_table_of_optional {β : Type} {decode : Toml → Except DecodeError β} {doc : Toml.Table}
    {name : String} {entries' : Dictionary β}
    (h : optional name (dictionary decode) [] doc = .ok entries') (hentries' : entries' ≠ []) :
    ∃ entries, get? doc name = some (.table entries) ∧ keys entries = keys entries' := by
  obtain ⟨-, hempty⟩ | ⟨v, hv, hread⟩ := optional_eq_ok_iff.1 h
  · exact absurd hempty hentries'
  · obtain ⟨entries, rfl, hentries⟩ := Toml.dictionary_eq_ok_iff.1 hread
    exact ⟨entries, hv, hentries.keys_eq.symm⟩

theorem Config.ofToml_of_mem_new {text : String} {doc entries : Toml.Table}
    (hdoc : Toml.parse? text = some doc) (hsections : Config.OnlySections doc)
    (hentries : get? doc "fetch" = some (.table entries)) (hnew : "new" ∈ keys entries) :
    ∃ key, FetchOptions.LeastForeign entries key ∧
      Config.ofToml text = .error (.action (.unrecognizedOption FetchOptions.className key)) := by
  have hdocument : SortedAll Toml.Sorted doc := Toml.sortedAll_of_parse? hdoc
  have hsorted : Sorted entries := (Toml.sorted_table_iff.1 (hdocument.of_get? hentries)).sorted
  obtain ⟨key, hkey, hrefused⟩ := FetchOptions.ofTable_of_mem_new hsorted hnew
  have hdecision : Config.Decision doc
      (.error (.action (.unrecognizedOption FetchOptions.className key))) :=
    .fetchRefused hsections hentries hrefused
  refine ⟨key, hkey, ?_⟩
  rw [Config.ofToml, hdoc]
  exact hdecision.ofTable_eq hdocument.sorted

/-- A TOML value becomes an argument part by part, nothing in which is nil or was built: an array a list of the
same length and order, a table a mapping with the same keys. A value that JSON has too, and in which no table
looks like a request, becomes what its counterpart becomes. The options of a fetch are read from exactly the
tables of flags under keys of options, and from a table without requests as from its counterpart; but a key
`new` is refused whatever stands under it, and of the keys that name no option the least is reported. -/
theorem toArgument_agrees_with_ofJson (t : Toml) :
    (∀ a : Argument, a.Within t.toArgument ↔ ∃ u : Toml, u.Within t ∧ u.toArgument = a) ∧
      (∀ a : Argument, a.Within t.toArgument → a ≠ .nil ∧ ∀ o, a ≠ .object o) ∧
      (∀ items, t = .array items → t.toArgument = .list (items.map Toml.toArgument)) ∧
      (t.Sorted → t.toJson.Sorted) ∧
      (t.JsonLike → Argument.ofJson t.toJson = .ok t.toArgument) ∧
      ∀ table : Toml.Table, t = .table table →
        t.toArgument = .mapping (mapValues Toml.toArgument table) ∧
          (∀ o, FetchOptions.ofTable table = .ok o ↔ o.GivenBy Toml.boolean table) ∧
          ((∃ o, FetchOptions.ofTable table = .ok o) ↔
            ∀ key v, get? table key = some v → key ∈ FetchOptions.keys ∧ ∃ b, v = .boolean b) ∧
          (t.JsonLike → ∃ m, Argument.ofJson t.toJson = .ok (.mapping m) ∧
            FetchOptions.ofTable table = FetchOptions.ofMapping m) ∧
          (t.Sorted → "new" ∈ keys table → ∃ key, FetchOptions.LeastForeign table key ∧
            FetchOptions.ofTable table = .error (.unrecognizedOption FetchOptions.className key)) ∧
          ∀ text doc, Toml.parse? text = some doc → Config.OnlySections doc →
            get? doc "fetch" = some t → "new" ∈ keys table →
              ∃ key, FetchOptions.LeastForeign table key ∧
                Config.ofToml text = .error (.action (.unrecognizedOption FetchOptions.className key)) := by
  refine ⟨fun a => Toml.within_toArgument_iff, fun a ha => ?_, ?_, Toml.Sorted.toJson,
    Toml.ofJson_toJson, ?_⟩
  · obtain ⟨u, -, rfl⟩ := Toml.within_toArgument_iff.1 ha
    exact ⟨u.toArgument_ne_nil, u.toArgument_ne_object⟩
  · rintro items rfl
    exact Toml.toArgument_array items
  · rintro table rfl
    refine ⟨Toml.toArgument_table table, fun o => FetchOptions.ofTable_eq_ok_iff,
      FetchOptions.exists_ofTable_iff, FetchOptions.ofTable_eq_ofMapping, fun hsorted hnew => ?_,
      fun text doc hdoc hsections hfetch hnew => ?_⟩
    · exact FetchOptions.ofTable_of_mem_new (Toml.sorted_table_iff.1 hsorted).sorted hnew
    · exact Config.ofToml_of_mem_new hdoc hsections hfetch hnew

/-- What would be a request in JSON is an unknown option in a configuration file; without it, the section is
read as in JSON. -/
theorem toArgument_agrees_with_ofJson_fetch :
    (∃ doc, Toml.parse? "[fetch]\nnew = \"Action\"\nsafe_resume = 1" = some doc ∧ ∃ key,
      FetchOptions.LeastForeign [("new", .string "Action"), ("safe_resume", .integer 1)] key ∧
        Config.ofToml "[fetch]\nnew = \"Action\"\nsafe_resume = 1" =
          .error (.action (.unrecognizedOption FetchOptions.className key))) ∧
      (Toml.table [("safe_resume", .integer 1)]).JsonLike ∧
        Argument.ofJson (.object [("safe_resume", .integer 1)]) =
          .ok (.mapping [("safe_resume", .integer 1)]) := by
  -- values are not compared: nothing is asked of what stands under the keys of the section
  have hread : (Toml.parse? "[fetch]\nnew = \"Action\"\nsafe_resume = 1").any (fun doc =>
      ((keys doc).find? fun key => !Config.sections.contains key) = none ∧
        optional "fetch" (dictionary fun _ => .ok ()) [] doc = .ok [("new", ()), ("safe_resume", ())]) =
      true := by decide +kernel
  obtain ⟨doc, hparse, hdoc⟩ := (Option.any_eq_true _ _).1 hread
  obtain ⟨hsections, hsection⟩ := of_decide_eq_true hdoc
  obtain ⟨entries, hentries, hkeys⟩ := Toml.exists_table_of_optional hsection (List.cons_ne_nil _ _)
  have hfetch := ((toArgument_agrees_with_ofJson _).2.2.2.2.2 _ rfl).2.2.2.2.2 _ _ hparse
    (Config.find?_unknown_eq_none_iff.1 hsections) hentries
  have hnew : "new" ∈ keys entries := by
    rw [hkeys]
    decide
  obtain ⟨key, ⟨hmem, hforeign, hleast⟩, hrefused⟩ := hfetch hnew
  rw [hkeys] at hmem hleast
  have hlike : (Toml.table [("safe_resume", .integer 1)]).JsonLike :=
    .of_entries (List.forall_mem_singleton.2 (.integer 1)) (by simp)
  exact ⟨⟨doc, hparse, key, ⟨hmem, hforeign, hleast⟩, hrefused⟩, hlike,
    (toArgument_agrees_with_ofJson _).2.2.2.2.1 hlike⟩

end PackageActions
