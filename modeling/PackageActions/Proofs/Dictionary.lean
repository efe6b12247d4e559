import Mathlib.Data.List.Sort
import Mathlib.Data.String.Basic
import Mathlib.Order.Basic
import PackageActions.Dictionary
import PackageActions.Proofs.Except

/-!
# Look-ups, order and least keys

Facts about dictionaries that relate what is found by a search to what is meant by it: a search through
the keys of a sorted dictionary finds the least key of a kind (`find?_keys_eq_min?`), reading all values
keeps the keys (`mapM_eq_ok_iff`), and putting the entries of a sorted dictionary into order changes
nothing (`ofList_eq_self`). Two sorted dictionaries in which every look-up comes to the same are equal
(`eq_of_get?_eq`).
-/

namespace PackageActions

namespace Dictionary

variable {α β ε : Type}

/-! ## Parts -/

theorem get?_append (d d' : Dictionary α) (key : String) :
    get? (d ++ d') key = (get? d key).or (get? d' key) := by
  induction d with
  | nil => rfl
  | cons entry rest ih =>
      obtain ⟨k, v⟩ := entry
      by_cases h : k = key
      · simp [h]
      · simpa [h] using ih

theorem erase_cons_of_eq {entry : String × α} {key : String} (h : entry.1 = key) (d : Dictionary α) :
    erase (entry :: d) key = erase d key :=
  List.filter_cons_of_neg (by simp [h])

theorem erase_cons_of_ne {entry : String × α} {key : String} (h : entry.1 ≠ key) (d : Dictionary α) :
    erase (entry :: d) key = entry :: erase d key :=
  List.filter_cons_of_pos (by simp [h])

theorem get?_erase_of_ne {key other : String} (h : other ≠ key) (d : Dictionary α) :
    get? (erase d key) other = get? d other := by
  induction d with
  | nil => rfl
  | cons entry rest ih =>
      by_cases hkey : entry.1 = key
      · rw [erase_cons_of_eq hkey, ih, get?_cons, if_neg (hkey ▸ Ne.symm h)]
      · rw [erase_cons_of_ne hkey, get?_cons, get?_cons, ih]

theorem get?_insert (key other : String) (value : α) (d : Dictionary α) :
    get? (insert key value d) other = if other = key then some value else get? d other := by
  by_cases h : other = key
  · rw [if_pos h, h, get?_insert_self]
  · rw [if_neg h, get?_insert_of_ne h]

theorem get?_eq_none_iff {d : Dictionary α} {key : String} : get? d key = none ↔ key ∉ keys d := by
  rw [mem_keys_iff, Option.not_isSome_iff_eq_none]

theorem mem_keys_iff_exists {d : Dictionary α} {key : String} :
    key ∈ keys d ↔ ∃ v, get? d key = some v := by
  rw [mem_keys_iff, Option.isSome_iff_exists]

theorem mem_keys_iff_of_get? {d : Dictionary α} {d' : Dictionary β} {f : α → β}
    (h : ∀ key, get? d' key = (get? d key).map f) (key : String) : key ∈ keys d' ↔ key ∈ keys d := by
  rw [mem_keys_iff, mem_keys_iff, h, Option.isSome_map]

theorem mem_of_get?_eq_some {d : Dictionary α} {key : String} {v : α} (h : get? d key = some v) :
    (key, v) ∈ d := by
  induction d with
  | nil => cases h
  | cons entry rest ih =>
      obtain ⟨k, w⟩ := entry
      rw [get?_cons] at h
      split at h
      · rename_i hkey
        rw [← hkey, ← Option.some.inj h]
        exact List.mem_cons_self
      · exact List.mem_cons_of_mem _ (ih h)

/-! ## Changed values -/

@[simp] theorem keys_mapValues (f : α → β) (d : Dictionary α) : keys (mapValues f d) = keys d := by
  simp [keys, mapValues, Function.comp_def]

theorem get?_mapValues (f : α → β) (d : Dictionary α) (key : String) :
    get? (mapValues f d) key = (get? d key).map f := by
  induction d with
  | nil => rfl
  | cons entry rest ih =>
      obtain ⟨k, v⟩ := entry
      by_cases h : k = key
      · simp [mapValues, h]
      · simpa [mapValues, h] using ih

theorem sorted_mapValues {f : α → β} {d : Dictionary α} (h : Sorted d) : Sorted (mapValues f d) := by
  rw [Sorted, keys_mapValues]
  exact h

/-! ## Entries side by side -/

/-- Two lists of entries with the same keys in the same order, and related values under each. -/
def Pointwise (R : α → β → Prop) : Dictionary α → Dictionary β → Prop :=
  List.Forall₂ fun entry entry' => entry'.1 = entry.1 ∧ R entry.2 entry'.2

theorem Pointwise.keys_eq {R : α → β → Prop} {d : Dictionary α} {d' : Dictionary β}
    (h : Pointwise R d d') : keys d' = keys d := by
  induction h with
  | nil => rfl
  | cons hentry _ ih => exact congrArg₂ List.cons hentry.1 ih

theorem Pointwise.rel_get? {R : α → β → Prop} {d : Dictionary α} {d' : Dictionary β}
    (h : Pointwise R d d') (key : String) : Option.Rel R (get? d key) (get? d' key) := by
  induction h with
  | nil => exact .none
  | @cons entry entry' rest rest' hentry _ ih =>
      obtain ⟨k, v⟩ := entry
      obtain ⟨k', b⟩ := entry'
      obtain ⟨hkey, hvalue⟩ := hentry
      rw [get?_cons, get?_cons, show k' = k from hkey]
      split
      · exact .some hvalue
      · exact ih

theorem pointwise_congr {R R' : α → β → Prop} {d : Dictionary α} {d' : Dictionary β}
    (h : ∀ entry ∈ d, ∀ b, R entry.2 b ↔ R' entry.2 b) : Pointwise R d d' ↔ Pointwise R' d d' := by
  induction d generalizing d' with
  | nil => simp [Pointwise]
  | cons entry rest ih =>
      obtain ⟨hentry, hrest⟩ := List.forall_mem_cons.1 h
      cases d' with
      | nil => simp [Pointwise]
      | cons entry' rest' =>
          simp only [Pointwise, List.forall₂_cons, hentry]
          exact and_congr_right fun _ => ih hrest

/-! ## Values that are read -/

/-- Entries are what others are read as: the same keys in the same order, each with the value read. -/
def ReadAs (read : α → Except ε β) : Dictionary α → Dictionary β → Prop :=
  List.Forall₂ fun entry entry' => entry'.1 = entry.1 ∧ read entry.2 = .ok entry'.2

theorem ReadAs.pointwise {read : α → Except ε β} {d : Dictionary α} {d' : Dictionary β}
    (h : ReadAs read d d') : Pointwise (fun v b => read v = .ok b) d d' := h

theorem ReadAs.keys_eq {read : α → Except ε β} {d : Dictionary α} {d' : Dictionary β}
    (h : ReadAs read d d') : keys d' = keys d :=
  h.pointwise.keys_eq

theorem ReadAs.rel_get? {read : α → Except ε β} {d : Dictionary α} {d' : Dictionary β}
    (h : ReadAs read d d') (key : String) :
    Option.Rel (fun v b => read v = .ok b) (get? d key) (get? d' key) :=
  h.pointwise.rel_get? key

theorem ReadAs.get?_eq_some_iff {read : α → Except ε β} {d : Dictionary α} {d' : Dictionary β}
    (h : ReadAs read d d') {v : α} {b : β} (hvb : ∀ w c, read w = .ok c → (w = v ↔ c = b))
    (key : String) : get? d key = some v ↔ get? d' key = some b := by
  have hrel := h.rel_get? key
  generalize get? d key = x, get? d' key = y at hrel ⊢
  cases hrel with
  | none => simp
  | some hread => simpa using hvb _ _ hread

theorem ReadAs.getD_get?_eq_iff {read : α → Except ε β} {d : Dictionary α} {d' : Dictionary β}
    (h : ReadAs read d d') {v v' : α} {b b' : β} (hvb : ∀ w c, read w = .ok c → (w = v ↔ c = b))
    (hdefault : v' = v ↔ b' = b) (key : String) :
    (get? d key).getD v' = v ↔ (get? d' key).getD b' = b := by
  have hrel := h.rel_get? key
  generalize get? d key = x, get? d' key = y at hrel ⊢
  cases hrel with
  | none => simpa using hdefault
  | some hread => simpa using hvb _ _ hread

theorem exists_readAs {read : α → Except ε β} {d : Dictionary α}
    (h : ∀ entry ∈ d, ∃ b, read entry.2 = .ok b) : ∃ d', ReadAs read d d' := by
  induction d with
  | nil => exact ⟨[], .nil⟩
  | cons entry rest ih =>
      obtain ⟨b, hb⟩ := h entry List.mem_cons_self
      obtain ⟨d', hd'⟩ := ih fun other hother => h other (List.mem_cons_of_mem _ hother)
      exact ⟨(entry.1, b) :: d', .cons ⟨rfl, hb⟩ hd'⟩

theorem mapM_eq_ok_iff (read : String → α → Except ε β) {d : Dictionary α} {d' : Dictionary β} :
    d.mapM (fun entry => Prod.mk entry.1 <$> read entry.1 entry.2) = .ok d' ↔
      List.Forall₂ (fun entry entry' => entry'.1 = entry.1 ∧ read entry.1 entry.2 = .ok entry'.2)
        d d' := by
  have hentry : ∀ (entry : String × α) (entry' : String × β),
      Prod.mk entry.1 <$> read entry.1 entry.2 = .ok entry' ↔
        entry'.1 = entry.1 ∧ read entry.1 entry.2 = .ok entry'.2 := by
    rintro ⟨key, v⟩ ⟨key', b⟩
    rw [Except.map_eq_ok_iff]
    constructor
    · rintro ⟨b', hb', h⟩
      cases h
      exact ⟨rfl, hb'⟩
    · rintro ⟨rfl, hb⟩
      exact ⟨b, hb, rfl⟩
  rw [Except.mapM_eq_ok_iff]
  simp only [hentry]

/-! ## Order -/

theorem Sorted.nodup_keys {d : Dictionary α} (h : Sorted d) : (keys d).Nodup :=
  h.imp fun hlt => ne_of_lt hlt

theorem get?_of_mem {d : Dictionary α} (h : (keys d).Nodup) {key : String} {v : α} (hmem : (key, v) ∈ d) :
    get? d key = some v := by
  induction d with
  | nil => cases hmem
  | cons entry rest ih =>
      obtain ⟨k, w⟩ := entry
      obtain ⟨hk, hrest⟩ := List.nodup_cons.1 (show (k :: keys rest).Nodup from h)
      rcases List.mem_cons.1 hmem with heq | hmem'
      · obtain ⟨rfl, rfl⟩ := Prod.mk.inj heq
        rw [get?_cons, if_pos rfl]
      · have hkey : key ∈ keys rest := List.mem_map.2 ⟨_, hmem', rfl⟩
        have hne : k ≠ key := fun heq => hk (heq ▸ hkey)
        rw [get?_cons, if_neg hne, ih hrest hmem']

theorem get?_eq_some_iff_mem {d : Dictionary α} (h : Sorted d) {key : String} {v : α} :
    get? d key = some v ↔ (key, v) ∈ d :=
  ⟨mem_of_get?_eq_some, get?_of_mem h.nodup_keys⟩

/-- The dictionary is sorted, and all its values have a property. -/
structure SortedAll (P : α → Prop) (d : Dictionary α) : Prop where
  sorted : Sorted d
  all : ∀ entry ∈ d, P entry.2

theorem sortedAll_nil {P : α → Prop} : SortedAll P [] := ⟨sorted_nil, List.forall_mem_nil _⟩

theorem SortedAll.of_get? {P : α → Prop} {d : Dictionary α} (h : SortedAll P d) {key : String} {v : α}
    (hv : get? d key = some v) : P v :=
  h.all _ (mem_of_get?_eq_some hv)

theorem SortedAll.insert {P : α → Prop} {d : Dictionary α} (h : SortedAll P d) (key : String) {v : α}
    (hv : P v) : SortedAll P (insert key v d) := by
  refine ⟨sorted_insert key v h.sorted, ?_⟩
  rintro ⟨other, w⟩ hw
  rw [← get?_eq_some_iff_mem (sorted_insert key v h.sorted), get?_insert] at hw
  split at hw
  · rwa [← Option.some.inj hw]
  · exact h.of_get? hw

/-- A sorted dictionary is determined by its look-ups. -/
theorem eq_of_get?_eq {d d' : Dictionary α} (hd : Sorted d) (hd' : Sorted d')
    (h : ∀ key, get? d key = get? d' key) : d = d' := by
  have : Std.Irrefl fun a b : String × α => a.1 < b.1 := ⟨fun a => lt_irrefl a.1⟩
  have : Std.Antisymm fun a b : String × α => a.1 < b.1 :=
    ⟨fun _ _ hab hba => absurd hab (lt_asymm hba)⟩
  refine List.Pairwise.eq_of_mem_iff (List.pairwise_map.1 hd) (List.pairwise_map.1 hd') ?_
  rintro ⟨key, v⟩
  rw [← get?_eq_some_iff_mem hd, ← get?_eq_some_iff_mem hd', h]

/-- A sorted dictionary that has no keys but the listed ones has them in the order listed. -/
theorem keys_sublist {d : Dictionary α} (hd : Sorted d) {names : List String}
    (hnames : names.Pairwise (· < ·)) (h : ∀ key ∈ keys d, key ∈ names) : (keys d).Sublist names := by
  have : Std.Antisymm fun a b : String => a < b := ⟨fun _ _ hab hba => absurd hab (lt_asymm hba)⟩
  exact List.sublist_of_subperm_of_pairwise (List.subperm_of_subset hd.nodup_keys h) hd hnames

theorem eq_nil_of_keys_sublist {d : Dictionary α} (h : (keys d).Sublist []) : d = [] :=
  List.map_eq_nil_iff.1 (List.sublist_nil.1 h)

/-- Either the first name is no key, or its entry is the first. -/
theorem keys_sublist_cons {d : Dictionary α} {name : String} {names : List String}
    (h : (keys d).Sublist (name :: names)) :
    (keys d).Sublist names ∨ ∃ v rest, d = (name, v) :: rest ∧ (keys rest).Sublist names := by
  obtain h | ⟨others, hkeys, hothers⟩ := List.sublist_cons_iff.1 h
  · exact .inl h
  · obtain ⟨⟨_, v⟩, rest, rfl, rfl, rfl⟩ := List.map_eq_cons_iff.1 hkeys
    exact .inr ⟨v, rest, rfl, hothers⟩

theorem insert_of_keys_lt {key : String} {value : α} {d : Dictionary α}
    (h : ∀ k ∈ keys d, k < key) : insert key value d = d ++ [(key, value)] := by
  induction d with
  | nil => rfl
  | cons entry rest ih =>
      obtain ⟨k, v⟩ := entry
      have hk : k < key := h k (by simp [keys])
      have hrest : ∀ k ∈ keys rest, k < key := fun k' hk' => h k' (List.mem_cons_of_mem _ hk')
      rw [insert, if_neg (not_lt_of_gt hk), if_neg (ne_of_gt hk), ih hrest, List.cons_append]

theorem ofList_eq_self {d : Dictionary α} (h : Sorted d) : ofList d = d := by
  -- the entries still to be inserted lie behind all those inserted before them
  have general : ∀ (rest before : Dictionary α), Sorted (before ++ rest) →
      rest.foldl (fun d entry => insert entry.1 entry.2 d) before = before ++ rest := by
    intro rest
    induction rest with
    | nil => intro before _; simp
    | cons entry rest ih =>
        intro before hs
        have hlt : ∀ k ∈ keys before, k < entry.1 := by
          intro k hk
          have hs' : (keys before ++ keys (entry :: rest)).Pairwise (· < ·) := by
            simpa [Sorted, keys] using hs
          exact (List.pairwise_append.1 hs').2.2 k hk entry.1 (by simp [keys])
        rw [List.foldl_cons, insert_of_keys_lt hlt, ih _ (by simpa using hs)]
        simp
  exact general d [] (by simpa using h)

/-- Putting entries into order does not change what is found, if no two have one key. -/
theorem get?_ofList {entries : List (String × α)} (h : (keys entries).Nodup) (key : String) :
    get? (ofList entries) key = get? entries key := by
  have general : ∀ d : Dictionary α,
      get? (entries.foldl (fun d entry => insert entry.1 entry.2 d) d) key =
        (get? entries key).or (get? d key) := by
    induction entries with
    | nil => exact fun _ => rfl
    | cons entry rest ih =>
        obtain ⟨k, v⟩ := entry
        obtain ⟨hk, hrest⟩ := List.nodup_cons.1 (show (k :: keys rest).Nodup from h)
        intro d
        rw [List.foldl_cons, ih hrest, get?_insert, get?_cons]
        by_cases hkey : key = k
        · rw [if_pos hkey, if_pos hkey.symm, hkey, get?_eq_none_iff.2 hk, Option.none_or, Option.some_or]
        · rw [if_neg hkey, if_neg (Ne.symm hkey)]
  rw [ofList, general, get?_nil, Option.or_none]

/-- In key order the first key of a kind is the least. -/
theorem find?_keys_eq_min? {d : Dictionary α} (h : Sorted d) (p : String → Bool) :
    (keys d).find? p = ((keys d).filter p).min? := by
  have hmin : ((keys d).filter p).Pairwise fun a b => min a b = a :=
    (h.filter p).imp fun hab => min_eq_left (le_of_lt hab)
  rw [List.min?_eq_head? hmin, List.head?_filter]

theorem find?_keys_eq_some_iff {d : Dictionary α} (h : Sorted d) {p : String → Bool} {key : String} :
    (keys d).find? p = some key ↔
      key ∈ keys d ∧ p key = true ∧ ∀ other ∈ keys d, p other = true → key ≤ other := by
  rw [find?_keys_eq_min? h, List.min?_eq_some_iff]
  simp only [List.mem_filter, and_imp, and_assoc]

/-- In key order the first key that is not allowed is the least of them. -/
theorem find?_foreign_eq_some_iff {d : Dictionary α} (h : Sorted d) {allowed : List String} {key : String} :
    ((keys d).find? fun key => !allowed.contains key) = some key ↔
      key ∈ keys d ∧ key ∉ allowed ∧ ∀ other ∈ keys d, other ∉ allowed → key ≤ other := by
  rw [find?_keys_eq_some_iff h]
  simp

/-! ## Missing entries -/

/-- The dictionary with a value put under a key, unless it has the key. -/
def insertMissing (key : String) (value : α) (d : Dictionary α) : Dictionary α :=
  if key ∈ keys d then d else insert key value d

/-- The dictionary with a value put under those of some keys that it does not have. -/
def fillIn (missing : List String) (value : α) (d : Dictionary α) : Dictionary α :=
  missing.foldr (fun key d => insertMissing key value d) d

theorem get?_insertMissing (key other : String) (value : α) (d : Dictionary α) :
    get? (insertMissing key value d) other =
      (get? d other).or (if other = key then some value else none) := by
  unfold insertMissing
  by_cases hother : other = key
  · subst hother
    split
    · rename_i hmem
      obtain ⟨v, hv⟩ := mem_keys_iff_exists.1 hmem
      rw [hv, Option.some_or]
    · rename_i hmem
      rw [get?_insert_self, get?_eq_none_iff.2 hmem, if_pos rfl, Option.none_or]
  · rw [if_neg hother, Option.or_none]
    split
    · rfl
    · exact get?_insert_of_ne hother value d

theorem sorted_insertMissing (key : String) (value : α) {d : Dictionary α} (h : Sorted d) :
    Sorted (insertMissing key value d) := by
  unfold insertMissing
  split
  · exact h
  · exact sorted_insert key value h

theorem get?_fillIn (missing : List String) (value : α) (d : Dictionary α) (key : String) :
    get? (fillIn missing value d) key =
      (get? d key).or (if key ∈ missing then some value else none) := by
  induction missing with
  | nil => exact (Option.or_none).symm
  | cons first rest ih =>
      rw [fillIn, List.foldr_cons, get?_insertMissing, ← fillIn, ih, Option.or_assoc]
      by_cases hfirst : key = first
      · rw [if_pos hfirst, if_pos (List.mem_cons.2 (Or.inl hfirst))]
        split <;> rfl
      · rw [if_neg hfirst, Option.or_none]
        simp only [List.mem_cons, hfirst, false_or]

theorem sorted_fillIn (missing : List String) (value : α) {d : Dictionary α} (h : Sorted d) :
    Sorted (fillIn missing value d) := by
  induction missing with
  | nil => exact h
  | cons first rest ih => exact sorted_insertMissing first value ih

end Dictionary

end PackageActions
