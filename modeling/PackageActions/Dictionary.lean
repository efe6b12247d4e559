/-!
# Association lists in key order

A dictionary lists its entries by increasing key, compared by code points, each key once.
`Dictionary.insert` keeps that order (`sorted_insert`), a look-up after it sees the new entry
(`get?_insert_self`) and leaves the others alone (`get?_insert_of_ne`).
-/

namespace PackageActions

/-- Entries by text key. Every operation of this file keeps the keys strictly increasing. -/
abbrev Dictionary (α : Type) := List (String × α)

namespace Dictionary

variable {α β : Type}

/-- The keys, in order. -/
def keys (d : Dictionary α) : List String := d.map Prod.fst

/-- The keys are strictly increasing by code points, hence distinct. -/
def Sorted (d : Dictionary α) : Prop := (keys d).Pairwise (· < ·)

/-- The value under a key. -/
def get? : Dictionary α → String → Option α
  | [], _ => none
  | (k, v) :: rest, key => if k = key then some v else get? rest key

/-- The dictionary with one entry set; the entry that had the key before is replaced. -/
def insert (key : String) (value : α) : Dictionary α → Dictionary α
  | [] => [(key, value)]
  | (k, v) :: rest =>
    if key < k then (key, value) :: (k, v) :: rest
    else if key = k then (key, value) :: rest
    else (k, v) :: insert key value rest

/-- The dictionary without the entry of one key. -/
def erase (d : Dictionary α) (key : String) : Dictionary α :=
  d.filter fun entry => entry.1 ≠ key

/-- The dictionary of a list of entries; of two entries with one key the later counts. -/
def ofList (entries : List (String × α)) : Dictionary α :=
  entries.foldl (fun d entry => insert entry.1 entry.2 d) []

/-- The same keys with changed values. -/
def mapValues (f : α → β) (d : Dictionary α) : Dictionary β :=
  d.map fun entry => (entry.1, f entry.2)

/-! ## Look-ups -/

@[simp] theorem get?_nil (key : String) : get? ([] : Dictionary α) key = none := rfl

@[simp] theorem get?_cons (k key : String) (v : α) (d : Dictionary α) :
    get? ((k, v) :: d) key = if k = key then some v else get? d key := rfl

theorem get?_insert_self (key : String) (value : α) (d : Dictionary α) :
    get? (insert key value d) key = some value := by
  induction d with
  | nil => simp [insert]
  | cons entry rest ih =>
      obtain ⟨k, v⟩ := entry
      simp only [insert]
      split
      · simp
      · split
        · simp
        · rename_i hne
          simp [Ne.symm hne, ih]

theorem get?_insert_of_ne {key other : String} (h : other ≠ key) (value : α) (d : Dictionary α) :
    get? (insert key value d) other = get? d other := by
  induction d with
  | nil => simp [insert, Ne.symm h]
  | cons entry rest ih =>
      obtain ⟨k, v⟩ := entry
      simp only [insert]
      split
      · simp [Ne.symm h]
      · split
        · rename_i heq
          simp [← heq, Ne.symm h]
        · simp [ih]

theorem mem_keys_iff (d : Dictionary α) (key : String) :
    key ∈ keys d ↔ (get? d key).isSome := by
  induction d with
  | nil => simp [keys]
  | cons entry rest ih =>
      obtain ⟨k, v⟩ := entry
      have ih' : key ∈ rest.map Prod.fst ↔ (get? rest key).isSome := ih
      by_cases h : k = key
      · simp [keys, h]
      · simp [keys, h, Ne.symm h, ih']

/-! ## Order -/

theorem sorted_nil : Sorted ([] : Dictionary α) := List.Pairwise.nil

theorem mem_keys_insert {key k : String} {value : α} {d : Dictionary α}
    (h : k ∈ keys (insert key value d)) : k = key ∨ k ∈ keys d := by
  induction d with
  | nil => simpa [insert, keys] using h
  | cons entry rest ih =>
      obtain ⟨k', v⟩ := entry
      simp only [insert] at h
      split at h
      · simpa [keys] using h
      · split at h
        · rename_i heq
          rcases List.mem_cons.1 h with h' | h'
          · exact Or.inl h'
          · exact Or.inr (List.mem_cons_of_mem _ h')
        · rcases List.mem_cons.1 h with h' | h'
          · exact Or.inr (by simp [keys, h'])
          · rcases ih h' with h'' | h''
            · exact Or.inl h''
            · exact Or.inr (List.mem_cons_of_mem _ h'')

theorem sorted_insert (key : String) (value : α) {d : Dictionary α} (h : Sorted d) :
    Sorted (insert key value d) := by
  induction d with
  | nil => simp [Sorted, insert, keys]
  | cons entry rest ih =>
      obtain ⟨k, v⟩ := entry
      obtain ⟨hk, hrest⟩ := List.pairwise_cons.1 (show ((k :: keys rest).Pairwise (· < ·)) from h)
      simp only [insert]
      split
      · rename_i hlt
        refine List.pairwise_cons.2 ⟨fun x hx => ?_, h⟩
        rcases List.mem_cons.1 hx with rfl | hx'
        · exact hlt
        · exact String.lt_trans hlt (hk x hx')
      · split
        · rename_i heq
          exact List.pairwise_cons.2 ⟨fun x hx => heq ▸ hk x hx, hrest⟩
        · rename_i hnlt hne
          refine List.pairwise_cons.2 ⟨fun x hx => ?_, ih hrest⟩
          rcases mem_keys_insert hx with rfl | hx'
          · exact Decidable.byContradiction fun hn =>
              hne (String.le_antisymm (String.not_lt.1 hn) (String.not_lt.1 hnlt))
          · exact hk x hx'

theorem sorted_ofList (entries : List (String × α)) : Sorted (ofList entries) := by
  have general : ∀ (d : Dictionary α), Sorted d →
      Sorted (entries.foldl (fun d entry => insert entry.1 entry.2 d) d) := by
    induction entries with
    | nil => exact fun _ h => h
    | cons entry rest ih => exact fun d h => ih _ (sorted_insert _ _ h)
  exact general [] sorted_nil

end Dictionary

end PackageActions
