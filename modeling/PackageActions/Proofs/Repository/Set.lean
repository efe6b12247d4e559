import Mathlib.Data.List.Nodup
import PackageActions.Proofs.Dictionary
import PackageActions.Repository.Set

/-!
# One repository and all of them

A look-up fails exactly for the names that the set does not have (`get_eq_error_iff`), and if no two
repositories have one name it finds every repository by its name (`get_eq_ok_iff`). What such a set lists
as answer to a probe is then what its repositories answer one by one: a single question tells whether the
name is in the list (`ask_eq_decide`), and the list joins the single answers (`mightSupport_eq_flatMap`).
-/

namespace PackageActions.RepositorySet

variable {ρ : Type} [Askable ρ] {set : RepositorySet ρ} {r : ρ} {name : String}

/-! ## Look-ups -/

theorem get_eq_error_iff {e : RepositoryError} :
    set.get name = .error e ↔ name ∉ set.names ∧ e = .notFound name := by
  have hnone : (set.repositories.find? fun r => Askable.name r = name) = none ↔ name ∉ set.names := by
    simp [names]
  rw [get, ← hnone]
  cases set.repositories.find? fun r => Askable.name r = name with
  | none => simpa using eq_comm
  | some r => simp

theorem mem_of_get_eq_ok (h : set.get name = .ok r) :
    r ∈ set.repositories ∧ Askable.name r = name := by
  unfold get at h
  split at h
  · rename_i r' hfind
    obtain rfl := Except.ok.inj h
    exact ⟨List.mem_of_find?_eq_some hfind, by simpa using List.find?_some hfind⟩
  · cases h

theorem get_eq_ok_iff (hnodup : set.names.Nodup) :
    set.get name = .ok r ↔ r ∈ set.repositories ∧ Askable.name r = name := by
  refine ⟨mem_of_get_eq_ok, ?_⟩
  rintro ⟨hr, rfl⟩
  cases hget : set.get (Askable.name r) with
  | error e =>
      have hname : Askable.name r ∈ set.names := List.mem_map_of_mem hr
      exact absurd hname (get_eq_error_iff.1 hget).1
  | ok r' =>
      -- what is found has the same name, so it is the repository itself
      obtain ⟨hr', hname⟩ := mem_of_get_eq_ok hget
      rw [List.inj_on_of_nodup_map hnodup hr' hr hname]

/-! ## Probes -/

variable {α : Type} [Probe α] {probe : α}

theorem mem_mightSupport_iff : name ∈ set.mightSupport probe ↔
    ∃ r ∈ set.repositories, Askable.mightSupport probe r = true ∧ Askable.name r = name := by
  simp [mightSupport, and_assoc]

theorem mightSupport_sublist : (set.mightSupport probe).Sublist set.names :=
  List.filter_sublist.map Askable.name

/-- The list of all joins what each repository has to say of itself. -/
theorem mightSupport_eq_flatMap : set.mightSupport probe =
    set.repositories.flatMap fun r => if Askable.mightSupport probe r then [Askable.name r] else [] := by
  rw [mightSupport]
  induction set.repositories with
  | nil => rfl
  | cons r rest ih =>
      rw [List.flatMap_cons, ← ih]
      cases hr : Askable.mightSupport probe r with
      | true => rw [List.filter_cons_of_pos hr]; rfl
      | false => rw [List.filter_cons_of_neg (by simp [hr])]; rfl

theorem ask_eq_error_iff {e : RepositoryError} :
    set.ask name probe = .error e ↔ name ∉ set.names ∧ e = .notFound name := by
  rw [ask, Except.map_eq_error_iff, get_eq_error_iff]

theorem ask_name (hnodup : set.names.Nodup) (hr : r ∈ set.repositories) :
    set.ask (Askable.name r) probe = .ok (Askable.mightSupport probe r) := by
  rw [ask, (get_eq_ok_iff hnodup).2 ⟨hr, rfl⟩]
  rfl

theorem ask_eq_decide (hnodup : set.names.Nodup) (hname : name ∈ set.names) :
    set.ask name probe = .ok (decide (name ∈ set.mightSupport probe)) := by
  obtain ⟨r, hr, rfl⟩ := List.mem_map.1 hname
  rw [ask_name hnodup hr, Except.ok.injEq, Bool.eq_iff_iff, decide_eq_true_iff, mem_mightSupport_iff]
  constructor
  · exact fun h => ⟨r, hr, h, rfl⟩
  · rintro ⟨r', hr', h, hsame⟩
    rwa [← List.inj_on_of_nodup_map hnodup hr' hr hsame]

/-! ## Configured sets -/

theorem nodup_names_ofConfig {config : Dictionary RepositoryConfig} (h : Dictionary.Sorted config) :
    (ofConfig config).names.Nodup := by
  rw [names_ofConfig]
  exact h.nodup_keys

end PackageActions.RepositorySet
