import Mathlib.Data.List.Perm.Basic
import PackageActions.Proofs.Repository.Set

/-!
# Configured sets

The set that a configuration gives has the configured repositories and no others, each under its own name and
with its own settings, in the order of the names (`Represents`). What its repositories say to a probe follows
from their formats: all of them can give information, and of the other two kinds of action a repository might
support the one or the other, never both (`AnswersByFormat`).
-/

namespace PackageActions

open Dictionary

/-! ## Formats and kinds of action -/

namespace RepositoryFormat

variable {format : RepositoryFormat}

theorem mightSupport_info (format : RepositoryFormat) : format.mightSupport .info = true := by
  cases format <;> rfl

theorem mightSupport_fetch_iff : format.mightSupport .fetch = true ↔ format = .source := by
  cases format <;> decide

theorem mightSupport_config_iff : format.mightSupport .config = true ↔ format = .installed := by
  cases format <;> decide

/-- What can be fetched is not in place yet, and what is in place can be configured. -/
theorem mightSupport_config_eq_not (format : RepositoryFormat) :
    format.mightSupport .config = !format.mightSupport .fetch := by
  cases format <;> rfl

end RepositoryFormat

namespace RepositorySet

variable {config : Dictionary RepositoryConfig} {set : RepositorySet} {name : String}

/-! ## Repositories of a configured set -/

/-- The set is filled by adding one repository after the other. -/
theorem ofConfig_eq_foldl_add (config : Dictionary RepositoryConfig) : ofConfig config =
    config.foldl (fun set entry => set.add ⟨entry.1, entry.2.format, entry.2.location⟩) {} := by
  -- what is added goes behind what the set has already
  have general : ∀ set : RepositorySet,
      (⟨set.repositories ++ (ofConfig config).repositories⟩ : RepositorySet) =
        config.foldl (fun set entry => set.add ⟨entry.1, entry.2.format, entry.2.location⟩) set := by
    induction config with
    | nil => simp [ofConfig]
    | cons entry rest ih =>
        intro set
        rw [List.foldl_cons, ← ih]
        simp [ofConfig]
  exact general {}

/-- A look-up in the set is a look-up in the configuration. -/
theorem get_ofConfig (config : Dictionary RepositoryConfig) (name : String) :
    (ofConfig config).get name = match get? config name with
      | some c => .ok ⟨name, c.format, c.location⟩
      | none => .error (.notFound name) := by
  induction config with
  | nil => rfl
  | cons entry rest ih =>
      obtain ⟨k, c⟩ := entry
      rw [get?_cons]
      by_cases hk : k = name
      · simp [get, ofConfig, hk]
      · rw [if_neg hk, ← ih]
        simp [get, ofConfig, hk]

/-! ## Answers to probes -/

/-- Only the kind of a probe counts. -/
theorem mightSupport_congr {α β : Type} [Probe α] [Probe β] {p : α} {q : β}
    (h : Probe.kind p = Probe.kind q) (set : RepositorySet) : set.mightSupport p = set.mightSupport q := by
  simp only [mightSupport, Repository.askable_mightSupport, Repository.mightSupport, h]

theorem mightSupport_info (set : RepositorySet) :
    set.mightSupport (AnyProbe.ofKind .info) = set.names := by
  have hall : ∀ r ∈ set.repositories, Askable.mightSupport (AnyProbe.ofKind .info) r = true :=
    fun r _ => RepositoryFormat.mightSupport_info r.format
  rw [mightSupport, List.filter_eq_self.2 hall, names]

theorem mem_mightSupport_ofConfig_iff (h : Sorted config) {α : Type} [Probe α] {probe : α} :
    name ∈ (ofConfig config).mightSupport probe ↔
      ∃ c, get? config name = some c ∧ c.format.mightSupport (Probe.kind probe) = true := by
  simp only [mem_mightSupport_iff, get?_eq_some_iff_mem h, ofConfig, List.mem_map]
  constructor
  · rintro ⟨_, ⟨⟨k, c⟩, hmem, rfl⟩, hsupport, rfl⟩
    exact ⟨c, hmem, hsupport⟩
  · rintro ⟨c, hmem, hsupport⟩
    exact ⟨_, ⟨_, hmem, rfl⟩, hsupport, rfl⟩

/-- Fetching and configuring divide a set between them. -/
theorem mightSupport_fetch_append_config_perm (set : RepositorySet) :
    (set.mightSupport (AnyProbe.ofKind .fetch) ++ set.mightSupport (AnyProbe.ofKind .config)).Perm
      set.names := by
  have hnot : ∀ r : Repository, Askable.mightSupport (AnyProbe.ofKind .config) r =
      !Askable.mightSupport (AnyProbe.ofKind .fetch) r :=
    fun r => RepositoryFormat.mightSupport_config_eq_not r.format
  simp only [mightSupport, hnot]
  rw [← List.map_append]
  exact (List.filter_append_perm _ _).map Askable.name

/-! ## Faithfulness -/

/-- A set has the repositories of a configuration: under their names, in the order of the names, and with
their settings. -/
structure Represents (set : RepositorySet) (config : Dictionary RepositoryConfig) : Prop where
  filled : set =
    config.foldl (fun set entry => set.add ⟨entry.1, entry.2.format, entry.2.location⟩) {}
  names : set.names = keys config
  increasing : set.names.Pairwise (· < ·)
  size : set.size = config.length
  isEmpty : set.isEmpty = true ↔ config = []
  known : ∀ name c, get? config name = some c → set.get name = .ok ⟨name, c.format, c.location⟩
  unknown : ∀ name, name ∉ keys config → set.get name = .error (.notFound name)

/-- The answers of a set to probes are told by the formats that are configured. -/
structure AnswersByFormat (set : RepositorySet) (config : Dictionary RepositoryConfig) : Prop where
  info : set.mightSupport (AnyProbe.ofKind .info) = set.names
  fetch : ∀ name, name ∈ set.mightSupport (AnyProbe.ofKind .fetch) ↔
    ∃ c, get? config name = some c ∧ c.format = .source
  config : ∀ name, name ∈ set.mightSupport (AnyProbe.ofKind .config) ↔
    ∃ c, get? config name = some c ∧ c.format = .installed
  ordered : ∀ kind, (set.mightSupport (AnyProbe.ofKind kind)).Sublist set.names
  disjoint : (set.mightSupport (AnyProbe.ofKind .fetch)).Disjoint
    (set.mightSupport (AnyProbe.ofKind .config))
  together : (set.mightSupport (AnyProbe.ofKind .fetch) ++
    set.mightSupport (AnyProbe.ofKind .config)).Perm (set.mightSupport (AnyProbe.ofKind .info))

theorem represents_ofConfig (h : Sorted config) : (ofConfig config).Represents config where
  filled := ofConfig_eq_foldl_add config
  names := names_ofConfig config
  increasing := by rwa [names_ofConfig]
  size := by simp [RepositorySet.size, ofConfig]
  isEmpty := by simp [RepositorySet.isEmpty, ofConfig]
  known name c hc := by rw [get_ofConfig, hc]
  unknown name hname := by rw [get_ofConfig, get?_eq_none_iff.2 hname]

theorem answersByFormat_ofConfig (h : Sorted config) : (ofConfig config).AnswersByFormat config := by
  have hfetch : ∀ name, name ∈ (ofConfig config).mightSupport (AnyProbe.ofKind .fetch) ↔
      ∃ c, get? config name = some c ∧ c.format = .source := by
    intro name
    rw [mem_mightSupport_ofConfig_iff h]
    exact exists_congr fun c => and_congr_right fun _ => RepositoryFormat.mightSupport_fetch_iff
  have hconfig : ∀ name, name ∈ (ofConfig config).mightSupport (AnyProbe.ofKind .config) ↔
      ∃ c, get? config name = some c ∧ c.format = .installed := by
    intro name
    rw [mem_mightSupport_ofConfig_iff h]
    exact exists_congr fun c => and_congr_right fun _ => RepositoryFormat.mightSupport_config_iff
  refine ⟨mightSupport_info _, hfetch, hconfig, fun kind => mightSupport_sublist, ?_, ?_⟩
  · -- a name has one repository, and this has one format
    intro name hname hname'
    obtain ⟨c, hc, hsource⟩ := (hfetch name).1 hname
    obtain ⟨c', hc', hinstalled⟩ := (hconfig name).1 hname'
    obtain rfl := Option.some.inj (hc.symm.trans hc')
    rw [hsource] at hinstalled
    cases hinstalled
  · rw [mightSupport_info]
    exact mightSupport_fetch_append_config_perm _

/-- A configured set represents its configuration, and the formats there tell its answers to probes. Every
repository might give information, and all that counts of a probe, of whatever type, is its kind. -/
theorem ofConfig_faithful {config : Dictionary RepositoryConfig} (h : Sorted config) :
    (ofConfig config).Represents config ∧ (ofConfig config).AnswersByFormat config ∧
      (∀ r : Repository, r.mightSupport (AnyProbe.ofKind .info) = true) ∧
      ∀ {kind : ActionKind} (typed : TypedProbe kind) (any : AnyProbe), any.kind = kind →
        (∀ r : Repository, r.mightSupport typed = r.mightSupport any) ∧
          ∀ set : RepositorySet, set.mightSupport typed = set.mightSupport any := by
  refine ⟨represents_ofConfig h, answersByFormat_ofConfig h,
    fun r => RepositoryFormat.mightSupport_info r.format, fun typed any hkind => ?_⟩
  have hsame : Probe.kind typed = Probe.kind any := hkind.symm
  exact ⟨fun r => congrArg r.format.mightSupport hsame, fun set => mightSupport_congr hsame set⟩

theorem ofConfig_faithful_two_formats :
    let config : Dictionary RepositoryConfig :=
      [("Live", ⟨.installed, none⟩), ("tree", ⟨.source, some "/srv"⟩)]
    Sorted config ∧ (ofConfig config).get "tree" = .ok ⟨"tree", .source, some "/srv"⟩ ∧
      (ofConfig config).get "live" = .error (.notFound "live") ∧
      "tree" ∈ (ofConfig config).mightSupport (AnyProbe.ofKind .fetch) := by
  intro config
  have hsorted : Sorted config := show ["Live", "tree"].Pairwise (· < ·) by decide
  obtain ⟨hset, hanswers, -⟩ := ofConfig_faithful hsorted
  exact ⟨hsorted, hset.known "tree" ⟨.source, some "/srv"⟩ rfl, hset.unknown _ (by decide),
    (hanswers.fetch _).2 ⟨_, rfl, rfl⟩⟩

end RepositorySet

end PackageActions
