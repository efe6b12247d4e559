import PackageActions.Proofs.Repository.Configured

/-!
# Adding repositories

Names may repeat in a set. A look-up finds the first repository of a name, so what is added later never changes
what was found before (`get_addAll_of_mem`), while the answer to a probe lists every repository that might
support it, also one that no look-up finds. The two views of a set agree on all probes exactly if repositories
of one name have one format (`agreesWithLookUps_iff`), as they do if all names are distinct.
-/

namespace PackageActions

theorem Repository.mightSupport_ofKind (r : Repository) (kind : ActionKind) :
    r.mightSupport (AnyProbe.ofKind kind) = r.format.mightSupport kind :=
  congrArg r.format.mightSupport (AnyProbe.kind_ofKind kind)

namespace RepositorySet

variable {ρ : Type}

/-! ## Adding repositories -/

/-- The set with more repositories, added one after the other. -/
def addAll (added : List ρ) (set : RepositorySet ρ) : RepositorySet ρ :=
  added.foldl (fun set r => set.add r) set

theorem addAll_cons (r : ρ) (rest : List ρ) (set : RepositorySet ρ) :
    set.addAll (r :: rest) = (set.add r).addAll rest := rfl

theorem addAll_concat (added : List ρ) (r : ρ) (set : RepositorySet ρ) :
    set.addAll (added ++ [r]) = (set.addAll added).add r := by
  rw [addAll, List.foldl_append]
  rfl

theorem repositories_addAll (added : List ρ) (set : RepositorySet ρ) :
    (set.addAll added).repositories = set.repositories ++ added := by
  induction added generalizing set with
  | nil => rw [List.append_nil]; rfl
  | cons r rest ih => rw [addAll_cons, ih, repositories_add, List.append_assoc, List.singleton_append]

section Asking

variable [Askable ρ] {set : RepositorySet ρ} {r : ρ} {name : String}

/-! ## Look-ups -/

/-- The first repository of a name in a list. -/
def FirstNamed (name : String) (repositories : List ρ) (r : ρ) : Prop :=
  ∃ before after, repositories = before ++ r :: after ∧ Askable.name r = name ∧
    ∀ earlier ∈ before, Askable.name earlier ≠ name

theorem get_eq_ok_iff_firstNamed : set.get name = .ok r ↔ FirstNamed name set.repositories r := by
  have hfind : set.get name = .ok r ↔
      (set.repositories.find? fun r => Askable.name r = name) = some r := by
    rw [get]
    cases set.repositories.find? fun r => Askable.name r = name with
    | none => simp
    | some r' => simp
  rw [hfind, List.find?_eq_some_iff_append]
  constructor
  · rintro ⟨hname, before, after, hsplit, hbefore⟩
    exact ⟨before, after, hsplit, by simpa using hname, by simpa using hbefore⟩
  · rintro ⟨before, after, hsplit, hname, hbefore⟩
    exact ⟨by simpa using hname, before, after, hsplit, by simpa using hbefore⟩

theorem exists_get_eq_ok (h : name ∈ set.names) : ∃ r, set.get name = .ok r := by
  cases hget : set.get name with
  | ok r => exact ⟨r, rfl⟩
  | error e => exact absurd h (get_eq_error_iff.1 hget).1

/-- What is first of its name stays first when a repository is added. -/
theorem get_add_of_mem (h : name ∈ set.names) (r : ρ) : (set.add r).get name = set.get name := by
  obtain ⟨first, hfirst⟩ := exists_get_eq_ok h
  obtain ⟨before, after, hsplit, hname, hbefore⟩ := get_eq_ok_iff_firstNamed.1 hfirst
  rw [hfirst, get_eq_ok_iff_firstNamed, repositories_add, hsplit]
  exact ⟨before, after ++ [r], by simp, hname, hbefore⟩

theorem get_addAll_of_mem (h : name ∈ set.names) (added : List ρ) :
    (set.addAll added).get name = set.get name := by
  induction added generalizing set with
  | nil => rfl
  | cons r rest ih =>
      have hadd : name ∈ (set.add r).names := by
        rw [names_add]
        exact List.mem_append_left _ h
      rw [addAll_cons, ih hadd, get_add_of_mem h]

/-! ## Look-ups and answers to probes -/

/-- The answer to a probe names what a look-up finds to support it, and nothing else. -/
def AgreesWithLookUps {α : Type} [Probe α] (set : RepositorySet ρ) (probe : α) : Prop :=
  ∀ name, name ∈ set.mightSupport probe ↔
    ∃ r, set.get name = .ok r ∧ Askable.mightSupport probe r = true

/-- They agree on a probe unless a later repository of a name supports what the first does not. -/
theorem agreesWithLookUps_iff_first {α : Type} [Probe α] {probe : α} : set.AgreesWithLookUps probe ↔
    ∀ first r, r ∈ set.repositories → set.get (Askable.name r) = .ok first →
      Askable.mightSupport probe r = true → Askable.mightSupport probe first = true := by
  constructor
  · intro h first r hr hfirst hsupport
    obtain ⟨found, hfound, hfoundSupport⟩ := (h _).1 (mem_mightSupport_iff.2 ⟨r, hr, hsupport, rfl⟩)
    obtain rfl := Except.ok.inj (hfirst.symm.trans hfound)
    exact hfoundSupport
  · intro h name
    rw [mem_mightSupport_iff]
    constructor
    · rintro ⟨r, hr, hsupport, rfl⟩
      obtain ⟨first, hfirst⟩ := exists_get_eq_ok (List.mem_map_of_mem hr)
      exact ⟨first, hfirst, h first r hr hfirst hsupport⟩
    · rintro ⟨r, hget, hsupport⟩
      obtain ⟨hmem, hname⟩ := mem_of_get_eq_ok hget
      exact ⟨r, hmem, hsupport, hname⟩

/-- If all names are distinct, the first repository of a name is the only one. -/
theorem agreesWithLookUps_of_nodup (hnodup : set.names.Nodup) {α : Type} [Probe α] (probe : α) :
    set.AgreesWithLookUps probe := by
  refine agreesWithLookUps_iff_first.2 fun first r hr hfirst hsupport => ?_
  rw [(get_eq_ok_iff hnodup).2 ⟨hr, rfl⟩] at hfirst
  rwa [← Except.ok.inj hfirst]

end Asking

/-! ## Configured repositories -/

section Formats

variable {set : RepositorySet} {r : Repository}

/-- Repositories of one name have one format. -/
def OneFormatPerName (set : RepositorySet) : Prop :=
  ∀ r ∈ set.repositories, ∀ r' ∈ set.repositories, r.name = r'.name → r.format = r'.format

theorem OneFormatPerName.agreesWithLookUps (h : set.OneFormatPerName) {α : Type} [Probe α] (probe : α) :
    set.AgreesWithLookUps probe := by
  refine agreesWithLookUps_iff_first.2 fun first r hr hfirst hsupport => ?_
  obtain ⟨hmem, hname⟩ := mem_of_get_eq_ok hfirst
  show first.format.mightSupport _ = true
  rw [h first hmem r hr hname]
  exact hsupport

/-- Of a repository the probes tell the format, so one that is listed under a name has the format of the one
that is found under it. -/
theorem format_eq_of_agreesWithLookUps (h : ∀ probe : AnyProbe, set.AgreesWithLookUps probe)
    {first : Repository} (hr : r ∈ set.repositories) (hfirst : set.get r.name = .ok first) :
    first.format = r.format := by
  have hsupports : ∀ kind, r.format.mightSupport kind = true → first.format.mightSupport kind = true := by
    intro kind hkind
    have hfirst' := agreesWithLookUps_iff_first.1 (h (AnyProbe.ofKind kind)) first r hr hfirst
    simp only [Repository.askable_mightSupport, Repository.mightSupport_ofKind] at hfirst'
    exact hfirst' hkind
  -- one kind of action tells each format from the other
  cases hformat : r.format with
  | source => exact RepositoryFormat.mightSupport_fetch_iff.1 (hsupports .fetch (by rw [hformat]; rfl))
  | installed => exact RepositoryFormat.mightSupport_config_iff.1 (hsupports .config (by rw [hformat]; rfl))

theorem agreesWithLookUps_iff :
    (∀ probe : AnyProbe, set.AgreesWithLookUps probe) ↔ set.OneFormatPerName := by
  constructor
  · intro h r hr r' hr' hname
    obtain ⟨first, hfirst⟩ := exists_get_eq_ok (List.mem_map_of_mem hr)
    rw [Repository.askable_name] at hfirst
    rw [← format_eq_of_agreesWithLookUps h hr hfirst]
    apply format_eq_of_agreesWithLookUps h hr'
    rw [← hname, hfirst]
  · intro h probe
    exact h.agreesWithLookUps probe

end Formats

/-- Whatever set one starts from and whatever its repositories are, adding repositories one after the other lists
them behind it in that order. A look-up finds the first repository of a name and fails if there is none, so
adding never changes what is found under a name that was there. In the answer to a probe the name of the last one
added stands last, if it supports the probe. If all names are distinct, the answers list exactly what look-ups
find to support the probe; for all probes together a set of configured repositories does so exactly if those of
one name have one format. -/
theorem addAll_keeps_order [Askable ρ] (set : RepositorySet ρ) (added : List ρ) :
    (set.addAll added).repositories = set.repositories ++ added ∧
      (∀ name r, (set.addAll added).get name = .ok r ↔ FirstNamed name (set.repositories ++ added) r) ∧
      (∀ name e, (set.addAll added).get name = .error e ↔
        (∀ r ∈ set.repositories ++ added, Askable.name r ≠ name) ∧ e = .notFound name) ∧
      (∀ name ∈ set.names, (set.addAll added).get name = set.get name) ∧
      (∀ {α : Type} [Probe α] (probe : α) r, (set.addAll (added ++ [r])).mightSupport probe =
        (set.addAll added).mightSupport probe ++
          if Askable.mightSupport probe r then [Askable.name r] else []) ∧
      ((set.addAll added).names.Nodup → ∀ {α : Type} [Probe α] (probe : α),
        (set.addAll added).AgreesWithLookUps probe) ∧
      ∀ configured : RepositorySet,
        (∀ probe : AnyProbe, configured.AgreesWithLookUps probe) ↔ configured.OneFormatPerName := by
  have hall : (set.addAll added).repositories = set.repositories ++ added := repositories_addAll added set
  refine ⟨hall, fun name r => ?_, fun name e => ?_, fun name hname => get_addAll_of_mem hname added,
    fun probe r => ?_, fun hnodup _ _ probe => agreesWithLookUps_of_nodup hnodup probe,
    fun _ => agreesWithLookUps_iff⟩
  · rw [get_eq_ok_iff_firstNamed, hall]
  · have hnames : name ∉ (set.addAll added).names ↔
        ∀ r ∈ set.repositories ++ added, Askable.name r ≠ name := by
      rw [names, hall, List.mem_map]
      push Not
      rfl
    rw [get_eq_error_iff, hnames]
  · rw [addAll_concat, mightSupport_add]

/-- A second repository of a name is not found, but it is listed. -/
theorem addAll_keeps_order_second_of_name :
    let set := ofConfig [("main", ⟨.source, none⟩)]
    "main" ∈ set.names ∧ (set.addAll [⟨"main", .installed, none⟩]).get "main" = set.get "main" ∧
      (¬ ∀ probe : AnyProbe, (set.addAll [⟨"main", .installed, none⟩]).AgreesWithLookUps probe) ∧
      (set.addAll [⟨"live", .installed, none⟩]).names.Nodup ∧
        (set.addAll [⟨"live", .installed, none⟩]).AgreesWithLookUps (AnyProbe.ofKind .config) := by
  intro set
  have hmain : "main" ∈ set.names := by decide
  obtain ⟨-, -, -, hkept, -, -, hagree⟩ := addAll_keeps_order set [⟨"main", .installed, none⟩]
  obtain ⟨-, -, -, -, -, hdistinct, -⟩ := addAll_keeps_order set [⟨"live", .installed, none⟩]
  have hnodup : (set.addAll [⟨"live", .installed, none⟩]).names.Nodup := by decide
  refine ⟨hmain, hkept "main" hmain, ?_, hnodup, hdistinct hnodup _⟩
  rw [hagree]
  intro hformats
  have hsame := hformats ⟨"main", .source, none⟩ (by decide) ⟨"main", .installed, none⟩ (by decide) rfl
  cases hsame

end RepositorySet

end PackageActions
