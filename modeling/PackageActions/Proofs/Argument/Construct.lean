import PackageActions.Proofs.Argument.Nesting
import PackageActions.Proofs.Argument.Records
import PackageActions.Proofs.Class

/-!
# What can be built

A value is built from its fields in order, and a record also from a mapping that gives it. That is all that
can be built, and a value is built by the name of its own class only (`construct_eq_ok_iff`). So what is
built belongs to the class that was asked for and to the one above it, and to no other; and every value has
a JSON request that it is built from (`Object.request`).
-/

namespace PackageActions

open Dictionary

/-! ## Classes of values -/

namespace Object

theorem isAbstract_classOf (o : Object) : o.classOf.isAbstract = false := by
  cases o with
  | action a => cases a <;> rfl
  | options o => rfl
  | failure f => rfl
  | probe p => cases p <;> rfl

theorem isA_iff (o : Object) (c : Class) :
    o.isA c = true ↔ c = o.classOf ∨ o.classOf.superclass? = some c := by
  simp only [isA, Class.isSubclassOf, Bool.or_eq_true, decide_eq_true_eq]
  exact or_congr_left eq_comm

theorem isA_action_iff (o : Object) : o.isA .action = true ↔ ∃ a, o = .action a := by
  cases o with
  | action a => cases a <;> exact iff_of_true rfl ⟨_, rfl⟩
  | options o => exact iff_of_false Bool.false_ne_true nofun
  | failure f => exact iff_of_false Bool.false_ne_true nofun
  | probe p => cases p <;> exact iff_of_false Bool.false_ne_true nofun

theorem isA_probe_iff (o : Object) : o.isA .probe = true ↔ ∃ p, o = .probe p := by
  cases o with
  | action a => cases a <;> exact iff_of_false Bool.false_ne_true nofun
  | options o => exact iff_of_false Bool.false_ne_true nofun
  | failure f => exact iff_of_false Bool.false_ne_true nofun
  | probe p => cases p <;> exact iff_of_true rfl ⟨_, rfl⟩

/-! ## What values are built from -/

/-- The fields of a value in order, as arguments. -/
def fields : Object → List Argument
  | .action (.fetch o) => [.object (.options o)]
  | .action .info => []
  | .action .config => []
  | .options o => [.bool o.safeResume, .bool o.fetchUnneeded]
  | .failure f => [.text f.targetFile, .bool f.requiresManualFetching, .bool f.failedAutomaticFetching,
      .text f.failedIntegrityChecks]
  | .probe _ => []

/-- A mapping gives a value, which is then a record. -/
def NamedBy (m : Mapping) : Object → Prop
  | .options o => o.GivenBy .bool m
  | .failure f => f.GivenBy .bool .text m
  | .action _ => False
  | .probe _ => False

end Object

theorem withoutArguments_eq_ok_iff {c : Class} {o o' : Object} {args : List Argument} :
    withoutArguments c o args = .ok o' ↔ args = [] ∧ o = o' := by
  cases args <;> simp [withoutArguments]

theorem fetchArgument_eq_ok {args : List Argument} {o : FetchOptions} (h : fetchArgument args = .ok o) :
    args = [.object (.options o)] := by
  unfold fetchArgument at h
  split at h
  · rw [Except.ok.inj h]
  · cases h
  · cases h

/-- Options are built from two flags or from a mapping that gives them. -/
theorem FetchOptions.ofArguments_eq_ok {args : List Argument} {o : FetchOptions}
    (h : FetchOptions.ofArguments args = .ok o) :
    args = [.bool o.safeResume, .bool o.fetchUnneeded] ∨
      ∃ m, args = [.mapping m] ∧ o.GivenBy .bool m := by
  unfold FetchOptions.ofArguments at h
  split at h
  · rename_i m
    exact Or.inr ⟨m, rfl, ofMapping_eq_ok_iff.1 h⟩
  · cases h
  · rename_i a b
    rw [← ofArguments_pair] at h
    obtain ⟨rfl, rfl⟩ := ofArguments_pair_eq_ok_iff.1 h
    exact Or.inl rfl
  · cases h

/-- A record of a failed file is built from its four fields or from a mapping that gives it. -/
theorem FetchFailure.ofArguments_eq_ok {args : List Argument} {f : FetchFailure}
    (h : FetchFailure.ofArguments args = .ok f) :
    args = [.text f.targetFile, .bool f.requiresManualFetching, .bool f.failedAutomaticFetching,
        .text f.failedIntegrityChecks] ∨
      ∃ m, args = [.mapping m] ∧ f.GivenBy .bool .text m := by
  unfold FetchFailure.ofArguments at h
  split at h
  · rename_i m
    exact Or.inr ⟨m, rfl, ofMapping_eq_ok_iff.1 h⟩
  · cases h
  · rename_i a b c d
    rw [← ofArguments_four] at h
    obtain ⟨rfl, rfl, rfl, rfl⟩ := ofArguments_four_eq_ok_iff.1 h
    exact Or.inl rfl
  · cases h

theorem construct_fields (o : Object) : construct o.classOf o.fields = .ok o := by
  cases o with
  | action a => cases a <;> rfl
  | options o =>
      exact Except.map_eq_ok_iff.2 ⟨o, FetchOptions.ofArguments_pair_eq_ok_iff.2 ⟨rfl, rfl⟩, rfl⟩
  | failure f =>
      exact Except.map_eq_ok_iff.2
        ⟨f, FetchFailure.ofArguments_four_eq_ok_iff.2 ⟨rfl, rfl, rfl, rfl⟩, rfl⟩
  | probe p => cases p <;> rfl

theorem construct_of_namedBy {o : Object} {m : Mapping} (h : o.NamedBy m) :
    construct o.classOf [.mapping m] = .ok o := by
  cases o with
  | action a => exact h.elim
  | options o => exact Except.map_eq_ok_iff.2 ⟨o, FetchOptions.ofMapping_eq_ok_iff.2 h, rfl⟩
  | failure f => exact Except.map_eq_ok_iff.2 ⟨f, FetchFailure.ofMapping_eq_ok_iff.2 h, rfl⟩
  | probe p => exact h.elim

/-- Whatever is built is of the class asked for, and its own fields or a mapping of them were given. -/
theorem construct_eq_ok {c : Class} {args : List Argument} {o : Object}
    (h : construct c args = .ok o) :
    o.classOf = c ∧ (args = o.fields ∨ ∃ m, args = [.mapping m] ∧ o.NamedBy m) := by
  cases c with
  | action => cases h
  | probe => cases h
  | fetchAction =>
      obtain ⟨options, hoptions, rfl⟩ := Except.map_eq_ok_iff.1 h
      exact ⟨rfl, Or.inl (fetchArgument_eq_ok hoptions)⟩
  | fetchOptions =>
      obtain ⟨options, hoptions, rfl⟩ := Except.map_eq_ok_iff.1 h
      exact ⟨rfl, FetchOptions.ofArguments_eq_ok hoptions⟩
  | fetchFailure =>
      obtain ⟨failure, hfailure, rfl⟩ := Except.map_eq_ok_iff.1 h
      exact ⟨rfl, FetchFailure.ofArguments_eq_ok hfailure⟩
  | infoAction | configAction | fetchProbe | infoProbe | configProbe =>
      obtain ⟨rfl, rfl⟩ := withoutArguments_eq_ok_iff.1 h
      exact ⟨rfl, Or.inl rfl⟩

theorem construct_eq_ok_iff {c : Class} {args : List Argument} {o : Object} :
    construct c args = .ok o ↔
      o.classOf = c ∧ (args = o.fields ∨ ∃ m, args = [.mapping m] ∧ o.NamedBy m) := by
  constructor
  · exact construct_eq_ok
  · rintro ⟨rfl, rfl | ⟨m, rfl, hm⟩⟩
    · exact construct_fields o
    · exact construct_of_namedBy hm

/-! ## Arguments that are accepted -/

/-- The mapping has flags only, under keys of options of a fetch. -/
def Mapping.HoldsOptions (m : Mapping) : Prop :=
  (∀ key ∈ keys m, key ∈ FetchOptions.keys) ∧ ∀ key a, get? m key = some a → ∃ b, a = .bool b

/-- The mapping has exactly the keys of a record of a failed file, each with a value of its type. -/
def Mapping.HoldsFailure (m : Mapping) : Prop :=
  (∀ key, key ∈ keys m ↔ key ∈ FetchFailure.keys) ∧
    (∃ s, get? m "target_file" = some (.text s)) ∧
    (∃ b, get? m "requires_manual_fetching" = some (.bool b)) ∧
    (∃ b, get? m "failed_automatic_fetching" = some (.bool b)) ∧
    ∃ s, get? m "failed_integrity_checks" = some (.text s)

/-- The arguments that a value of a class can be built from. -/
def Class.Accepts (args : List Argument) : Class → Prop
  | .action => False
  | .probe => False
  | .fetchAction => ∃ o, args = [.object (.options o)]
  | .fetchOptions =>
    (∃ a b, args = [.bool a, .bool b]) ∨ ∃ m : Mapping, args = [.mapping m] ∧ m.HoldsOptions
  | .fetchFailure =>
    (∃ s a b t, args = [.text s, .bool a, .bool b, .text t]) ∨
      ∃ m : Mapping, args = [.mapping m] ∧ m.HoldsFailure
  | .infoAction => args = []
  | .configAction => args = []
  | .fetchProbe => args = []
  | .infoProbe => args = []
  | .configProbe => args = []

theorem FetchOptions.exists_givenBy_iff {m : Mapping} :
    (∃ o : FetchOptions, o.GivenBy .bool m) ↔ m.HoldsOptions :=
  exists_givenBy_flag_iff

theorem FetchFailure.exists_givenBy_iff {m : Mapping} :
    (∃ f : FetchFailure, f.GivenBy .bool .text m) ↔ m.HoldsFailure := by
  constructor
  · rintro ⟨f, h⟩
    refine ⟨fun key => ⟨h.known key, fun hkey => ?_⟩, ⟨_, h.targetFile⟩,
      ⟨_, h.requiresManualFetching⟩, ⟨_, h.failedAutomaticFetching⟩, ⟨_, h.failedIntegrityChecks⟩⟩
    rw [Dictionary.mem_keys_iff]
    rcases FetchFailure.mem_keys_iff.1 hkey with rfl | rfl | rfl | rfl
    · rw [h.targetFile]; rfl
    · rw [h.requiresManualFetching]; rfl
    · rw [h.failedAutomaticFetching]; rfl
    · rw [h.failedIntegrityChecks]; rfl
  · rintro ⟨hkeys, ⟨s, hs⟩, ⟨a, ha⟩, ⟨b, hb⟩, ⟨t, ht⟩⟩
    exact ⟨⟨s, a, b, t⟩, fun key => (hkeys key).1, hs, ha, hb, ht⟩

theorem Class.accepts_of_construct {c : Class} {args : List Argument} {o : Object}
    (h : construct c args = .ok o) : c.Accepts args := by
  obtain ⟨rfl, hargs⟩ := construct_eq_ok h
  rcases hargs with rfl | ⟨m, rfl, hm⟩
  · cases o with
    | action a =>
        cases a with
        | fetch options => exact ⟨options, rfl⟩
        | info => rfl
        | config => rfl
    | options o => exact Or.inl ⟨_, _, rfl⟩
    | failure f => exact Or.inl ⟨_, _, _, _, rfl⟩
    | probe p => cases p <;> rfl
  · cases o with
    | action a => exact hm.elim
    | options o => exact Or.inr ⟨m, rfl, FetchOptions.exists_givenBy_iff.1 ⟨o, hm⟩⟩
    | failure f => exact Or.inr ⟨m, rfl, FetchFailure.exists_givenBy_iff.1 ⟨f, hm⟩⟩
    | probe p => exact hm.elim

theorem Class.exists_construct_of_accepts {c : Class} {args : List Argument} (h : c.Accepts args) :
    ∃ o, construct c args = .ok o := by
  cases c with
  | action => exact h.elim
  | probe => exact h.elim
  | fetchAction =>
      obtain ⟨options, rfl⟩ := h
      exact ⟨_, construct_fields (.action (.fetch options))⟩
  | fetchOptions =>
      rcases h with ⟨a, b, rfl⟩ | ⟨m, rfl, hm⟩
      · exact ⟨_, construct_fields (.options ⟨a, b⟩)⟩
      · obtain ⟨o, ho⟩ := FetchOptions.exists_givenBy_iff.2 hm
        exact ⟨_, construct_of_namedBy (show (Object.options o).NamedBy m from ho)⟩
  | fetchFailure =>
      rcases h with ⟨s, a, b, t, rfl⟩ | ⟨m, rfl, hm⟩
      · exact ⟨_, construct_fields (.failure ⟨s, a, b, t⟩)⟩
      · obtain ⟨f, hf⟩ := FetchFailure.exists_givenBy_iff.2 hm
        exact ⟨_, construct_of_namedBy (show (Object.failure f).NamedBy m from hf)⟩
  | infoAction | configAction | fetchProbe | infoProbe | configProbe =>
      obtain rfl : args = [] := h
      exact ⟨_, rfl⟩

/-! ## Requests -/

theorem Json.sorted_request_iff {name : String} {args : Json} :
    (Json.request name args).Sorted ↔ args.Sorted := by
  have hkeys : Dictionary.Sorted [("args", args), ("new", Json.string name)] :=
    show ["args", "new"].Pairwise (· < ·) by decide
  simp only [Json.request, Json.Sorted, Json.SortedMembers, hkeys, true_and, and_true]

namespace Argument

/-- A request is read by reading its arguments and building from them. -/
theorem ofJson_request_of_items {c : Class} {items : List Json} {args : List Argument} {o : Object}
    (hitems : ofItems items = .ok args) (ho : construct c args = .ok o) :
    ofJson (.request c.name (.array items)) = .ok (.object o) := by
  rw [ofJson_request_args, Class.ofName_name, ofJson_array, hitems]
  exact Except.map_eq_ok_iff.2 ⟨o, ho, rfl⟩

end Argument

namespace Object

open Argument

/-- JSON values for the fields of a value in order. -/
def fieldRequests : Object → List Json
  | .action (.fetch o) =>
    [.request FetchOptions.className (.array [.bool o.safeResume, .bool o.fetchUnneeded])]
  | .action .info => []
  | .action .config => []
  | .options o => [.bool o.safeResume, .bool o.fetchUnneeded]
  | .failure f => [.string f.targetFile, .bool f.requiresManualFetching,
      .bool f.failedAutomaticFetching, .string f.failedIntegrityChecks]
  | .probe _ => []

/-- A request for a value of the class of the given one, from the same fields. -/
def request (o : Object) : Json := .request o.classOf.name (.array o.fieldRequests)

theorem ofItems_fieldRequests (o : Object) : ofItems o.fieldRequests = .ok o.fields := by
  cases o with
  | action a =>
      cases a with
      | fetch options =>
          have hoptions : ofJson (.request Class.fetchOptions.name
              (.array [.bool options.safeResume, .bool options.fetchUnneeded])) =
                .ok (.object (.options options)) :=
            ofJson_request_of_items rfl (construct_fields (.options options))
          exact ofItems_eq_ok_iff.2 (.cons hoptions .nil)
      | info => rfl
      | config => rfl
  | options o => rfl
  | failure f => rfl
  | probe p => rfl

theorem ofJson_request (o : Object) : ofJson o.request = .ok (.object o) :=
  ofJson_request_of_items (ofItems_fieldRequests o) (construct_fields o)

theorem sorted_request (o : Object) : o.request.Sorted := by
  rw [request, Json.sorted_request_iff]
  cases o with
  | action a =>
      cases a with
      | fetch options => exact ⟨Json.sorted_request_iff.2 ⟨trivial, trivial, trivial⟩, trivial⟩
      | info => trivial
      | config => trivial
  | options o => exact ⟨trivial, trivial, trivial⟩
  | failure f => exact ⟨trivial, trivial, trivial, trivial, trivial⟩
  | probe p => trivial

end Object

/-- Building succeeds exactly on the arguments that the class accepts, never for an abstract class. What is
built has the fields that were given, in order or by name; it belongs to the class asked for, to the class
above it and to no other. The abstract classes are those with others below them: all actions belong to the one
of them and all probes to the other. Every value can be built by a JSON request. -/
theorem construct_sound_and_complete :
    (∀ c args, (∃ o, construct c args = .ok o) ↔ c.Accepts args) ∧
      (∀ c args o, construct c args = .ok o ↔
        o.classOf = c ∧ (args = o.fields ∨ ∃ m, args = [.mapping m] ∧ o.NamedBy m)) ∧
      (∀ c args o, construct c args = .ok o → o.classOf = c ∧ c.isAbstract = false ∧
        ∀ d, o.isA d = true ↔ d = c ∨ c.superclass? = some d) ∧
      (∀ c d : Class, c.superclass? = some d ↔ c.Below d) ∧
      (∀ c : Class, c.isAbstract = true ↔ ∃ d : Class, d.Below c) ∧
      (∀ o : Object, (o.isA .action = true ↔ ∃ a, o = .action a) ∧
        (o.isA .probe = true ↔ ∃ p, o = .probe p)) ∧
      ∀ o : Object, o.request.Sorted ∧ Argument.ofJson o.request = .ok (.object o) := by
  refine ⟨fun c args => ?_, fun c args o => construct_eq_ok_iff, fun c args o h => ?_,
    fun c d => Class.superclass?_eq_some_iff, fun c => Class.isAbstract_iff,
    fun o => ⟨o.isA_action_iff, o.isA_probe_iff⟩, fun o => ?_⟩
  · constructor
    · rintro ⟨o, h⟩
      exact Class.accepts_of_construct h
    · exact Class.exists_construct_of_accepts
  · obtain ⟨rfl, -⟩ := construct_eq_ok h
    exact ⟨rfl, o.isAbstract_classOf, o.isA_iff⟩
  · exact ⟨o.sorted_request, o.ofJson_request⟩

end PackageActions
