import PackageActions.Proofs.Argument.Records

/-!
# Reasons for a refusal

When a value cannot be built, the error tells one reason, and `Class.Refuses` says which. An abstract class
refuses everything. A number of arguments that no form of the class takes is reported as such. In the named
form of a record the least foreign key comes first, whatever the values are, and then the first field in the
order declared that is at fault (`FirstFault`); in the positional form it is again the first field at fault.
A single argument of a wrong kind is reported with the name of the class as its place.

The two records fail alike, each by its own fields (`failsByForm`): reading one field fails as the field says,
and reading several fails at the first of them that does (`FailsAt.bind`).
-/

namespace PackageActions

open Dictionary

/-! ## Fields -/

/-- What a field of a record holds. -/
inductive FieldType where
  | flag
  | text
deriving DecidableEq

namespace FieldType

/-- The word for the type, as errors name it. -/
def name : FieldType → String
  | flag => "Bool"
  | text => "String"

/-- An argument is of the type. -/
def Holds : FieldType → Argument → Prop
  | flag, a => ∃ b, a = .bool b
  | text, a => ∃ s, a = .text s

end FieldType

/-- A field of a record; one that is not required may be missing from the named form. -/
structure Field where
  key : String
  type : FieldType
  required : Bool
deriving DecidableEq

/-- What is given for a field is at fault: it is missing, or it has the wrong type. -/
inductive Field.Faulty (className : String) (field : Field) : Option Argument → ActionError → Prop where
  | missing (hrequired : field.required = true) :
      Faulty className field none (.missingField className field.key)
  | wrongType {a : Argument} (ha : ¬ field.type.Holds a) :
      Faulty className field (some a)
        (.typeMismatch (fieldPlace className field.key) field.type.name a.typeName)

/-- The first field at fault, among fields and what is given for them. -/
inductive FirstFault (className : String) : List (Field × Option Argument) → ActionError → Prop where
  | here {field : Field} {given : Option Argument} {rest : List (Field × Option Argument)}
      {e : ActionError} (hfault : field.Faulty className given e) :
      FirstFault className ((field, given) :: rest) e
  | later {field : Field} {given : Option Argument} {rest : List (Field × Option Argument)}
      {e : ActionError} (hgood : ∀ e', ¬ field.Faulty className given e')
      (hrest : FirstFault className rest e) : FirstFault className ((field, given) :: rest) e

namespace Class

/-- The fields of a record, in the order declared; values of other classes are no records. -/
def fields? : Class → Option (List Field)
  | .fetchOptions => some [⟨"safe_resume", .flag, false⟩, ⟨"fetch_unneeded", .flag, false⟩]
  | .fetchFailure => some [⟨"target_file", .text, true⟩, ⟨"requires_manual_fetching", .flag, true⟩,
      ⟨"failed_automatic_fetching", .flag, true⟩, ⟨"failed_integrity_checks", .text, true⟩]
  | _ => none

/-- The numbers of arguments that a value of the class can be built from. -/
def arities : Class → List Nat
  | .action => []
  | .probe => []
  | .fetchAction => [1]
  | .fetchOptions => [1, 2]
  | .fetchFailure => [1, 4]
  | _ => [0]

/-- These numbers in words. -/
def arityText (c : Class) : String := " or ".intercalate (c.arities.map toString)

/-- The class refuses arguments, for a reason. -/
inductive Refuses (c : Class) : List Argument → ActionError → Prop where
  /-- No value of an abstract class can be built, whatever the arguments are. -/
  | abstract {args : List Argument} (habstract : c.isAbstract = true) :
      Refuses c args (.constructionForbidden c.name)
  /-- No form of the class takes so many arguments. -/
  | arity {args : List Argument} (hconcrete : c.isAbstract = false) (hlength : args.length ∉ c.arities) :
      Refuses c args (.wrongArity c.name args.length c.arityText)
  /-- The least key that names no field is reported, whatever is wrong with the fields. -/
  | foreignKey {fields : List Field} {m : Mapping} {key : String} (hfields : c.fields? = some fields)
      (hkey : key ∈ keys m) (hforeign : key ∉ fields.map Field.key)
      (hleast : ∀ other ∈ keys m, other ∉ fields.map Field.key → key ≤ other) :
      Refuses c [.mapping m] (.unrecognizedOption c.name key)
  /-- Of the fields in the named form the first at fault is reported. -/
  | named {fields : List Field} {m : Mapping} {e : ActionError} (hfields : c.fields? = some fields)
      (hknown : ∀ key ∈ keys m, key ∈ fields.map Field.key)
      (hfault : FirstFault c.name (fields.map fun field => (field, get? m field.key)) e) :
      Refuses c [.mapping m] e
  /-- Of the fields in the positional form the first at fault is reported. -/
  | positional {fields : List Field} {args : List Argument} {e : ActionError}
      (hfields : c.fields? = some fields) (hlength : args.length = fields.length)
      (hfault : FirstFault c.name (fields.zip (args.map some)) e) : Refuses c args e
  /-- A single argument from which a record is to be built has to be a mapping. -/
  | noMapping {fields : List Field} {a : Argument} (hfields : c.fields? = some fields)
      (ha : ∀ m, a ≠ .mapping m) :
      Refuses c [a] (.typeMismatch c.name
        ("Mapping or " ++ toString fields.length ++ " positional arguments") a.typeName)
  /-- What a fetch is built from has to be options that were built before. -/
  | noOptions {a : Argument} (hclass : c = .fetchAction) (ha : ∀ o, a ≠ .object (.options o)) :
      Refuses c [a] (.typeMismatch c.name FetchOptions.className a.typeName)

end Class

/-! ## Reading one field -/

section Reading

variable {className key : String} {required : Bool} {a : Argument} {m : Mapping} {e : ActionError}

theorem Argument.asBool_eq_error_iff_faulty : a.asBool (fieldPlace className key) = .error e ↔
    Field.Faulty className ⟨key, .flag, required⟩ (some a) e := by
  rw [asBool_eq_error_iff]
  constructor
  · rintro ⟨ha, rfl⟩
    exact .wrongType fun ⟨b, hb⟩ => ha b hb
  · rintro (_ | ha)
    exact ⟨fun b hb => ha ⟨b, hb⟩, rfl⟩

theorem Argument.asText_eq_error_iff_faulty : a.asText (fieldPlace className key) = .error e ↔
    Field.Faulty className ⟨key, .text, required⟩ (some a) e := by
  rw [asText_eq_error_iff]
  constructor
  · rintro ⟨ha, rfl⟩
    exact .wrongType fun ⟨s, hs⟩ => ha s hs
  · rintro (_ | ha)
    exact ⟨fun s hs => ha ⟨s, hs⟩, rfl⟩

namespace Mapping

theorem required_eq_error_iff : m.required className key = .error e ↔
    get? m key = none ∧ e = .missingField className key := by
  unfold required
  cases get? m key <;> simp [eq_comm]

theorem optionalFlag_eq_error_iff : m.optionalFlag className key = .error e ↔
    Field.Faulty className ⟨key, .flag, false⟩ (get? m key) e := by
  unfold optionalFlag
  cases hget : get? m key with
  | some a => exact Argument.asBool_eq_error_iff_faulty
  | none =>
    refine iff_of_false (fun h => by cases h) fun hfault => ?_
    obtain ⟨hrequired⟩ := hfault
    cases hrequired

theorem faulty_none_iff {type : FieldType} :
    Field.Faulty className ⟨key, type, true⟩ none e ↔ e = .missingField className key := by
  constructor
  · rintro ⟨-⟩
    rfl
  · rintro rfl
    exact .missing rfl

theorem flag_eq_error_iff : m.flag className key = .error e ↔
    Field.Faulty className ⟨key, .flag, true⟩ (get? m key) e := by
  cases hget : get? m key with
  | some a => rw [flag_of_get? hget, Argument.asBool_eq_error_iff_faulty]
  | none =>
    rw [faulty_none_iff, flag, Except.bind_eq_error_iff, required_eq_error_iff, required, hget]
    simp

theorem text_eq_error_iff : m.text className key = .error e ↔
    Field.Faulty className ⟨key, .text, true⟩ (get? m key) e := by
  cases hget : get? m key with
  | some a => rw [text_of_get? hget, Argument.asText_eq_error_iff_faulty]
  | none =>
    rw [faulty_none_iff, text, Except.bind_eq_error_iff, required_eq_error_iff, required, hget]
    simp

end Mapping

end Reading

/-! ## Reading several fields -/

/-- A reader of fields fails exactly with the first fault among them. -/
def FailsAt {α : Type} (className : String) (given : List (Field × Option Argument))
    (r : Except ActionError α) : Prop :=
  ∀ e, r = .error e ↔ FirstFault className given e

namespace FailsAt

variable {α β : Type} {className : String}

theorem pure (a : α) : FailsAt className [] (Pure.pure a : Except ActionError α) := by
  intro e
  exact iff_of_false (fun h => by cases h) (fun hfault => by cases hfault)

/-- One field after the other. -/
theorem bind {field : Field} {given : Option Argument} {rest : List (Field × Option Argument)}
    {x : Except ActionError α} {f : α → Except ActionError β}
    (hx : ∀ e, x = .error e ↔ field.Faulty className given e)
    (hf : ∀ a, FailsAt className rest (f a)) : FailsAt className ((field, given) :: rest) (x >>= f) := by
  intro e
  rw [Except.bind_eq_error_iff]
  constructor
  · rintro (h | ⟨a, ha, h⟩)
    · exact .here ((hx e).1 h)
    · refine .later (fun e' hfault => ?_) ((hf a e).1 h)
      rw [(hx e').2 hfault] at ha
      cases ha
  · rintro (hfault | ⟨hgood, hrest⟩)
    · exact Or.inl ((hx e).2 hfault)
    · cases hread : x with
      | error e' => exact absurd ((hx e').1 hread) (hgood e')
      | ok a => exact Or.inr ⟨a, rfl, (hf a e).2 hrest⟩

theorem map {given : List (Field × Option Argument)} {x : Except ActionError α}
    (hx : FailsAt className given x) (f : α → β) : FailsAt className given (f <$> x) := by
  intro e
  rw [Except.map_eq_error_iff, hx e]

end FailsAt

/-! ## The records, form by form -/

theorem Mapping.allowOnly_of_find? {className : String} {allowed : List String} {m : Mapping}
    {key : String} (h : ((keys m).find? fun key => !allowed.contains key) = some key) :
    m.allowOnly className allowed = .error (.unrecognizedOption className key) := by
  rw [allowOnly, h]

/-- A class refuses arguments as a record with certain fields does. -/
structure FailsByForm (c : Class) (fields : List Field) : Prop where
  foreignKey : ∀ (m : Mapping) key,
    ((keys m).find? fun key => !(fields.map Field.key).contains key) = some key →
      construct c [.mapping m] = .error (.unrecognizedOption c.name key)
  named : ∀ m : Mapping, (∀ key ∈ keys m, key ∈ fields.map Field.key) →
    FailsAt c.name (fields.map fun field => (field, get? m field.key)) (construct c [.mapping m])
  positional : ∀ args : List Argument, args.length = fields.length →
    FailsAt c.name (fields.zip (args.map some)) (construct c args)
  noMapping : ∀ a : Argument, (∀ m, a ≠ .mapping m) → construct c [a] =
    .error (.typeMismatch c.name ("Mapping or " ++ toString fields.length ++ " positional arguments")
      a.typeName)
  arity : ∀ args : List Argument, args.length ∉ c.arities →
    construct c args = .error (.wrongArity c.name args.length c.arityText)

/-- A record is built by a reader of its two forms, of which the named one first looks for foreign keys. -/
theorem failsByForm_of_reader {ρ : Type} {c : Class} {fields : List Field}
    {read : List Argument → Except ActionError ρ} {readFields : Mapping → Except ActionError ρ}
    {wrap : ρ → Object} (hconstruct : ∀ args, construct c args = wrap <$> read args)
    (hmapping : ∀ m : Mapping, read [.mapping m] =
      m.allowOnly c.name (fields.map Field.key) >>= fun _ => readFields m)
    (hnamed : ∀ m, FailsAt c.name (fields.map fun field => (field, get? m field.key)) (readFields m))
    (hpositional : ∀ args : List Argument, args.length = fields.length →
      FailsAt c.name (fields.zip (args.map some)) (read args))
    (hnoMapping : ∀ a : Argument, (∀ m, a ≠ .mapping m) → read [a] =
      .error (.typeMismatch c.name ("Mapping or " ++ toString fields.length ++ " positional arguments")
        a.typeName))
    (harity : ∀ args : List Argument, args.length ∉ c.arities →
      read args = .error (.wrongArity c.name args.length c.arityText)) : FailsByForm c fields where
  foreignKey m key hkey := by
    rw [hconstruct, hmapping, Mapping.allowOnly_of_find? hkey]
    rfl
  named m hknown := by
    rw [hconstruct, hmapping, Mapping.allowOnly_eq_ok_iff.2 hknown]
    exact (hnamed m).map wrap
  positional args hlength := by
    rw [hconstruct]
    exact (hpositional args hlength).map wrap
  noMapping a ha := by
    rw [hconstruct, hnoMapping a ha]
    rfl
  arity args hlength := by
    rw [hconstruct, harity args hlength]
    rfl

theorem FetchOptions.ofArguments_of_arity {args : List Argument} (h : args.length ∉ [1, 2]) :
    ofArguments args = .error (.wrongArity className args.length "1 or 2") := by
  unfold ofArguments
  split
  · simp at h
  · simp at h
  · simp at h
  · rfl

theorem FetchFailure.ofArguments_of_arity {args : List Argument} (h : args.length ∉ [1, 4]) :
    ofArguments args = .error (.wrongArity className args.length "1 or 4") := by
  unfold ofArguments
  split
  · simp at h
  · simp at h
  · simp at h
  · rfl

theorem FetchOptions.failsByForm {fields : List Field} (h : Class.fields? .fetchOptions = some fields) :
    FailsByForm .fetchOptions fields := by
  obtain rfl := Option.some.inj h
  refine failsByForm_of_reader (fun _ => rfl) (fun _ => rfl) (fun m => ?_) (fun args hlength => ?_)
    (fun a ha => ?_) fun args hlength => ofArguments_of_arity hlength
  · exact .bind (fun _ => Mapping.optionalFlag_eq_error_iff) fun _ =>
      .bind (fun _ => Mapping.optionalFlag_eq_error_iff) fun _ => .pure _
  · obtain ⟨a, b, rfl⟩ := List.length_eq_two.1 hlength
    rw [ofArguments_pair]
    exact .bind (fun _ => Argument.asBool_eq_error_iff_faulty) fun _ =>
      .bind (fun _ => Argument.asBool_eq_error_iff_faulty) fun _ => .pure _
  · cases a with
    | mapping m => exact absurd rfl (ha m)
    | _ => rfl

theorem FetchFailure.failsByForm {fields : List Field} (h : Class.fields? .fetchFailure = some fields) :
    FailsByForm .fetchFailure fields := by
  obtain rfl := Option.some.inj h
  refine failsByForm_of_reader (fun _ => rfl) (fun _ => rfl) (fun m => ?_) (fun args hlength => ?_)
    (fun a ha => ?_) fun args hlength => ofArguments_of_arity hlength
  · exact .bind (fun _ => Mapping.text_eq_error_iff) fun _ =>
      .bind (fun _ => Mapping.flag_eq_error_iff) fun _ =>
      .bind (fun _ => Mapping.flag_eq_error_iff) fun _ =>
      .bind (fun _ => Mapping.text_eq_error_iff) fun _ => .pure _
  · match args, hlength with
    | [a, b, c, d], _ =>
      rw [ofArguments_four]
      exact .bind (fun _ => Argument.asText_eq_error_iff_faulty) fun _ =>
        .bind (fun _ => Argument.asBool_eq_error_iff_faulty) fun _ =>
        .bind (fun _ => Argument.asBool_eq_error_iff_faulty) fun _ =>
        .bind (fun _ => Argument.asText_eq_error_iff_faulty) fun _ => .pure _
  · cases a with
    | mapping m => exact absurd rfl (ha m)
    | _ => rfl

theorem failsByForm {c : Class} {fields : List Field} (h : c.fields? = some fields) :
    FailsByForm c fields := by
  cases c with
  | fetchOptions => exact FetchOptions.failsByForm h
  | fetchFailure => exact FetchFailure.failsByForm h
  | _ => cases h

/-! ## Every class -/

theorem construct_of_isAbstract {c : Class} (h : c.isAbstract = true) (args : List Argument) :
    construct c args = .error (.constructionForbidden c.name) := by
  cases c with
  | action => rfl
  | probe => rfl
  | _ => cases h

theorem withoutArguments_of_arity {c : Class} {o : Object} {args : List Argument}
    (h : args.length ∉ [0]) : withoutArguments c o args = .error (.wrongArity c.name args.length "0") := by
  cases args with
  | nil => simp at h
  | cons a rest => rfl

theorem fetchArgument_of_arity {args : List Argument} (h : args.length ∉ [1]) :
    fetchArgument args = .error (.wrongArity Class.fetchAction.name args.length "1") := by
  unfold fetchArgument
  split
  · simp at h
  · simp at h
  · rfl

theorem fetchArgument_of_noOptions {a : Argument} (h : ∀ o, a ≠ .object (.options o)) :
    fetchArgument [a] =
      .error (.typeMismatch Class.fetchAction.name FetchOptions.className a.typeName) := by
  unfold fetchArgument
  split
  · rename_i o hargs
    exact absurd (List.cons.inj hargs).1 (h o)
  · rename_i other _ hargs
    rw [(List.cons.inj hargs).1]
    rfl
  · rename_i hargs
    exact absurd rfl (hargs a)

theorem construct_of_arity {c : Class} (hconcrete : c.isAbstract = false) {args : List Argument}
    (h : args.length ∉ c.arities) :
    construct c args = .error (.wrongArity c.name args.length c.arityText) := by
  cases c with
  | action => cases hconcrete
  | probe => cases hconcrete
  | fetchAction => exact Except.map_eq_error_iff.2 (fetchArgument_of_arity h)
  | fetchOptions => exact (failsByForm rfl).arity args h
  | fetchFailure => exact (failsByForm rfl).arity args h
  | infoAction | configAction | fetchProbe | infoProbe | configProbe => exact withoutArguments_of_arity h

namespace Class

variable {c : Class} {args : List Argument} {e : ActionError}

theorem Refuses.construct_eq (hsorted : ∀ m : Mapping, .mapping m ∈ args → Sorted m)
    (h : c.Refuses args e) : construct c args = .error e := by
  cases h with
  | abstract habstract => exact construct_of_isAbstract habstract args
  | arity hconcrete hlength => exact construct_of_arity hconcrete hlength
  | @foreignKey fields m key hfields hkey hforeign hleast =>
      have hm : Sorted m := hsorted m List.mem_cons_self
      exact (failsByForm hfields).foreignKey m key
        ((find?_foreign_eq_some_iff hm).2 ⟨hkey, hforeign, hleast⟩)
  | named hfields hknown hfault => exact ((failsByForm hfields).named _ hknown e).2 hfault
  | positional hfields hlength hfault => exact ((failsByForm hfields).positional args hlength e).2 hfault
  | noMapping hfields ha => exact (failsByForm hfields).noMapping _ ha
  | noOptions hclass ha =>
      obtain rfl := hclass
      exact Except.map_eq_error_iff.2 (fetchArgument_of_noOptions ha)

/-- A mapping that a record is not built from has a foreign key, or else a field at fault. -/
theorem refuses_of_mapping {fields : List Field} (hfields : c.fields? = some fields) {m : Mapping}
    (hm : Sorted m) (h : construct c [.mapping m] = .error e) : c.Refuses [.mapping m] e := by
  cases hfind : (keys m).find? fun key => !(fields.map Field.key).contains key with
  | some key =>
      rw [(failsByForm hfields).foreignKey m key hfind] at h
      obtain rfl := Except.error.inj h
      obtain ⟨hkey, hforeign, hleast⟩ := (find?_foreign_eq_some_iff hm).1 hfind
      exact .foreignKey hfields hkey hforeign hleast
  | none =>
      have hknown : ∀ key ∈ keys m, key ∈ fields.map Field.key := by
        simpa [List.find?_eq_none] using hfind
      exact .named hfields hknown (((failsByForm hfields).named m hknown e).1 h)

theorem refuses_of_fields? {fields : List Field} (hfields : c.fields? = some fields)
    (hsorted : ∀ m : Mapping, .mapping m ∈ args → Sorted m)
    (hlength : args.length ∈ [1, fields.length]) (h : construct c args = .error e) :
    c.Refuses args e := by
  rcases List.mem_pair.1 hlength with hone | hall
  · obtain ⟨a, rfl⟩ := List.length_eq_one_iff.1 hone
    by_cases ha : ∃ m, a = .mapping m
    · obtain ⟨m, rfl⟩ := ha
      exact refuses_of_mapping hfields (hsorted m List.mem_cons_self) h
    · have ha' : ∀ m, a ≠ .mapping m := fun m hm => ha ⟨m, hm⟩
      rw [(failsByForm hfields).noMapping a ha'] at h
      obtain rfl := Except.error.inj h
      exact .noMapping hfields ha'
  · exact .positional hfields hall (((failsByForm hfields).positional args hall e).1 h)

theorem refuses_of_construct (hsorted : ∀ m : Mapping, .mapping m ∈ args → Sorted m)
    (h : construct c args = .error e) : c.Refuses args e := by
  by_cases habstract : c.isAbstract = true
  · rw [construct_of_isAbstract habstract] at h
    obtain rfl := Except.error.inj h
    exact .abstract habstract
  have hconcrete : c.isAbstract = false := by simpa using habstract
  by_cases hlength : args.length ∈ c.arities
  · cases c with
    | action => exact absurd rfl habstract
    | probe => exact absurd rfl habstract
    | fetchAction =>
        obtain ⟨a, rfl⟩ := List.length_eq_one_iff.1 (List.mem_singleton.1 hlength)
        by_cases ha : ∃ o, a = .object (.options o)
        · obtain ⟨o, rfl⟩ := ha
          cases h
        · have ha' : ∀ o, a ≠ .object (.options o) := fun o ho => ha ⟨o, ho⟩
          obtain rfl := Except.error.inj
            ((Except.map_eq_error_iff.2 (fetchArgument_of_noOptions ha')).symm.trans h)
          exact .noOptions rfl ha'
    | fetchOptions => exact refuses_of_fields? rfl hsorted hlength h
    | fetchFailure => exact refuses_of_fields? rfl hsorted hlength h
    | infoAction | configAction | fetchProbe | infoProbe | configProbe =>
        obtain rfl := List.length_eq_zero_iff.1 (List.mem_singleton.1 hlength)
        cases h
  · rw [construct_of_arity hconcrete hlength] at h
    obtain rfl := Except.error.inj h
    exact .arity hconcrete hlength

theorem construct_eq_error_iff (hsorted : ∀ m : Mapping, .mapping m ∈ args → Sorted m) :
    construct c args = .error e ↔ c.Refuses args e :=
  ⟨refuses_of_construct hsorted, Refuses.construct_eq hsorted⟩

end Class

/-! ## Which errors there are -/

theorem FirstFault.eq_missingField_or_typeMismatch {className : String}
    {given : List (Field × Option Argument)} {e : ActionError} (h : FirstFault className given e) :
    (∃ key, e = .missingField className key) ∨
      ∃ place expected found, e = .typeMismatch place expected found := by
  induction h with
  | here hfault =>
      cases hfault with
      | missing => exact Or.inl ⟨_, rfl⟩
      | wrongType => exact Or.inr ⟨_, _, _, rfl⟩
  | later _ _ ih => exact ih

namespace Class

variable {c : Class} {args : List Argument}

theorem refuses_constructionForbidden_iff {name : String} :
    c.Refuses args (.constructionForbidden name) ↔ c.isAbstract = true ∧ name = c.name := by
  constructor
  · intro h
    cases h with
    | abstract habstract => exact ⟨habstract, rfl⟩
    | named _ _ hfault | positional _ _ hfault =>
        rcases hfault.eq_missingField_or_typeMismatch with ⟨_, h⟩ | ⟨_, _, _, h⟩ <;> cases h
  · rintro ⟨habstract, rfl⟩
    exact .abstract habstract

theorem refuses_wrongArity_iff {name expected : String} {given : Nat} :
    c.Refuses args (.wrongArity name given expected) ↔ c.isAbstract = false ∧
      args.length ∉ c.arities ∧ name = c.name ∧ given = args.length ∧ expected = c.arityText := by
  constructor
  · intro h
    cases h with
    | arity hconcrete hlength => exact ⟨hconcrete, hlength, rfl, rfl, rfl⟩
    | named _ _ hfault | positional _ _ hfault =>
        rcases hfault.eq_missingField_or_typeMismatch with ⟨_, h⟩ | ⟨_, _, _, h⟩ <;> cases h
  · rintro ⟨hconcrete, hlength, rfl, rfl, rfl⟩
    exact .arity hconcrete hlength

theorem not_refuses_unknownClass {name : String} : ¬ c.Refuses args (.unknownClass name) := by
  intro h
  cases h with
  | named _ _ hfault | positional _ _ hfault =>
      rcases hfault.eq_missingField_or_typeMismatch with ⟨_, h⟩ | ⟨_, _, _, h⟩ <;> cases h

end Class

/-- Building fails for exactly one reason, and the error says which. It is the one for abstract classes
exactly for these, and the one for a wrong number of arguments exactly if a class that is not abstract has no
form with that number; it is never about the name of the class, which has been found by then. -/
theorem construct_refused_exactly (c : Class) (args : List Argument)
    (hsorted : ∀ m : Mapping, .mapping m ∈ args → Sorted m) :
    (∀ e, construct c args = .error e ↔ c.Refuses args e) ∧
      (∀ name, construct c args = .error (.constructionForbidden name) ↔
        c.isAbstract = true ∧ name = c.name) ∧
      (∀ name given expected, construct c args = .error (.wrongArity name given expected) ↔
        c.isAbstract = false ∧ args.length ∉ c.arities ∧ name = c.name ∧ given = args.length ∧
          expected = c.arityText) ∧
      ∀ name, construct c args ≠ .error (.unknownClass name) := by
  have hrefuses : ∀ e, construct c args = .error e ↔ c.Refuses args e :=
    fun e => Class.construct_eq_error_iff hsorted
  refine ⟨hrefuses, fun name => ?_, fun name given expected => ?_, fun name h => ?_⟩
  · rw [hrefuses, Class.refuses_constructionForbidden_iff]
  · rw [hrefuses, Class.refuses_wrongArity_iff]
  · exact Class.not_refuses_unknownClass ((hrefuses _).1 h)

/-- Of two fields of a wrong type the first declared is reported, though the other has the lesser key, and a
built value goes by the name of its class. -/
theorem construct_refused_exactly_two_wrong :
    let m : Mapping := [("failed_automatic_fetching", .nil), ("failed_integrity_checks", .text ""),
      ("requires_manual_fetching", .object (.options {})), ("target_file", .text "a.tar")]
    (∀ m' : Mapping, .mapping m' ∈ [Argument.mapping m] → Sorted m') ∧
      construct .fetchFailure [.mapping m] = .error (.typeMismatch
        "FetchActionFailure.requires_manual_fetching" "Bool" "FetchActionOptions") := by
  intro m
  have hm : Sorted m := show ["failed_automatic_fetching", "failed_integrity_checks",
    "requires_manual_fetching", "target_file"].Pairwise (· < ·) by decide
  have hsorted : ∀ m' : Mapping, .mapping m' ∈ [Argument.mapping m] → Sorted m' := by
    intro m' hm'
    obtain rfl := Argument.mapping.inj (List.mem_singleton.1 hm')
    exact hm
  have hfault : FirstFault FetchFailure.className
      [(⟨"target_file", .text, true⟩, some (.text "a.tar")),
        (⟨"requires_manual_fetching", .flag, true⟩, some (.object (.options {}))),
        (⟨"failed_automatic_fetching", .flag, true⟩, some .nil),
        (⟨"failed_integrity_checks", .text, true⟩, some (.text ""))]
      (.typeMismatch "FetchActionFailure.requires_manual_fetching" "Bool" "FetchActionOptions") := by
    refine .later (fun e' hfault => ?_) (.here (.wrongType fun ⟨b, hb⟩ => by cases hb))
    cases hfault with
    | wrongType htext => exact htext ⟨_, rfl⟩
  exact ⟨hsorted, ((construct_refused_exactly _ _ hsorted).1 _).2 (.named rfl (by decide) hfault)⟩

end PackageActions
