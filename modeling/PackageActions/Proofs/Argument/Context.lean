import PackageActions.Proofs.Action.Records

/-!
# Values that may be exchanged

What an array or an object is read as depends on the keys and on what the parts are read as, and on nothing
else about the parts (`ofJson_array_congr`, `ofJson_object_congr`). Some parts are looked at before they are
read: whether `new` is a string makes the object a request or a mapping, and whether `args` is an array
makes it several arguments or one. But this can be told from the outcome as well, for only a string is read
as a text and only an array as a list. So two values that are read alike may be exchanged wherever they stand
inside a third one (`ofJson_congruence`).
-/

namespace PackageActions

open Dictionary

/-! ## Places -/

/-- A JSON value with one place left open, at any depth: among the items of an array, or under a key of an
object, be it a mapping or a request, and whether the value under the key is read or not. -/
inductive Json.Context where
  | hole
  | item (before : List Json) (inner : Context) (after : List Json)
  | member (before : List (String × Json)) (key : String) (inner : Context)
      (after : List (String × Json))

/-- The whole value, with a value put into the open place. -/
def Json.Context.fill : Json.Context → Json → Json
  | .hole, v => v
  | .item before inner after, v => .array (before ++ inner.fill v :: after)
  | .member before key inner after, v => .object (before ++ (key, inner.fill v) :: after)

namespace Argument

/-- Two values are read as the same argument, down to the bits of its numbers, or refused with the same
error. -/
def ReadAlike (v w : Json) : Prop := ofJson v = ofJson w

theorem ReadAlike.refl (v : Json) : ReadAlike v v := rfl

/-! ## Arrays -/

theorem ofItems_congr {items items' : List Json} (h : List.Forall₂ ReadAlike items items') :
    ofItems items = ofItems items' := by
  induction h with
  | nil => rfl
  | cons hitem _ ih => rw [ofItems, ofItems, show ofJson _ = ofJson _ from hitem, ih]

theorem ofJson_array_congr {items items' : List Json} (h : List.Forall₂ ReadAlike items items') :
    ofJson (.array items) = ofJson (.array items') := by
  rw [ofJson_array, ofJson_array, ofItems_congr h]

/-! ## Objects -/

section Objects

variable {members members' : List (String × Json)} (h : Pointwise ReadAlike members members')
include h

theorem map_ofJson_get?_congr (key : String) :
    (get? members key).map ofJson = (get? members' key).map ofJson := by
  have hrel := h.rel_get? key
  generalize get? members key = x, get? members' key = y at hrel ⊢
  cases hrel with
  | none => rfl
  | some hread => exact congrArg some hread

/-- Whether an object is a request, and of which class, can be told from what `new` is read as. -/
theorem requested?_congr : requested? members = requested? members' := by
  have hnew : ∀ (m : List (String × Json)) name, get? m "new" = some (.string name) ↔
      (get? m "new").map ofJson = some (.ok (.text name)) := by
    intro m name
    cases get? m "new" with
    | none => simp
    | some v => simp [ofJson_eq_text_iff]
  refine Option.ext fun name => ?_
  rw [requested?_eq_some_iff, requested?_eq_some_iff, hnew, hnew, map_ofJson_get?_congr h]

theorem strayKey?_congr : strayKey? members = strayKey? members' := by
  rw [strayKey?, strayKey?, h.keys_eq]

theorem ofMembers_congr : ofMembers members = ofMembers members' := by
  induction h with
  | nil => rfl
  | @cons member member' _ _ hmember _ ih =>
      obtain ⟨key, v⟩ := member
      obtain ⟨key', v'⟩ := member'
      obtain ⟨rfl, hread⟩ := hmember
      rw [ofMembers, ofMembers, show ofJson v = ofJson v' from hread, ih]

/-- Whether a request is given one argument or several can be told from what `args` is read as. -/
theorem ofRequest_congr : ofRequest members = ofRequest members' := by
  have hargs := map_ofJson_get?_congr h "args"
  cases hv : get? members "args" with
  | none =>
      rw [hv, eq_comm, Option.map_none, Option.map_eq_none_iff] at hargs
      rw [ofRequest_of_get?_eq_none hv, ofRequest_of_get?_eq_none hargs]
  | some v =>
      rw [hv, eq_comm, Option.map_some, Option.map_eq_some_iff] at hargs
      obtain ⟨v', hv', hread⟩ := hargs
      rw [ofRequest_of_get?_eq_some hv, ofRequest_of_get?_eq_some hv', hread]

theorem ofJson_object_congr : ofJson (.object members) = ofJson (.object members') := by
  have hnew := requested?_congr h
  cases hname : requested? members with
  | none =>
      rw [ofJson_mapping hname, ofJson_mapping (hnew.symm.trans hname), ofMembers_congr h]
  | some name =>
      rw [ofJson_request hname, ofJson_request (hnew.symm.trans hname), ofRequest_congr h]
      simp only [build, strayKey?_congr h]

end Objects

/-! ## Any depth -/

theorem forall₂_exchange {α : Type} {R : α → α → Prop} (hR : ∀ a, R a a) {a b : α} (h : R a b)
    (before after : List α) : List.Forall₂ R (before ++ a :: after) (before ++ b :: after) :=
  List.rel_append (List.forall₂_same.2 fun c _ => hR c) (.cons h (List.forall₂_same.2 fun c _ => hR c))

theorem ReadAlike.fill {v w : Json} (h : ReadAlike v w) (context : Json.Context) :
    ReadAlike (context.fill v) (context.fill w) := by
  induction context with
  | hole => exact h
  | item before inner after ih => exact ofJson_array_congr (forall₂_exchange .refl ih before after)
  | member before key inner after ih =>
      exact ofJson_object_congr (forall₂_exchange (fun _ => ⟨rfl, .refl _⟩) ⟨rfl, ih⟩ before after)

end Argument

/-! ## Expressions of one value -/

/-- The members of a JSON object give a value by name, which is then a record. -/
def Object.NamedIn (members : List (String × Json)) : Object → Prop
  | .options o => o.GivenBy .bool members
  | .failure f => f.GivenBy .bool .string members
  | .action _ => False
  | .probe _ => False

namespace Argument

theorem exists_mapping_of_namedIn {members : List (String × Json)} (hs : Sorted members) {o : Object}
    (h : o.NamedIn members) : ∃ m, ofJson (.object members) = .ok (.mapping m) ∧ o.NamedBy m := by
  cases o with
  | action a => exact h.elim
  | options o =>
      obtain ⟨m, hm⟩ := FetchOptions.exists_mapping_of_givenBy hs h
      exact ⟨m, hm, (FetchOptions.givenBy_iff_of_readAs (ofJson_eq_mapping_iff.1 hm).2).1 h⟩
  | failure f =>
      obtain ⟨m, hm⟩ := FetchFailure.exists_mapping_of_givenBy hs h
      exact ⟨m, hm, (FetchFailure.givenBy_iff_of_readAs (ofJson_eq_mapping_iff.1 hm).2).1 h⟩
  | probe p => exact h.elim

/-- The named form of a request gives the same record as the positional form. -/
theorem ofJson_request_of_namedIn {members : List (String × Json)} (hs : Sorted members) {o : Object}
    (h : o.NamedIn members) : ofJson (.request o.classOf.name (.object members)) = .ok (.object o) := by
  obtain ⟨m, hm, hnamed⟩ := exists_mapping_of_namedIn hs h
  rw [ofJson_request_args, Class.ofName_name, hm]
  exact Except.map_eq_ok_iff.2 ⟨o, construct_of_namedBy hnamed, rfl⟩

/-- A single argument may be given as it is or as the only item of an array, unless it is an array itself. -/
theorem ofJson_request_singleton (name : String) {v : Json} (hv : ∀ items, v ≠ .array items) :
    ofJson (.request name v) = ofJson (.request name (.array [v])) := by
  rw [ofJson_request_args, ofJson_request_args, ofJson_array]
  cases ha : ofJson v with
  | error e => simp only [ofItems, ha]; rfl
  | ok a =>
      have hgiven : given a = given (.list [a]) := given_of_ofJson hv ha
      simp only [ofItems, ha, bind, Except.bind, hgiven]
      rfl

/-- Two values that are read alike may be exchanged at any place inside a value, also where that place
decides what the value around it is, or is not read at all. So a built value may be given by any expression
of it: a record by name instead of by position, a single argument with or without an array around it. -/
theorem ofJson_congruence (context : Json.Context) :
    (∀ v w, ofJson v = ofJson w → ofJson (context.fill v) = ofJson (context.fill w)) ∧
      (∀ (o : Object) v, ofJson v = .ok (.object o) →
        ofJson (context.fill v) = ofJson (context.fill o.request)) ∧
      (∀ (o : Object) members, Sorted members → o.NamedIn members →
        ofJson (context.fill (.request o.classOf.name (.object members))) =
          ofJson (context.fill o.request)) ∧
      ∀ name v, (∀ items, v ≠ .array items) →
        ofJson (context.fill (.request name v)) = ofJson (context.fill (.request name (.array [v]))) := by
  refine ⟨fun v w h => ReadAlike.fill h context, fun o v hv => ?_, fun o members hs h => ?_,
    fun name v hv => ReadAlike.fill (ofJson_request_singleton name hv) context⟩
  · exact ReadAlike.fill (hv.trans o.ofJson_request.symm) context
  · exact ReadAlike.fill ((ofJson_request_of_namedIn hs h).trans o.ofJson_request.symm) context

end Argument

end PackageActions
