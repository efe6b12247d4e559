import PackageActions.Proofs.Argument.OfJson
import PackageActions.Proofs.Class

/-!
# The checks behind an argument

A JSON value becomes an argument only if it passes a list of checks, `Argument.checks`, which is read off
the value from the left and through all its parts. Which argument it then becomes is a matter of its own:
`Argument.evaluated` says it without any checking. The two together are all there is to reading an
argument (`ofJson_eq_settle`): the first check that fails decides the error, and if none fails the value
becomes what it evaluates to.

Four kinds of failure compete in a nested value: an unknown class, a key without a place in a request, a
construction that goes wrong, and any of these inside an argument. Their order is that of the list.
-/

namespace PackageActions

/-- Builds a value of a named class. -/
def constructNamed (name : String) (args : List Argument) : Except ActionError Object := do
  let c ← Class.ofName name
  construct c args

/-- A check that a JSON value has to pass. -/
inductive Check where
  /-- There is a class of this name. -/
  | className (name : String)
  /-- A request for a class has no other keys than a request may have. -/
  | noStrayKey (name : String) (keys : List String)
  /-- A value of the class can be built from the arguments. -/
  | construction (name : String) (args : List Argument)

/-- What is reported if a check fails. -/
def Check.failure? : Check → Option ActionError
  | .className name => if name ∈ Class.all.map Class.name then none else some (.unknownClass name)
  | .noStrayKey name keys =>
    ((keys.filter fun key => key ≠ "new" ∧ key ≠ "args").min?).map (.unrecognizedOption name)
  | .construction name args =>
    match constructNamed name args with
    | .ok _ => none
    | .error e => some e

namespace Argument

/-! ## What comes out, and what is checked -/

/-- The object that a construction gives; a construction that fails gives nothing to speak of. -/
def built : Except ActionError Object → Argument
  | .ok o => .object o
  | .error _ => .nil

mutual

/-- The argument that a JSON value becomes if it passes its checks. -/
def evaluated : Json → Argument
  | .null => .nil
  | .bool b => .bool b
  | .integer n => ofInt n
  | .float x => .float x
  | .string s => .text s
  | .array items => .list (evaluatedItems items)
  | .object members =>
    match Dictionary.get? members "new" with
    | some (.string name) =>
      built (constructNamed name ((Dictionary.get? (evaluatedMembers members) "args").elim [] given))
    | _ => .mapping (evaluatedMembers members)

def evaluatedItems : List Json → List Argument
  | [] => []
  | item :: rest => evaluated item :: evaluatedItems rest

def evaluatedMembers : List (String × Json) → List (String × Argument)
  | [] => []
  | (key, value) :: rest => (key, evaluated value) :: evaluatedMembers rest

end

mutual

/-- The checks of a JSON value, from the left. Those of a mapping are the checks of its members in key
order. A request is checked for its class, then in its arguments, then for stray keys, whose values are
not checked at all, and then for the construction. -/
def checks : Json → List Check
  | .array items => checksOfItems items
  | .object members =>
    match Dictionary.get? members "new" with
    | some (.string name) =>
      .className name :: ((Dictionary.get? (checksOfMembers members) "args").getD [] ++
        [.noStrayKey name (Dictionary.keys members),
          .construction name ((Dictionary.get? (evaluatedMembers members) "args").elim [] given)])
    | _ => (Dictionary.ofList (checksOfMembers members)).flatMap Prod.snd
  | _ => []

def checksOfItems : List Json → List Check
  | [] => []
  | item :: rest => checks item ++ checksOfItems rest

/-- The checks of every member, under its key. -/
def checksOfMembers : List (String × Json) → List (String × List Check)
  | [] => []
  | (key, value) :: rest => (key, checks value) :: checksOfMembers rest

end

/-- The values of a request's arguments: none, the items of an array, or one value. -/
def argumentValues (members : List (String × Json)) : List Json :=
  match Dictionary.get? members "args" with
  | none => []
  | some (.array items) => items
  | some v => [v]

/-! ## The lists in terms of the parts -/

theorem evaluatedItems_eq_map (items : List Json) : evaluatedItems items = items.map evaluated := by
  induction items with
  | nil => rfl
  | cons item rest ih => rw [evaluatedItems, ih, List.map_cons]

theorem evaluatedMembers_eq_mapValues (members : List (String × Json)) :
    evaluatedMembers members = Dictionary.mapValues evaluated members := by
  induction members with
  | nil => rfl
  | cons member rest ih =>
      obtain ⟨key, value⟩ := member
      rw [evaluatedMembers, ih]
      rfl

theorem checksOfItems_eq_flatMap (items : List Json) : checksOfItems items = items.flatMap checks := by
  induction items with
  | nil => rfl
  | cons item rest ih => rw [checksOfItems, ih, List.flatMap_cons]

theorem checksOfMembers_eq_mapValues (members : List (String × Json)) :
    checksOfMembers members = Dictionary.mapValues checks members := by
  induction members with
  | nil => rfl
  | cons member rest ih =>
      obtain ⟨key, value⟩ := member
      rw [checksOfMembers, ih]
      rfl

theorem given_evaluated_of_ne_array {v : Json} (hv : ∀ items, v ≠ .array items) :
    given (evaluated v) = [evaluated v] := by
  cases v with
  | integer n =>
      unfold evaluated ofInt
      split <;> rfl
  | array items => exact absurd rfl (hv items)
  | object members =>
      unfold evaluated
      split
      · cases constructNamed _ _ <;> rfl
      · rfl
  | _ => rfl

theorem given_evaluated (members : List (String × Json)) :
    (Dictionary.get? (evaluatedMembers members) "args").elim [] given =
      (argumentValues members).map evaluated := by
  rw [evaluatedMembers_eq_mapValues, Dictionary.get?_mapValues]
  unfold argumentValues
  split
  · rename_i hget
    rw [hget]
    rfl
  · rename_i items hget
    rw [hget, ← evaluatedItems_eq_map]
    rfl
  · rename_i v hv hget
    rw [hget]
    exact given_evaluated_of_ne_array hv

theorem argumentChecks_eq_flatMap (members : List (String × Json)) :
    (Dictionary.get? (checksOfMembers members) "args").getD [] =
      (argumentValues members).flatMap checks := by
  rw [checksOfMembers_eq_mapValues, Dictionary.get?_mapValues]
  unfold argumentValues
  split
  · rename_i hget
    rw [hget]
    rfl
  · rename_i items hget
    rw [hget, ← checksOfItems_eq_flatMap]
    rfl
  · rename_i v hv hget
    rw [hget, List.flatMap_singleton]
    rfl

variable {members : List (String × Json)} {name : String}

theorem checks_request (h : requested? members = some name) :
    checks (.object members) = .className name :: ((argumentValues members).flatMap checks ++
      [.noStrayKey name (Dictionary.keys members),
        .construction name ((argumentValues members).map evaluated)]) := by
  simp only [checks, requested?_eq_some_iff.1 h, argumentChecks_eq_flatMap, given_evaluated]

theorem evaluated_request (h : requested? members = some name) :
    evaluated (.object members) =
      built (constructNamed name ((argumentValues members).map evaluated)) := by
  simp only [evaluated, requested?_eq_some_iff.1 h, given_evaluated]

theorem checks_mapping (h : requested? members = none) (hs : Dictionary.Sorted members) :
    checks (.object members) = members.flatMap fun member => checks member.2 := by
  have horder : Dictionary.ofList (checksOfMembers members) = Dictionary.mapValues checks members := by
    rw [checksOfMembers_eq_mapValues, Dictionary.ofList_eq_self (Dictionary.sorted_mapValues hs)]
  rw [checks]
  split
  · rename_i s hget
    rw [requested?_eq_some_iff.2 hget] at h
    cases h
  · rw [horder, Dictionary.mapValues, List.flatMap_map]

theorem evaluated_mapping (h : requested? members = none) :
    evaluated (.object members) = .mapping (Dictionary.mapValues evaluated members) := by
  rw [evaluated]
  split
  · rename_i s hget
    rw [requested?_eq_some_iff.2 hget] at h
    cases h
  · rw [evaluatedMembers_eq_mapValues]

end Argument

/-! ## Results under checks -/

namespace Check

variable {α β : Type}

/-- A result that stands unless a check fails; the first that fails decides. -/
def settle (checks : List Check) (a : α) : Except ActionError α :=
  match checks.findSome? failure? with
  | some e => .error e
  | none => .ok a

theorem settle_cons_of_failure {c : Check} {e : ActionError} (h : c.failure? = some e)
    (cs : List Check) (a : α) : settle (c :: cs) a = .error e := by
  simp [settle, h]

theorem settle_cons_of_pass {c : Check} (h : c.failure? = none) (cs : List Check) (a : α) :
    settle (c :: cs) a = settle cs a := by
  simp [settle, h]

/-- What runs after checks runs only if they pass, and its own checks come behind. -/
theorem settle_bind {cs ds : List Check} {a : α} {b : β} {f : α → Except ActionError β}
    (h : f a = settle ds b) : settle cs a >>= f = settle (cs ++ ds) b := by
  unfold settle at h ⊢
  rw [List.findSome?_append]
  cases cs.findSome? failure? with
  | none => exact h
  | some e => rfl

theorem map_settle (f : α → β) (cs : List Check) (a : α) : f <$> settle cs a = settle cs (f a) := by
  unfold settle
  cases cs.findSome? failure? <;> rfl

theorem settle_eq_ok_iff {cs : List Check} {a b : α} :
    settle cs a = .ok b ↔ (∀ c ∈ cs, c.failure? = none) ∧ a = b := by
  rw [← List.findSome?_eq_none_iff]
  unfold settle
  cases cs.findSome? failure? <;> simp

theorem settle_eq_error_iff {cs : List Check} {a : α} {e : ActionError} :
    settle cs a = .error e ↔ ∃ before c after, cs = before ++ c :: after ∧
      c.failure? = some e ∧ ∀ b ∈ before, b.failure? = none := by
  rw [← List.findSome?_eq_some_iff]
  unfold settle
  cases cs.findSome? failure? <;> simp

end Check

/-! ## Reading an argument is running its checks -/

namespace Argument

open Check

theorem failure?_noStrayKey {members : List (String × Json)} (hs : Dictionary.Sorted members)
    (name : String) : (Check.noStrayKey name (Dictionary.keys members)).failure? =
      (strayKey? members).map (.unrecognizedOption name) := by
  have hp : (fun key : String => decide (key ≠ "new") && decide (key ≠ "args")) =
      fun key => decide (key ≠ "new" ∧ key ≠ "args") := by
    funext key
    exact (Bool.decide_and _ _).symm
  rw [failure?, strayKey?, hp, Dictionary.find?_keys_eq_min? hs]

/-- The last two checks of a request are those of the construction. -/
theorem build_eq_settle {members : List (String × Json)} (hs : Dictionary.Sorted members)
    {name : String} {c : Class} (hc : Class.ofName name = .ok c) (args : List Argument) :
    build c members args = settle [.noStrayKey name (Dictionary.keys members),
      .construction name args] (built (constructNamed name args)) := by
  have hstray := failure?_noStrayKey hs name
  have hcon : constructNamed name args = construct c args := by
    rw [constructNamed, hc]
    rfl
  unfold build
  cases hkey : strayKey? members with
  | some key =>
      rw [hkey, ← Class.ofName_eq_ok_iff.1 hc] at hstray
      rw [← Class.ofName_eq_ok_iff.1 hc, settle_cons_of_failure hstray]
  | none =>
      rw [hkey] at hstray
      rw [settle_cons_of_pass hstray, hcon]
      cases hresult : construct c args with
      | error e => rw [settle_cons_of_failure (by rw [failure?, hcon, hresult])]; rfl
      | ok o => rw [settle_cons_of_pass (by rw [failure?, hcon, hresult])]; rfl

theorem ofRequest_eq_settle {members : List (String × Json)}
    (hargs : ∀ v, Dictionary.get? members "args" = some v →
      ofJson v = settle (checks v) (evaluated v)) :
    ofRequest members =
      settle ((argumentValues members).flatMap checks) ((argumentValues members).map evaluated) := by
  rw [← argumentChecks_eq_flatMap, ← given_evaluated, checksOfMembers_eq_mapValues,
    evaluatedMembers_eq_mapValues, Dictionary.get?_mapValues, Dictionary.get?_mapValues]
  cases hget : Dictionary.get? members "args" with
  | none => exact ofRequest_of_get?_eq_none hget
  | some v =>
      rw [ofRequest_of_get?_eq_some hget, hargs v hget, map_settle]
      rfl

theorem request_eq_settle {members : List (String × Json)} {name : String}
    (hnew : requested? members = some name) (hs : Dictionary.Sorted members)
    (hargs : ∀ v, Dictionary.get? members "args" = some v →
      ofJson v = settle (checks v) (evaluated v)) :
    ofJson (.object members) = settle (checks (.object members)) (evaluated (.object members)) := by
  rw [ofJson_request hnew, checks_request hnew, evaluated_request hnew, ofRequest_eq_settle hargs]
  cases hc : Class.ofName name with
  | error e =>
      obtain ⟨hmem, rfl⟩ := Class.ofName_eq_error_iff.1 hc
      rw [settle_cons_of_failure (by rw [failure?, if_neg hmem])]
      rfl
  | ok c =>
      have hmem : name ∈ Class.all.map Class.name :=
        List.mem_map.2 ⟨c, c.mem_all, Class.ofName_eq_ok_iff.1 hc⟩
      rw [settle_cons_of_pass (by rw [failure?, if_pos hmem])]
      exact settle_bind (build_eq_settle hs hc _)

mutual

/-- A value is read by running its checks. -/
theorem ofJson_eq_settle : ∀ v : Json, v.Sorted → ofJson v = settle (checks v) (evaluated v)
  | .null, _ | .bool _, _ | .integer _, _ | .float _, _ | .string _, _ => rfl
  | .array items, h => by
      rw [ofJson_array, ofItems_eq_settle items h, map_settle, checks, evaluated]
  | .object members, h => by
      cases hnew : requested? members with
      | none =>
          rw [ofJson_mapping hnew, ofMembers_eq_settle members h.2, map_settle,
            checks_mapping hnew h.1, evaluated_mapping hnew]
      | some name => exact request_eq_settle hnew h.1 (ofJson_get?_eq_settle members h.2 "args")

theorem ofItems_eq_settle : ∀ items : List Json, Json.SortedItems items →
    ofItems items = settle (checksOfItems items) (evaluatedItems items)
  | [], _ => rfl
  | item :: rest, h => by
      rw [ofItems, ofJson_eq_settle item h.1, ofItems_eq_settle rest h.2]
      exact settle_bind (map_settle _ _ _)

theorem ofMembers_eq_settle : ∀ members : List (String × Json), Json.SortedMembers members →
    ofMembers members = settle (members.flatMap fun member => checks member.2)
      (Dictionary.mapValues evaluated members)
  | [], _ => rfl
  | (key, value) :: rest, h => by
      rw [ofMembers, ofJson_eq_settle value h.1, ofMembers_eq_settle rest h.2]
      exact settle_bind (map_settle _ _ _)

/-- Any one member. -/
theorem ofJson_get?_eq_settle : ∀ members : List (String × Json), Json.SortedMembers members →
    ∀ key v, Dictionary.get? members key = some v → ofJson v = settle (checks v) (evaluated v)
  | [], _, _, _, hget => by cases hget
  | (k, value) :: rest, h, key, v, hget => by
      rw [Dictionary.get?_cons] at hget
      split at hget
      · exact Option.some.inj hget ▸ ofJson_eq_settle value h.1
      · exact ofJson_get?_eq_settle rest h.2 key v hget

end

/-! ## What a value becomes -/

/-- What a value becomes, in terms of what its parts become: a mapping keeps its keys, an array the order
of its items, and a request becomes the object that is built from its arguments. -/
def Becomes : Json → Argument → Prop
  | .null, a => a = .nil
  | .bool b, a => a = .bool b
  | .integer n, a => a = ofInt n
  | .float x, a => a = .float x
  | .string s, a => a = .text s
  | .array items, a =>
    ∃ as, a = .list as ∧ List.Forall₂ (fun item a => ofJson item = .ok a) items as
  | .object members, a =>
    match Dictionary.get? members "new" with
    | some (.string name) =>
      ∃ args o, List.Forall₂ (fun v a => ofJson v = .ok a) (argumentValues members) args ∧
        constructNamed name args = .ok o ∧ a = .object o
    | _ =>
      ∃ entries, a = .mapping entries ∧ Dictionary.keys entries = Dictionary.keys members ∧
        List.Forall₂ (fun member entry => ofJson member.2 = .ok entry.2) members entries

theorem forall₂_of_ofRequest {members : List (String × Json)} {args : List Argument}
    (h : ofRequest members = .ok args) :
    List.Forall₂ (fun v a => ofJson v = .ok a) (argumentValues members) args := by
  unfold argumentValues
  split
  · rename_i hget
    rw [ofRequest_of_get?_eq_none hget] at h
    cases h
    exact .nil
  · rename_i items hget
    rw [ofRequest_of_get?_eq_some hget, ofJson_array] at h
    obtain ⟨a, ha, rfl⟩ := Except.map_eq_ok_iff.1 h
    obtain ⟨as, has, rfl⟩ := Except.map_eq_ok_iff.1 ha
    exact ofItems_eq_ok_iff.1 has
  · rename_i v hv hget
    rw [ofRequest_of_get?_eq_some hget] at h
    obtain ⟨a, ha, rfl⟩ := Except.map_eq_ok_iff.1 h
    rw [given_of_ofJson hv ha]
    exact .cons ha .nil

theorem becomes_of_ofJson {v : Json} {a : Argument} (h : ofJson v = .ok a) : Becomes v a := by
  cases v with
  | null => cases h; rfl
  | bool b => cases h; rfl
  | integer n => cases h; rfl
  | float x => cases h; rfl
  | string s => cases h; rfl
  | array items =>
      rw [ofJson_array] at h
      obtain ⟨as, has, rfl⟩ := Except.map_eq_ok_iff.1 h
      exact ⟨as, rfl, ofItems_eq_ok_iff.1 has⟩
  | object members =>
      simp only [Becomes]
      split
      · rename_i name hget
        rw [ofJson_request (requested?_eq_some_iff.2 hget)] at h
        obtain ⟨c, hc, h⟩ := Except.bind_eq_ok_iff.1 h
        obtain ⟨args, hargs, h⟩ := Except.bind_eq_ok_iff.1 h
        obtain ⟨o, ho, rfl⟩ := build_eq_ok h
        refine ⟨args, o, forall₂_of_ofRequest hargs, ?_, rfl⟩
        rw [constructNamed, hc]
        exact ho
      · rename_i hget
        rw [ofJson_mapping (requested?_eq_none_iff.2 hget)] at h
        obtain ⟨entries, hentries, rfl⟩ := Except.map_eq_ok_iff.1 h
        have hread : Dictionary.ReadAs ofJson members entries := ofMembers_eq_ok_iff.1 hentries
        exact ⟨entries, rfl, hread.keys_eq, hread.imp fun _ _ hentry => hentry.2⟩

/-- A value is read if and only if every check passes; otherwise the first check that fails is what is
reported. -/
theorem ofJson_decided_by_checks (v : Json) (hv : v.Sorted) :
    ((∃ a, ofJson v = .ok a) ↔ ∀ c ∈ checks v, c.failure? = none) ∧
      (∀ e, ofJson v = .error e ↔ ∃ before c after, checks v = before ++ c :: after ∧
        c.failure? = some e ∧ ∀ b ∈ before, b.failure? = none) ∧
      ∀ a, ofJson v = .ok a → Becomes v a := by
  refine ⟨?_, fun e => ?_, fun a h => becomes_of_ofJson h⟩
  · rw [ofJson_eq_settle v hv]
    constructor
    · rintro ⟨a, h⟩
      exact (settle_eq_ok_iff.1 h).1
    · exact fun h => ⟨evaluated v, settle_eq_ok_iff.2 ⟨h, rfl⟩⟩
  · rw [ofJson_eq_settle v hv]
    exact settle_eq_error_iff

/-- A stray key inside an array comes before the construction it spoils, before its own value, and before
the request behind it. -/
theorem ofJson_decided_by_checks_stray_key :
    let v : Json := .object
      [("a", .array [.object [("args", .array [.integer 1]), ("new", .string "FetchActionOptions"),
        ("zzz", .object [("new", .string "Nope")])]]),
        ("b", .object [("new", .string "Nope")])]
    v.Sorted ∧ ofJson v = .error (.unrecognizedOption "FetchActionOptions" "zzz") := by
  intro v
  have hv : v.Sorted := by
    simp only [v, Json.Sorted, Json.SortedMembers, Json.SortedItems, Dictionary.Sorted]
    decide
  refine ⟨hv, ((ofJson_decided_by_checks v hv).2.1 _).2
    ⟨[.className "FetchActionOptions"], .noStrayKey "FetchActionOptions" ["args", "new", "zzz"], _,
      rfl, rfl, ?_⟩⟩
  simp only [List.mem_singleton, forall_eq]
  rfl

end Argument

end PackageActions
