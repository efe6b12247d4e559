import PackageActions.Proofs.Argument.OfJson

/-!
# Values inside values

A value that stands somewhere inside another one is read as it would be read alone, and the reading of
what is around it goes on with the outcome. `Frame` is what is around a value one level deep, at a place
that is read: among the items of an array, among the members of a mapping, or as what a request gives for
its arguments. `ofJson_fill_all` says it for any number of levels.
-/

namespace PackageActions

/-- A request for a value of a named class. -/
def Json.request (name : String) (args : Json) : Json :=
  .object [("args", args), ("new", .string name)]

namespace Argument

/-- An argument stands somewhere in another one, or is that argument. -/
inductive Within (a : Argument) : Argument → Prop where
  | self : Within a a
  | item {items : List Argument} {item : Argument} (hitem : item ∈ items) (ha : Within a item) :
      Within a (.list items)
  | entry {m : Mapping} {entry : String × Argument} (hentry : entry ∈ m) (ha : Within a entry.2) :
      Within a (.mapping m)

/-- What is around a value one level deep. -/
inductive Frame where
  /-- Items of an array. -/
  | item (before after : List Json)
  /-- Members of a mapping, whatever the value itself is as long as it is no string. -/
  | member (before : List (String × Json)) (key : String) (after : List (String × Json))
      (plain : requested? (before ++ (key, .null) :: after) = none)
  /-- A request, of which the value gives the arguments. -/
  | args (name : String)

namespace Frame

/-- The whole value, with a value put into its place. -/
def fill : Frame → Json → Json
  | .item before after, v => .array (before ++ v :: after)
  | .member before key after _, v => .object (before ++ (key, v) :: after)
  | .args name, v => .request name v

/-- The outcome for the whole value, given the outcome for the value in its place. -/
def resume : Frame → Except ActionError Argument → Except ActionError Argument
  | .item before after, outcome => do
    let as ← ofItems before
    let a ← outcome
    let bs ← ofItems after
    pure (.list (as ++ a :: bs))
  | .member before key after _, outcome => do
    let as ← ofMembers before
    let a ← outcome
    let bs ← ofMembers after
    pure (.mapping (as ++ (key, a) :: bs))
  | .args name, outcome => do
    let c ← Class.ofName name
    let a ← outcome
    .object <$> construct c (given a)

end Frame

/-! ## One level -/

theorem requested?_fill {before after : List (String × Json)} {key : String}
    (h : requested? (before ++ (key, .null) :: after) = none) {v : Json} (hv : ∀ s, v ≠ .string s) :
    requested? (before ++ (key, v) :: after) = none := by
  rw [requested?_eq_none_iff] at h ⊢
  intro name
  have hname := h name
  rw [Dictionary.get?_append, Dictionary.get?_cons] at hname ⊢
  cases hbefore : Dictionary.get? before "new" with
  | some w => rwa [hbefore] at hname
  | none =>
      rw [hbefore, Option.none_or] at hname
      rw [Option.none_or]
      by_cases hkey : key = "new"
      · rw [if_pos hkey]
        exact fun hs => hv name (Option.some.inj hs)
      · rwa [if_neg hkey] at hname ⊢

theorem ofJson_request_args (name : String) (v : Json) :
    ofJson (.request name v) =
      Class.ofName name >>= fun c => ofJson v >>= fun a => .object <$> construct c (given a) := by
  have hname : requested? [("args", v), ("new", .string name)] = some name := rfl
  have hargs : Dictionary.get? [("args", v), ("new", .string name)] "args" = some v := rfl
  rw [Json.request, ofJson_request hname, ofRequest_of_get?_eq_some hargs]
  simp only [bind_map_left]
  rfl

theorem ofJson_fill (f : Frame) {v : Json} (hv : ∀ s, v ≠ .string s) :
    ofJson (f.fill v) = f.resume (ofJson v) := by
  cases f with
  | item before after =>
      rw [Frame.fill, ofJson_array, ofItems_eq_mapM, List.mapM_append, List.mapM_cons]
      simp only [Frame.resume, ofItems_eq_mapM, map_bind, bind_assoc, map_pure, pure_bind]
  | member before key after plain =>
      rw [Frame.fill, ofJson_mapping (requested?_fill plain hv), ofMembers_eq_mapM, List.mapM_append,
        List.mapM_cons]
      simp only [Frame.resume, ofMembers_eq_mapM, map_bind, bind_assoc, map_pure, pure_bind,
        bind_map_left]
  | args name => exact ofJson_request_args name v

theorem fill_ne_string (f : Frame) (v : Json) (s : String) : f.fill v ≠ .string s := by
  cases f <;> exact Json.noConfusion

theorem ofJson_fill_all (frames : List Frame) {v : Json} (hv : ∀ s, v ≠ .string s) :
    ofJson (frames.foldr Frame.fill v) = frames.foldr Frame.resume (ofJson v) := by
  induction frames with
  | nil => rfl
  | cons f rest ih =>
      have hrest : ∀ s, rest.foldr Frame.fill v ≠ .string s := by
        cases rest with
        | nil => exact hv
        | cons g rest => exact fill_ne_string g _
      rw [List.foldr_cons, List.foldr_cons, ofJson_fill f hrest, ih]

end Argument

end PackageActions
