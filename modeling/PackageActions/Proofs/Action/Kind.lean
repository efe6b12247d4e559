import PackageActions.Object
import PackageActions.Proofs.Action.Reading
import PackageActions.Proofs.Class

/-!
# Names of kinds

A kind is named by its short name, in letters of either case, or by the name of its class as that stands
(`ActionKind.NamedBy`). No text names two kinds (`NamedBy.unique`), so it makes no difference in which order
the kinds are tried (`find?_isNamedBy_eq_some_iff`). These names are made of the letters A to Z, and so are
the names of all classes: a text with any other character in it names nothing, however much it looks like
a name.

`names_resolved` puts together what becomes of a text that is read as the name of a kind, by a command or
in JSON, and as the name of a class.
-/

namespace PackageActions

/-- A character in small letters. Only A to Z are changed. -/
def smallLetter (c : Char) : Char :=
  if 'A' ≤ c ∧ c ≤ 'Z' then Char.ofNat (c.toNat + 32) else c

theorem smallLetter_eq_toLower (c : Char) : smallLetter c = c.toLower := by
  unfold smallLetter Char.toLower
  by_cases h : c.val ≥ 'A'.val ∧ c.val ≤ 'Z'.val
  · have hle : c.toNat ≤ 90 := h.2
    have hvalid : (c.toNat + 32).isValidChar := Or.inl (by omega)
    have hnat : Char.ofNat (c.toNat + 32) = Char.ofNatAux (c.toNat + 32) hvalid := dif_pos hvalid
    have hval : (c.val + 32).toNat = c.toNat + 32 := by
      rw [UInt32.toNat_add]
      exact Nat.mod_eq_of_lt (show c.toNat + 32 < 2 ^ 32 by omega)
    rw [dif_pos h]
    refine (if_pos h).trans (Char.toNat_inj.1 ?_)
    rw [hnat]
    exact hval.symm
  · rw [dif_neg h]
    exact if_neg h

theorem isAlpha_of_smallLetter {c : Char} (h : (smallLetter c).isAlpha = true) : c.isAlpha = true := by
  unfold smallLetter at h
  split at h
  · rename_i hrange
    have hupper : c.isUpper = true := decide_eq_true hrange
    show (c.isUpper || c.isLower) = true
    rw [hupper, Bool.true_or]
  · exact h

/-- Only the letters A to Z, large or small, occur in the text. -/
def LettersOnly (text : String) : Prop := ∀ c ∈ text.toList, c.isAlpha = true

theorem lettersOnly_of_map_smallLetter {text : String} (h : LettersOnly (text.map smallLetter)) :
    LettersOnly text := by
  intro c hc
  have hsmall : (smallLetter c).isAlpha = true := by
    apply h
    rw [String.toList_map]
    exact List.mem_map_of_mem hc
  exact isAlpha_of_smallLetter hsmall

/-! ## Kinds -/

namespace ActionKind

theorem mem_all (kind : ActionKind) : kind ∈ all := by
  cases kind <;> decide

theorem name_injective : Function.Injective name := by
  intro kind kind' h
  have hread := decode_string_eq_ok_iff.2 h
  rw [decode_string_eq_ok_iff.2 rfl] at hread
  exact Except.ok.inj hread

theorem className_injective : Function.Injective className := by
  intro kind kind'
  cases kind <;> cases kind' <;> simp [className]

/-- The two ways to name a kind. -/
inductive NamedBy (kind : ActionKind) (text : String) : Prop where
  | inAnyCase (h : text.map smallLetter = kind.name)
  | byClass (h : text = kind.className)

variable {text : String} {kind kind' : ActionKind}

theorem isNamedBy_iff : kind.isNamedBy text = true ↔ kind.NamedBy text := by
  have hmap : text.toList.map Char.toLower = kind.name.toList ↔ text.map smallLetter = kind.name := by
    rw [← String.toList_inj, String.toList_map, funext smallLetter_eq_toLower]
  rw [isNamedBy, Bool.or_eq_true, decide_eq_true_iff, decide_eq_true_iff, hmap]
  constructor
  · rintro (h | h)
    · exact .inAnyCase h
    · exact .byClass h
  · rintro (h | h)
    · exact Or.inl h
    · exact Or.inr h

theorem map_smallLetter_className_ne_name (kind kind' : ActionKind) :
    kind.className.map smallLetter ≠ kind'.name := by
  rw [← String.toList_inj.ne, String.toList_map]
  cases kind <;> cases kind' <;> decide

/-- No text names two kinds. -/
theorem NamedBy.unique (h : kind.NamedBy text) (h' : kind'.NamedBy text) : kind = kind' := by
  cases h with
  | inAnyCase h =>
      cases h' with
      | inAnyCase h' => exact name_injective (h.symm.trans h')
      | byClass h' => exact absurd (h' ▸ h) (map_smallLetter_className_ne_name _ _)
  | byClass h =>
      cases h' with
      | inAnyCase h' => exact absurd (h ▸ h') (map_smallLetter_className_ne_name _ _)
      | byClass h' => exact className_injective (h.symm.trans h')

theorem NamedBy.lettersOnly (h : kind.NamedBy text) : LettersOnly text := by
  cases h with
  | inAnyCase h =>
      apply lettersOnly_of_map_smallLetter
      rw [h]
      cases kind <;> simp [LettersOnly, name]
  | byClass h =>
      rw [h]
      cases kind <;> simp [LettersOnly, className]

/-- However the kinds are listed, the first that a text names is the only one. -/
theorem find?_isNamedBy_eq_some_iff {kinds : List ActionKind} (hkinds : ∀ kind, kind ∈ kinds) :
    (kinds.find? fun kind => kind.isNamedBy text) = some kind ↔ kind.NamedBy text := by
  have hnamed : ∀ first, (kinds.find? fun kind => kind.isNamedBy text) = some first → first.NamedBy text :=
    fun first h => isNamedBy_iff.1 (by simpa using List.find?_some h)
  constructor
  · exact hnamed kind
  · intro h
    have hfound : (kinds.find? fun kind => kind.isNamedBy text).isSome :=
      List.find?_isSome.2 ⟨kind, hkinds kind, isNamedBy_iff.2 h⟩
    obtain ⟨first, hfirst⟩ := Option.isSome_iff_exists.1 hfound
    rw [hfirst, (hnamed first hfirst).unique h]

theorem ofText_eq_ok_iff : ofText text = .ok kind ↔ kind.NamedBy text := by
  rw [← find?_isNamedBy_eq_some_iff mem_all, ofText]
  split
  · rename_i first hfirst
    rw [hfirst, Except.ok.injEq, Option.some.injEq]
  · rename_i hnone
    rw [hnone]
    exact iff_of_false nofun nofun

theorem ofText_eq_error_iff {e : ActionError} :
    ofText text = .error e ↔ (∀ kind : ActionKind, ¬ kind.NamedBy text) ∧ e = .unknownClass text := by
  simp only [← find?_isNamedBy_eq_some_iff mem_all, ← ne_eq, ← Option.eq_none_iff_forall_ne_some]
  rw [ofText]
  split
  · rename_i first hfirst
    rw [hfirst]
    exact iff_of_false nofun nofun
  · rename_i hnone
    rw [hnone, Except.error.injEq, eq_comm]
    exact (and_iff_right rfl).symm

end ActionKind

/-! ## Classes -/

theorem Class.lettersOnly_name (c : Class) : LettersOnly c.name := by
  cases c <;> simp [LettersOnly, name, ActionKind.className, FetchOptions.className, FetchFailure.className]

theorem Class.name_ofAction (kind : ActionKind) : (Class.ofAction kind).name = kind.className := by
  cases kind <;> rfl

theorem Class.ofName_className (kind : ActionKind) :
    Class.ofName kind.className = .ok (Class.ofAction kind) :=
  Class.ofName_eq_ok_iff.2 (Class.name_ofAction kind)

/-- What belongs to the class of a kind are the actions of that kind. -/
theorem Object.classOf_eq_ofAction_iff (kind : ActionKind) (o : Object) :
    o.classOf = .ofAction kind ↔ ∃ a : Action, o = .action a ∧ a.kind = kind := by
  cases o with
  | action a =>
      simp only [classOf, Object.action.injEq, exists_eq_left']
      constructor
      · intro h
        rw [← ActionKind.className_injective.eq_iff, ← Class.name_ofAction, h, Class.name_ofAction]
      · exact congrArg Class.ofAction
  | options o => cases kind <;> simp [classOf, Class.ofAction]
  | failure f => cases kind <;> simp [classOf, Class.ofAction]
  | probe p => cases hkind : p.kind <;> cases kind <;> simp [classOf, hkind, Class.ofProbe, Class.ofAction]

/-! ## All readers of names -/

/-- What becomes of a text that is read as a name. -/
structure Resolved (text : String) : Prop where
  kind_iff : ∀ kind, ActionKind.ofText text = .ok kind ↔ kind.NamedBy text
  noKind_iff : ∀ e, ActionKind.ofText text = .error e ↔
    (∀ kind : ActionKind, ¬ kind.NamedBy text) ∧ e = .unknownClass text
  unambiguous : ∀ kind kind' : ActionKind, kind.NamedBy text → kind'.NamedBy text → kind = kind'
  anyOrder : ∀ kinds : List ActionKind, (∀ kind, kind ∈ kinds) → ∀ kind,
    (kinds.find? fun kind => kind.isNamedBy text) = some kind ↔ ActionKind.ofText text = .ok kind
  class_iff : ∀ c, Class.ofName text = .ok c ↔ text = c.name
  noClass_iff : ∀ e, Class.ofName text = .error e ↔ (∀ c : Class, text ≠ c.name) ∧ e = .unknownClass text
  foreign : ¬ LettersOnly text → ActionKind.ofText text = .error (.unknownClass text) ∧
    Class.ofName text = .error (.unknownClass text)
  json_iff : ∀ kind, ActionKind.decode (.string text) = .ok kind ↔ text = kind.name
  json_agrees : ∀ kind, ActionKind.decode (.string text) = .ok kind → ActionKind.ofText text = .ok kind
  classOf : ∀ kind, ActionKind.ofText text = .ok kind → ∃ c, Class.ofName kind.className = .ok c ∧
    ∀ o : Object, o.classOf = c ↔ ∃ a : Action, o = .action a ∧ a.kind = kind

/-- A text is the name of at most one kind and of at most one class, and the error carries the text as it
stands if it is none. JSON accepts the short name only in small letters, for the same kind. The class
name of a kind is that of the class to which the actions of the kind belong. -/
theorem names_resolved (text : String) : Resolved text where
  kind_iff kind := ActionKind.ofText_eq_ok_iff
  noKind_iff e := ActionKind.ofText_eq_error_iff
  unambiguous kind kind' h h' := h.unique h'
  anyOrder kinds hkinds kind := by
    rw [ActionKind.find?_isNamedBy_eq_some_iff hkinds, ActionKind.ofText_eq_ok_iff]
  class_iff c := by
    rw [Class.ofName_eq_ok_iff, eq_comm]
  noClass_iff e := by
    rw [Class.ofName_eq_error_iff, List.mem_map, not_exists]
    simp only [Class.mem_all, true_and, ne_comm, ne_eq]
  foreign h := by
    refine ⟨ActionKind.ofText_eq_error_iff.2 ⟨fun kind hkind => h hkind.lettersOnly, rfl⟩, ?_⟩
    refine Class.ofName_eq_error_iff.2 ⟨fun hmem => ?_, rfl⟩
    obtain ⟨c, -, rfl⟩ := List.mem_map.1 hmem
    exact h c.lettersOnly_name
  json_iff kind := ActionKind.decode_string_eq_ok_iff
  json_agrees kind h := by
    obtain rfl := ActionKind.decode_string_eq_ok_iff.1 h
    cases kind <;> rfl
  classOf kind _ := ⟨_, Class.ofName_className kind, Object.classOf_eq_ofAction_iff kind⟩

end PackageActions
