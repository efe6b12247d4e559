import PackageActions.Text.Parser

/-!
# What parsers read

A parser yields a property when every value that it reads has it, off whatever text. Each way of putting
parsers together passes on what its parts yield, so what a grammar yields follows from its rules one by
one, and from that what the value of a whole text is like (`Yields.of_run?`).
-/

namespace PackageActions.Text.Parser

variable {α β : Type} {P : α → Prop} {Q : β → Prop}

/-- Every value that the parser reads has the property. -/
def Yields (p : Parser α) (P : α → Prop) : Prop := ∀ text a rest, p text = some (a, rest) → P a

/-- The property holds of everything in a list. -/
def Each (P : α → Prop) (as : List α) : Prop := ∀ a ∈ as, P a

theorem yields_fail : Yields fail P := by
  intro text a rest h
  cases h

theorem yields_pure {a : α} (ha : P a) : Yields (pure a) P := by
  intro text a' rest h
  obtain ⟨rfl, -⟩ := Prod.mk.inj (Option.some.inj h)
  exact ha

theorem Yields.bind {p : Parser α} {f : α → Parser β} (hp : Yields p P)
    (hf : ∀ a, P a → Yields (f a) Q) : Yields (p >>= f) Q := by
  intro text b rest h
  replace h : Parser.bind p f text = some (b, rest) := h
  unfold Parser.bind at h
  split at h
  · cases h
  · rename_i a middle hread
    split at h
    · cases h
    · rename_i b' after hread'
      obtain ⟨rfl, -⟩ := Prod.mk.inj (Option.some.inj h)
      exact hf a (hp _ _ _ hread) _ _ _ hread'

/-- What is read first may be anything. -/
theorem yields_bind {p : Parser α} {f : α → Parser β} (hf : ∀ a, Yields (f a) Q) :
    Yields (p >>= f) Q :=
  Yields.bind (fun _ _ _ _ => trivial) fun a (_ : True) => hf a

theorem Yields.map {p : Parser α} {f : α → β} (hp : Yields p P) (hf : ∀ a, P a → Q (f a)) :
    Yields (f <$> p) Q :=
  hp.bind fun a ha => yields_pure (hf a ha)

theorem yields_map {p : Parser α} {f : α → β} (hf : ∀ a, Q (f a)) : Yields (f <$> p) Q :=
  yields_bind fun a => yields_pure (hf a)

theorem Yields.seqLeft {p : Parser α} {q : Parser β} (hp : Yields p P) : Yields (p <* q) P :=
  hp.bind fun _ ha => yields_bind fun _ => yields_pure ha

theorem Yields.seqRight {p : Parser α} {q : Parser β} (hq : Yields q Q) : Yields (p *> q) Q :=
  yields_bind fun _ => hq

theorem Yields.orElse {p q : Parser α} (hp : Yields p P) (hq : Yields q P) : Yields (p <|> q) P := by
  intro text a rest h
  replace h : Parser.orElse p (fun _ => q) text = some (a, rest) := h
  unfold Parser.orElse at h
  split at h
  · rename_i result hread
    exact hp _ _ _ (hread.trans h)
  · exact hq _ _ _ h

theorem yields_ofOption {o : Option α} (ho : ∀ a, o = some a → P a) : Yields (ofOption o) P := by
  cases o with
  | none => exact yields_fail
  | some a => exact yields_pure (ho a rfl)

/-! ## Repetition -/

theorem Yields.optional? {p : Parser α} (hp : Yields p P) :
    Yields (optional? p) fun o => ∀ a, o = some a → P a := by
  refine Yields.orElse (hp.map ?_) (yields_pure ?_)
  · rintro a ha _ ⟨⟩
    exact ha
  · rintro a ⟨⟩

theorem Yields.many {p : Parser α} (hp : Yields p P) : Yields (Parser.many p) (Each P) := by
  intro text
  fun_induction Parser.many p text with
  | case1 text hnone =>
      intro as rest h
      obtain ⟨rfl, -⟩ := Prod.mk.inj (Option.some.inj h)
      exact fun a ha => absurd ha List.not_mem_nil
  | case2 text a rest hread hshorter hmore =>
      intro as rest' h
      cases h
  | case3 text a rest hread hshorter as after hmore ih =>
      intro as' rest' h
      obtain ⟨rfl, -⟩ := Prod.mk.inj (Option.some.inj h)
      exact List.forall_mem_cons.2 ⟨hp _ _ _ hread, ih as after hmore⟩
  | case4 text a rest hread hlonger =>
      intro as rest' h
      obtain ⟨rfl, -⟩ := Prod.mk.inj (Option.some.inj h)
      exact List.forall_mem_singleton.2 (hp _ _ _ hread)

theorem Yields.sepBy₁ {p : Parser α} {separator : Parser β} (hp : Yields p P) :
    Yields (sepBy₁ p separator) (Each P) :=
  hp.bind fun _ ha => (Yields.many hp.seqRight).bind fun _ has =>
    yields_pure (List.forall_mem_cons.2 ⟨ha, has⟩)

/-! ## Whole texts -/

theorem Yields.of_run? {p : Parser α} (hp : Yields p P) {text : List Char} {a : α}
    (h : p.run? text = some a) : P a := by
  unfold run? at h
  split at h
  · rename_i a' rest hread
    obtain rfl := Option.some.inj h
    exact hp.seqLeft _ _ _ hread
  · cases h

end PackageActions.Text.Parser
