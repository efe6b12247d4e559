import Mathlib.Data.List.Basic
import Mathlib.Data.List.Forall2
import PackageActions.Text.Parser

/-!
# Reading a text off in full

`Takes p text a rest` says that a parser reads a value off the front of a text and leaves a rest,
`Refuses p text` that it reads nothing. Each way of putting parsers together has a rule for what it takes,
and a choice also one for what it refuses, so that what a grammar reads off a text that is written by rules
is found by following both at once. A list is read item by item (`Takes.many`, `Takes.sepBy₁`), and what
takes everything gives the value of the whole text (`Takes.run?`).
-/

namespace PackageActions.Text.Parser

variable {α β : Type} {p : Parser α} {text middle rest : List Char} {a : α} {b : β}

/-- The parser reads the value off the front of the text and leaves the rest. -/
def Takes (p : Parser α) (text : List Char) (a : α) (rest : List Char) : Prop :=
  ∃ h, p text = some (a, ⟨rest, h⟩)

/-- The parser does not read the text. -/
def Refuses (p : Parser α) (text : List Char) : Prop := p text = none

/-! ## One after the other -/

theorem takes_pure (a : α) (text : List Char) : Takes (pure a) text a text :=
  ⟨Nat.le_refl _, rfl⟩

theorem Takes.bind {f : α → Parser β} (hp : Takes p text a middle) (hf : Takes (f a) middle b rest) :
    Takes (p >>= f) text b rest := by
  obtain ⟨hmiddle, hp⟩ := hp
  obtain ⟨hrest, hf⟩ := hf
  refine ⟨Nat.le_trans hrest hmiddle, ?_⟩
  show Parser.bind p f text = _
  simp only [Parser.bind, hp, hf, Rest.weaken]

theorem Takes.bind_pure (hp : Takes p text a rest) (f : α → β) :
    Takes (p >>= fun a => pure (f a)) text (f a) rest :=
  hp.bind (takes_pure (f a) rest)

theorem Takes.map (hp : Takes p text a rest) (f : α → β) : Takes (f <$> p) text (f a) rest :=
  hp.bind_pure f

theorem Takes.seqLeft {q : Parser β} (hp : Takes p text a middle) (hq : Takes q middle b rest) :
    Takes (p <* q) text a rest :=
  hp.bind (hq.bind (takes_pure a rest))

theorem Takes.seqRight {q : Parser β} (hp : Takes p text a middle) (hq : Takes q middle b rest) :
    Takes (p *> q) text b rest :=
  hp.bind hq

theorem Refuses.bind {f : α → Parser β} (hp : Refuses p text) : Refuses (p >>= f) text := by
  show Parser.bind p f text = none
  simp only [Parser.bind, show p text = none from hp]

theorem Takes.refuses_bind {f : α → Parser β} (hp : Takes p text a middle)
    (hf : Refuses (f a) middle) : Refuses (p >>= f) text := by
  obtain ⟨hmiddle, hp⟩ := hp
  show Parser.bind p f text = none
  simp only [Parser.bind, hp, show f a middle = none from hf]

theorem Refuses.seqLeft {q : Parser β} (hp : Refuses p text) : Refuses (p <* q) text := hp.bind

theorem Refuses.seqRight {q : Parser β} (hp : Refuses p text) : Refuses (p *> q) text := hp.bind

/-! ## One or the other -/

theorem Takes.orElse_left (hp : Takes p text a rest) (q : Parser α) : Takes (p <|> q) text a rest := by
  obtain ⟨hrest, hp⟩ := hp
  refine ⟨hrest, ?_⟩
  show Parser.orElse p (fun _ => q) text = _
  simp only [Parser.orElse, hp]

theorem Takes.orElse_right {q : Parser α} (hq : Takes q text a rest) (hp : Refuses p text) :
    Takes (p <|> q) text a rest := by
  obtain ⟨hrest, hq⟩ := hq
  refine ⟨hrest, ?_⟩
  show Parser.orElse p (fun _ => q) text = _
  simp only [Parser.orElse, show p text = none from hp, hq]

theorem Refuses.orElse {q : Parser α} (hp : Refuses p text) (hq : Refuses q text) :
    Refuses (p <|> q) text := by
  show Parser.orElse p (fun _ => q) text = none
  simp only [Parser.orElse, show p text = none from hp, show q text = none from hq]

theorem Takes.optional? (hp : Takes p text a rest) : Takes (optional? p) text (some a) rest :=
  (hp.map some).orElse_left _

theorem Refuses.optional? (hp : Refuses p text) : Takes (optional? p) text none text :=
  (takes_pure none text).orElse_right hp.bind

/-! ## Characters -/

theorem takes_satisfy {accept : Char → Bool} {c : Char} (hc : accept c = true) (rest : List Char) :
    Takes (satisfy accept) (c :: rest) c rest :=
  ⟨Nat.le_succ _, by rw [satisfy, if_pos hc]⟩

theorem refuses_satisfy {accept : Char → Bool} (h : ∀ c ∈ text.head?, accept c = false) :
    Refuses (satisfy accept) text := by
  cases text with
  | nil => rfl
  | cons c rest =>
      have hc : accept c = false := h c rfl
      show satisfy accept (c :: rest) = none
      rw [satisfy, hc]
      rfl

theorem takes_char (c : Char) (rest : List Char) : Takes (char c) (c :: rest) c rest :=
  takes_satisfy (beq_self_eq_true c) rest

theorem refuses_char {c : Char} (h : c ∉ text.head?) : Refuses (char c) text :=
  refuses_satisfy fun _ hc' => beq_eq_false_iff_ne.2 fun heq => h (heq ▸ hc')

theorem takes_chars (cs rest : List Char) : Takes (chars cs) (cs ++ rest) () rest := by
  induction cs with
  | nil => exact takes_pure () rest
  | cons c cs ih => exact (takes_char c (cs ++ rest)).seqRight ih

theorem takes_string (s : String) (rest : List Char) : Takes (string s) (s.toList ++ rest) () rest :=
  takes_chars s.toList rest

theorem refuses_string {s : String} {c : Char} (hs : s.toList.head? = some c)
    (h : c ∉ text.head?) : Refuses (string s) text := by
  show Refuses (chars s.toList) text
  cases hchars : s.toList with
  | nil => simp [hchars] at hs
  | cons c' cs =>
      obtain rfl : c' = c := by simpa [hchars] using hs
      exact (refuses_char h).seqRight

/-- Everything that is accepted is taken, up to the first character that is not. -/
theorem takes_takeWhile {accept : Char → Bool} {taken rest : List Char}
    (htaken : ∀ c ∈ taken, accept c = true) (hrest : ∀ c ∈ rest.head?, accept c = false) :
    Takes (takeWhile accept) (taken ++ rest) taken rest := by
  have hdrop : rest.dropWhile accept = rest := by
    cases rest with
    | nil => rfl
    | cons c rest => exact List.dropWhile_cons_of_neg (by simp [hrest c rfl])
  have htake : rest.takeWhile accept = [] := by
    cases rest with
    | nil => rfl
    | cons c rest => exact List.takeWhile_cons_of_neg (by simp [hrest c rfl])
  refine ⟨by simp, ?_⟩
  simp only [takeWhile, List.takeWhile_append_of_pos htaken, List.dropWhile_append_of_pos htaken,
    hdrop, htake, List.append_nil]

/-! ## Repetition -/

theorem Refuses.many (hp : Refuses p text) : Takes (Parser.many p) text [] text := by
  refine ⟨Nat.le_refl _, ?_⟩
  rw [Parser.many, show p text = none from hp]

theorem Takes.many {as : List α} (hp : Takes p text a middle) (hshorter : middle.length < text.length)
    (hmore : Takes (Parser.many p) middle as rest) : Takes (Parser.many p) text (a :: as) rest := by
  obtain ⟨hmiddle, hp⟩ := hp
  obtain ⟨hrest, hmore⟩ := hmore
  refine ⟨Nat.le_trans hrest hmiddle, ?_⟩
  rw [Parser.many, hp]
  simp only [hshorter, dite_true, hmore, Rest.weaken]

theorem Takes.sepBy₁ {separator : Parser β} {as : List α} (hp : Takes p text a middle)
    (hmore : Takes (Parser.many (separator *> p)) middle as rest) :
    Takes (Parser.sepBy₁ p separator) text (a :: as) rest :=
  hp.bind (hmore.bind (takes_pure (a :: as) rest))

/-! ## Whole texts -/

theorem Takes.run? (hp : Takes p text a []) : p.run? text = some a := by
  have hend : Takes atEnd [] () [] := ⟨Nat.le_refl _, rfl⟩
  obtain ⟨_, h⟩ := hp.seqLeft hend
  rw [Parser.run?, h]

end PackageActions.Text.Parser
