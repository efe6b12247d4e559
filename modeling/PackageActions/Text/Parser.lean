import PackageActions.Text.Digit

/-!
# Parsers that cannot read past their text

A parser takes a value off the front of a text and leaves a rest that is no longer than the text. The
bound is part of the result, so a loop of parsers ends by it and no grammar built here needs fuel.
A parser that fails has read nothing: `p <|> q` tries `q` on the same text.
-/

namespace PackageActions.Text

/-- What a parser may leave of a text. -/
abbrev Rest (text : List Char) := { rest : List Char // rest.length ≤ text.length }

/-- The rest of a rest is a rest. -/
def Rest.weaken {text : List Char} (rest : Rest text) (after : Rest rest.val) : Rest text :=
  ⟨after.val, Nat.le_trans after.property rest.property⟩

/-- A reader of values off the front of a text. -/
def Parser (α : Type) := (text : List Char) → Option (α × Rest text)

namespace Parser

variable {α β : Type}

/-- Reads nothing and gives a value. -/
protected def pure (a : α) : Parser α := fun text => some (a, ⟨text, Nat.le_refl _⟩)

/-- Reads with one parser and goes on with the parser of the value read. -/
protected def bind (p : Parser α) (f : α → Parser β) : Parser β := fun text =>
  match p text with
  | none => none
  | some (a, rest) =>
    match f a rest.val with
    | none => none
    | some (b, after) => some (b, Rest.weaken rest after)

instance : Monad Parser where
  pure := Parser.pure
  bind := Parser.bind

/-- Refuses every text. -/
def fail : Parser α := fun _ => none

/-- The first of two parsers that succeeds. -/
protected def orElse (p : Parser α) (q : Unit → Parser α) : Parser α := fun text =>
  match p text with
  | some result => some result
  | none => q () text

instance : Alternative Parser where
  failure := fail
  orElse := Parser.orElse

/-- The value of an optional result, or failure. -/
def ofOption : Option α → Parser α
  | some a => Parser.pure a
  | none => fail

/-! ## Characters -/

/-- One character of a class. -/
def satisfy (accept : Char → Bool) : Parser Char
  | [] => none
  | c :: rest => if accept c then some (c, ⟨rest, Nat.le_succ _⟩) else none

/-- One given character. -/
def char (c : Char) : Parser Char := satisfy (· == c)

/-- The given characters in a row. -/
def chars : List Char → Parser Unit
  | [] => Parser.pure ()
  | c :: cs => char c *> chars cs

/-- The given text. -/
def string (s : String) : Parser Unit := chars s.toList

/-- All characters of a class at the front of the text, possibly none. -/
def takeWhile (accept : Char → Bool) : Parser (List Char) := fun text =>
  some (text.takeWhile accept, ⟨text.dropWhile accept, (List.dropWhile_sublist _).length_le⟩)

/-- All characters of a class at the front of the text, at least one. -/
def takeWhile₁ (accept : Char → Bool) : Parser (List Char) := do
  let first ← satisfy accept
  let more ← takeWhile accept
  pure (first :: more)

/-- A number of exactly so many digits in a base. -/
def fixedDigits (base : Nat) : Nat → Parser Nat
  | 0 => Parser.pure 0
  | n + 1 => do
    let higher ← fixedDigits base n
    let c ← satisfy (isDigitIn base)
    pure (higher * base + (digitValue? c).getD 0)

/-- The end of the text. -/
def atEnd : Parser Unit
  | [] => some ((), ⟨[], Nat.le_refl _⟩)
  | _ :: _ => none

/-! ## Repetition -/

/-- A parser's value, or nothing read. -/
def optional? (p : Parser α) : Parser (Option α) :=
  (some <$> p) <|> pure none

/-- As many values as there are; a value for which nothing was read ends the list. -/
def many (p : Parser α) : Parser (List α) := fun text =>
  match p text with
  | none => some ([], ⟨text, Nat.le_refl _⟩)
  | some (a, rest) =>
    if _h : rest.val.length < text.length then
      match many p rest.val with
      | none => none
      | some (as, after) => some (a :: as, Rest.weaken rest after)
    else some ([a], rest)
termination_by text => text.length

/-- At least one value, with a separator between neighbours. -/
def sepBy₁ (p : Parser α) (separator : Parser β) : Parser (List α) := do
  let first ← p
  let more ← many (separator *> p)
  pure (first :: more)

/-- The value of the whole text. -/
def run? (p : Parser α) (text : List Char) : Option α :=
  match (p <* atEnd) text with
  | some (a, _) => some a
  | none => none

end Parser

end PackageActions.Text
