import PackageActions.Binary64.Rounding
import PackageActions.Json.Basic
import PackageActions.Text.Parser

/-!
# Reading JSON

`Json.parse?` reads a text by the strict grammar: no comments, no trailing commas, no leading zeros, no
raw control characters and no lone surrogates. Arrays and objects nest at most 127 deep. Of two members
with one key the later counts, and the members of an object come out in key order. A whole number of at
most 64 bits is an integer; any other number is a double, and one too large for a double is refused.
-/

namespace PackageActions.Json

open Text

/-- How deep arrays and objects may nest. -/
def maxDepth : Nat := 127

/-- Blanks between tokens. -/
def blanks : Parser Unit := do
  let _ ← Parser.takeWhile fun c => c == ' ' || c == '\t' || c == '\n' || c == '\r'
  pure ()

/-- A token with the blanks behind it. -/
def token {α : Type} (p : Parser α) : Parser α := p <* blanks

/-- A mark of one character. -/
def mark (c : Char) : Parser Char := token (Parser.char c)

/-! ## Strings -/

/-- The character of one code unit, or of a high surrogate and the low one that has to follow. -/
def escapedUnit : Parser Char := do
  let unit ← Parser.fixedDigits 16 4
  if 0xd800 ≤ unit && unit < 0xdc00 then
    Parser.string "\\u"
    let low ← Parser.fixedDigits 16 4
    if 0xdc00 ≤ low && low < 0xe000 then
      pure (Char.ofNat (0x10000 + (unit - 0xd800) * 0x400 + (low - 0xdc00)))
    else Parser.fail
  else if 0xdc00 ≤ unit && unit < 0xe000 then Parser.fail
  else pure (Char.ofNat unit)

/-- What one letter behind a backslash stands for. -/
def shortEscape? (c : Char) : Option Char :=
  if c == '\x22' || c == '\\' || c == '/' then some c
  else if c == 'b' then some '\x08'
  else if c == 'f' then some '\x0c'
  else if c == 'n' then some '\n'
  else if c == 'r' then some '\r'
  else if c == 't' then some '\t'
  else none

/-- A character behind a backslash. -/
def escape : Parser Char := do
  let _ ← Parser.char '\\'
  let c ← Parser.satisfy fun _ => true
  if c == 'u' then escapedUnit else Parser.ofOption (shortEscape? c)

/-- A character of a string. -/
def stringChar : Parser Char :=
  (Parser.satisfy fun c => c != '\x22' && c != '\\' && ' ' ≤ c) <|> escape

/-- A string between quotes. -/
def stringToken : Parser String := do
  let _ ← Parser.char '\x22'
  let body ← Parser.many stringChar
  let _ ← Parser.char '\x22'
  pure (String.ofList body)

/-! ## Numbers -/

/-- A numeral as written: sign, whole digits, digits behind the point, exponent. -/
structure Numeral where
  negative : Bool
  whole : List Char
  fraction : Option (List Char)
  exponent : Option Int

/-- Whole digits: a lone zero, or digits that do not begin with zero. -/
def wholeDigits : Parser (List Char) :=
  (do let _ ← Parser.char '0'; pure ['0']) <|> do
    let first ← Parser.satisfy fun c => '1' ≤ c && c ≤ '9'
    let more ← Parser.takeWhile Char.isDigit
    pure (first :: more)

/-- A point and digits. -/
def fractionDigits : Parser (List Char) := do
  let _ ← Parser.char '.'
  Parser.takeWhile₁ Char.isDigit

/-- An exponent with an optional sign. -/
def exponentValue : Parser Int := do
  let _ ← Parser.satisfy fun c => c == 'e' || c == 'E'
  let sign ← Parser.optional? (Parser.satisfy fun c => c == '+' || c == '-')
  let digits ← Parser.takeWhile₁ Char.isDigit
  pure (if sign == some '-' then -(valueIn 10 digits : Int) else valueIn 10 digits)

/-- A numeral. -/
def numeral : Parser Numeral := do
  let sign ← Parser.optional? (Parser.char '-')
  let whole ← wholeDigits
  let fraction ← Parser.optional? fractionDigits
  let exponent ← Parser.optional? exponentValue
  pure ⟨sign.isSome, whole, fraction, exponent⟩

/-- Takes digits into an integer of 64 bits as long as they fit; gives it and the digits that did not. -/
def takeFitting (n : Nat) : List Char → Nat × List Char
  | [] => (n, [])
  | c :: rest =>
    let longer := n * 10 + (digitValue? c).getD 0
    if longer < UInt64.size then takeFitting longer rest else (n, c :: rest)

/-- The double of a numeral: its leading digits, as many as fit 64 bits, scaled by a power of ten. -/
def Numeral.toFloat? (n : Numeral) : Option Binary64 :=
  let (head, dropped) := takeFitting 0 n.whole
  let fraction := n.fraction.getD []
  let (digits, unread) := takeFitting head fraction
  let scale : Int := dropped.length - (fraction.length - unread.length : Nat)
  Binary64.ofScaled? n.negative digits (scale + n.exponent.getD 0)

/-- The value of a numeral. Minus zero is a double, as integers have no such value. -/
def Numeral.toJson? (n : Numeral) : Option Json :=
  let whole : Int := valueIn 10 n.whole
  let value := if n.negative then -whole else whole
  if n.fraction.isNone && n.exponent.isNone && Int64.minValue.toInt ≤ value && value < UInt64.size &&
      !(n.negative && whole == 0) then
    some (.integer value)
  else n.toFloat?.map .float

/-! ## Values -/

/-- A value that holds no other. -/
def scalar : Parser Json :=
  (do Parser.string "null"; pure .null) <|>
  (do Parser.string "true"; pure (.bool true)) <|>
  (do Parser.string "false"; pure (.bool false)) <|>
  (do let s ← stringToken; pure (.string s)) <|>
  (do let n ← numeral; Parser.ofOption n.toJson?)

/-- An array of the given items. -/
def arrayOf (item : Parser Json) : Parser Json := do
  let _ ← mark '['
  let items ← Parser.optional? (Parser.sepBy₁ item (mark ','))
  let _ ← mark ']'
  pure (.array (items.getD []))

/-- A member: a key and a value. -/
def memberOf (value : Parser Json) : Parser (String × Json) := do
  let key ← token stringToken
  let _ ← mark ':'
  let v ← value
  pure (key, v)

/-- An object with the given values. -/
def objectOf (value : Parser Json) : Parser Json := do
  let _ ← mark '\x7b'
  let members ← Parser.optional? (Parser.sepBy₁ (memberOf value) (mark ','))
  let _ ← mark '\x7d'
  pure (.object (Dictionary.ofList (members.getD [])))

/-- A value in which arrays and objects nest at most so deep, with the blanks behind it. -/
def value : Nat → Parser Json
  | 0 => token scalar
  | depth + 1 => token scalar <|> arrayOf (value depth) <|> objectOf (value depth)

/-- The value that a text spells. -/
def parse? (text : String) : Option Json :=
  (blanks *> value maxDepth).run? text.toList

end PackageActions.Json
