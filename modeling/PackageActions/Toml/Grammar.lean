import PackageActions.Binary64.Rounding
import PackageActions.Text.Parser
import PackageActions.Toml.Draft

/-!
# The grammar of TOML 1.1

Parsers for comments, strings, numbers, keys and values. Arrays and inline tables nest at most 80 deep,
and a dotted key has at most 80 parts. A line end inside a string over several lines stays as it is.
A number that does not fit its type is well written all the same; it only has no value.
-/

namespace PackageActions.Toml

open Text

/-- How deep arrays and inline tables may nest. -/
def maxDepth : Nat := 80

/-- How many parts a dotted key may have. -/
def maxKeyParts : Nat := 80

/-! ## Blanks and comments -/

/-- Tabs and spaces. -/
def blanks : Parser Unit := do
  let _ ← Parser.takeWhile fun c => c == ' ' || c == '\t'
  pure ()

/-- The end of a line: a line feed, perhaps with a carriage return in front. -/
def lineEnd : Parser (List Char) :=
  (do let _ ← Parser.char '\n'; pure ['\n']) <|>
    (do Parser.chars ['\r', '\n']; pure ['\r', '\n'])

/-- A character that may stand in a comment or string: a tab, or no control character. -/
def isPlain (c : Char) : Bool := c == '\t' || (' ' ≤ c && c != '\x7f')

/-- A comment up to the end of its line. -/
def comment : Parser Unit := do
  let _ ← Parser.char '#'
  let _ ← Parser.takeWhile isPlain
  pure ()

/-- Blanks, ends of lines, and comments with the end of their line: what may stand between the parts of
an array or of an inline table. -/
def spacing : Parser Unit := do
  let blank : Parser Unit := do
    let _ ← Parser.satisfy fun c => c == ' ' || c == '\t'
    pure ()
  let line : Parser Unit := do
    let _ ← Parser.optional? comment
    let _ ← lineEnd
    pure ()
  let _ ← Parser.many (blank <|> line)
  pure ()

/-! ## Strings -/

/-- The character of a code point, surrogates and numbers past the last excluded. -/
def scalarValue? (n : Nat) : Option Char :=
  if n < 0xd800 || (0xe000 ≤ n && n < 0x110000) then some (Char.ofNat n) else none

/-- What one letter behind a backslash stands for. -/
def shortEscape? (c : Char) : Option Char :=
  if c == '\x22' || c == '\\' then some c
  else if c == 'b' then some '\x08'
  else if c == 't' then some '\t'
  else if c == 'n' then some '\n'
  else if c == 'f' then some '\x0c'
  else if c == 'r' then some '\r'
  else if c == 'e' then some '\x1b'
  else none

/-- A character behind a backslash. -/
def escape : Parser Char := do
  let _ ← Parser.char '\\'
  let c ← Parser.satisfy fun _ => true
  if c == 'x' then do
    let n ← Parser.fixedDigits 16 2
    Parser.ofOption (scalarValue? n)
  else if c == 'u' then do
    let n ← Parser.fixedDigits 16 4
    Parser.ofOption (scalarValue? n)
  else if c == 'U' then do
    let n ← Parser.fixedDigits 16 8
    Parser.ofOption (scalarValue? n)
  else Parser.ofOption (shortEscape? c)

/-- The delimiter of strings with escapes, and that of strings without. -/
def doubleQuote : Char := '\x22'

def singleQuote : Char := '\x27'

/-- A character that stands for itself in a string with escapes. -/
def isBasic (c : Char) : Bool := isPlain c && c != doubleQuote && c != '\\'

/-- A character that stands for itself in a string without escapes. -/
def isLiteral (c : Char) : Bool := isPlain c && c != singleQuote

/-- A string on one line, with escapes. -/
def basicString : Parser String := do
  let _ ← Parser.char doubleQuote
  let body ← Parser.many (Parser.satisfy isBasic <|> escape)
  let _ ← Parser.char doubleQuote
  pure (String.ofList body)

/-- A string on one line, without escapes. -/
def literalString : Parser String := do
  let _ ← Parser.char singleQuote
  let body ← Parser.takeWhile isLiteral
  let _ ← Parser.char singleQuote
  pure (String.ofList body)

/-- One or two quotes inside a string over several lines. -/
def innerQuotes (quote : Char) : Parser (List Char) := do
  let quotes ← Parser.takeWhile₁ (· == quote)
  if quotes.length < 3 then pure quotes else Parser.fail

/-- Three quotes, with up to two more in front that belong to the string. -/
def closingQuotes (quote : Char) : Parser (List Char) := do
  let quotes ← Parser.takeWhile (· == quote)
  if 3 ≤ quotes.length && quotes.length ≤ 5 then pure (quotes.drop 3) else Parser.fail

/-- A string over several lines, made of pieces and quotes; a line end right behind the opening does not
count. -/
def multilineString (quote : Char) (piece : Parser (List Char)) : Parser String := do
  Parser.chars [quote, quote, quote]
  let _ ← Parser.optional? lineEnd
  let body ← Parser.many (piece <|> innerQuotes quote)
  let last ← closingQuotes quote
  pure (String.ofList (body.flatten ++ last))

/-- A backslash at the end of a line takes away the blanks and line ends behind it. -/
def joinedLines : Parser (List Char) := do
  let _ ← Parser.char '\\'
  blanks
  let _ ← lineEnd
  let blank : Parser Unit := do
    let _ ← Parser.satisfy fun c => c == ' ' || c == '\t'
    pure ()
  let _ ← Parser.many (blank <|> (do let _ ← lineEnd; pure ()))
  pure []

def multilineBasic : Parser String :=
  multilineString doubleQuote
    (((fun c => [c]) <$> Parser.satisfy isBasic) <|> lineEnd <|> joinedLines <|>
      ((fun c => [c]) <$> escape))

def multilineLiteral : Parser String :=
  multilineString singleQuote (((fun c => [c]) <$> Parser.satisfy isLiteral) <|> lineEnd)

def stringParser : Parser String :=
  multilineBasic <|> multilineLiteral <|> basicString <|> literalString

/-! ## Numbers -/

/-- Digits, with single underscores between them. -/
def groupedDigits (isDigit : Char → Bool) : Parser (List Char) :=
  List.flatten <$> Parser.sepBy₁ (Parser.takeWhile₁ isDigit) (Parser.char '_')

/-- Decimal digits that do not begin with a superfluous zero. -/
def wholeDigits : Parser (List Char) := do
  let digits ← groupedDigits Char.isDigit
  if digits.head? == some '0' && digits != ['0'] then Parser.fail else pure digits

/-- Whether a sign is there and which. -/
def signParser : Parser Bool := do
  let sign ← Parser.optional? (Parser.satisfy fun c => c == '+' || c == '-')
  pure (sign == some '-')

def decimalInteger : Parser Int := do
  let negative ← signParser
  let digits ← wholeDigits
  let n : Int := valueIn 10 digits
  pure (if negative then -n else n)

/-- An integer in a base other than ten; without digits it has no value. -/
def basedInteger (letter : Char) (base : Nat) : Parser (Option Int) := do
  let _ ← Parser.char '0'
  let _ ← Parser.char letter
  let digits ← Parser.optional? (groupedDigits (isDigitIn base))
  pure (digits.map fun digits => (valueIn base digits : Int))

/-- An integer of 64 bits. -/
def integer64? (n : Int) : Option Int64 :=
  if Int64.minValue.toInt ≤ n && n ≤ Int64.maxValue.toInt then some (Int64.ofInt n) else none

def integerParser : Parser (Option Int64) := do
  let n ← basedInteger 'x' 16 <|> basedInteger 'o' 8 <|> basedInteger 'b' 2 <|>
    (some <$> decimalInteger)
  pure (n.bind integer64?)

/-- An exponent with an optional sign; zeros in front are allowed. -/
def exponentParser : Parser Int := do
  let _ ← Parser.satisfy fun c => c == 'e' || c == 'E'
  let negative ← signParser
  let digits ← groupedDigits Char.isDigit
  let n : Int := valueIn 10 digits
  pure (if negative then -n else n)

/-- The words for numbers that no digits write. -/
def specialFloat : Parser Binary64 := do
  let negative ← signParser
  (do Parser.string "inf"; pure (Binary64.infinity negative)) <|>
    (do Parser.string "nan"; pure (Binary64.nan negative))

/-- A number with a fraction or an exponent; beyond the range of doubles it has no value. -/
def decimalFloat : Parser (Option Binary64) := do
  let negative ← signParser
  let whole ← wholeDigits
  let fraction ← Parser.optional? (Parser.char '.' *> groupedDigits Char.isDigit)
  let exponent ← Parser.optional? exponentParser
  if fraction.isNone && exponent.isNone then Parser.fail
  else
    let behind := fraction.getD []
    let scale : Int := exponent.getD 0 - behind.length
    let x := Binary64.ofDecimal negative (valueIn 10 (whole ++ behind)) scale
    pure (if x.isInfinite then none else some x)

def booleanParser : Parser Bool :=
  (do Parser.string "true"; pure true) <|> (do Parser.string "false"; pure false)

/-! ## Keys -/

/-- A character of a key without quotes. -/
def isBareKey (c : Char) : Bool := c.isAlphanum || c == '_' || c == '-'

def simpleKey : Parser String :=
  (String.ofList <$> Parser.takeWhile₁ isBareKey) <|> basicString <|> literalString

/-- Simple keys set apart by dots. -/
def keyPath : Parser KeyPath := do
  let first ← simpleKey
  let more ← Parser.many do
    blanks
    let _ ← Parser.char '.'
    blanks
    simpleKey
  if more.length < maxKeyParts then pure (KeyPath.ofParts first more) else Parser.fail

/-! ## Values -/

/-- A value that holds no other. -/
def scalar : Parser Written :=
  (Written.string <$> stringParser) <|> (Written.boolean <$> booleanParser) <|>
    (Written.datetime <$> datetimeParser) <|>
    (Written.float <$> ((some <$> specialFloat) <|> decimalFloat)) <|>
    (Written.integer <$> integerParser)

/-- An array of the given items; a comma behind the last is allowed. -/
def arrayOf (item : Parser Written) : Parser Written := do
  let _ ← Parser.char '['
  spacing
  let items ← Parser.optional? (Parser.sepBy₁ (item <* spacing) (Parser.char ',' *> spacing))
  let _ ← Parser.optional? (if items.isSome then Parser.char ',' *> spacing else Parser.fail)
  let _ ← Parser.char ']'
  pure (.array (items.getD []))

/-- A key, an equals sign and a value, with the given gaps around the sign. -/
def pairOf (gap : Parser Unit) (value : Parser Written) : Parser (KeyPath × Written) := do
  let path ← keyPath
  gap
  let _ ← Parser.char '='
  gap
  let v ← value
  pure (path, v)

/-- A table between braces; a comma behind the last pair is allowed. -/
def inlineTableOf (value : Parser Written) : Parser Written := do
  let _ ← Parser.char '\x7b'
  spacing
  let pairs ← Parser.optional?
    (Parser.sepBy₁ (pairOf spacing value <* spacing) (Parser.char ',' *> spacing))
  let _ ← Parser.optional? (if pairs.isSome then Parser.char ',' *> spacing else Parser.fail)
  let _ ← Parser.char '\x7d'
  let entries ← Parser.ofOption (inlineTable? (pairs.getD []))
  pure (.table entries)

/-- A value in which arrays and inline tables nest at most so deep. -/
def value : Nat → Parser Written
  | 0 => scalar
  | depth + 1 => scalar <|> arrayOf (value depth) <|> inlineTableOf (value depth)

end PackageActions.Toml
