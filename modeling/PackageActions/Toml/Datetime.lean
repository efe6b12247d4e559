import PackageActions.Text.Parser

/-!
# Dates and times

A date-time has a date, a time, or both, and with both it may have an offset from universal time.
`Datetime.parse?` accepts real calendar dates only, and times with or without seconds; `Datetime.text`
writes any of them in one way, with the letter T between date and time, always with seconds, and without
zeros at the end of the fraction of a second.
-/

namespace PackageActions.Toml

open Text

/-- A day of the calendar. -/
structure Date where
  year : Nat
  month : Nat
  day : Nat
deriving DecidableEq

/-- A time of day; the fraction of the second is in nanoseconds. -/
structure Time where
  hour : Nat
  minute : Nat
  second : Nat
  nanosecond : Nat
deriving DecidableEq

/-- The distance from universal time. -/
inductive Offset where
  | universal
  | minutes (n : Int)
deriving DecidableEq

/-- A date, a time, or both. -/
inductive Datetime where
  | date (d : Date)
  | time (t : Time)
  | both (d : Date) (t : Time) (offset : Option Offset)
deriving DecidableEq

/-! ## The calendar -/

def isLeapYear (year : Nat) : Bool :=
  year % 4 = 0 && (year % 100 ≠ 0 || year % 400 = 0)

/-- How many days a month has. -/
def daysIn (year month : Nat) : Nat :=
  if month = 2 then if isLeapYear year then 29 else 28
  else if month = 4 || month = 6 || month = 9 || month = 11 then 30
  else 31

/-- A day that exists. -/
def Date.isValid (d : Date) : Bool :=
  1 ≤ d.month && d.month ≤ 12 && 1 ≤ d.day && d.day ≤ daysIn d.year d.month

/-- A time that exists; a minute may have a leap second. -/
def Time.isValid (t : Time) : Bool :=
  t.hour ≤ 23 && t.minute ≤ 59 && t.second ≤ 60

/-! ## Reading -/

/-- A value that passes a test. -/
def checked {α : Type} (test : α → Bool) (p : Parser α) : Parser α := do
  let a ← p
  if test a then pure a else Parser.fail

def dateParser : Parser Date := checked Date.isValid do
  let year ← Parser.fixedDigits 10 4
  let _ ← Parser.char '-'
  let month ← Parser.fixedDigits 10 2
  let _ ← Parser.char '-'
  let day ← Parser.fixedDigits 10 2
  pure ⟨year, month, day⟩

/-- A point and digits, of which nine count. -/
def nanoseconds : Parser Nat := do
  let _ ← Parser.char '.'
  let digits ← Parser.takeWhile₁ Char.isDigit
  let nine := (digits ++ List.replicate 9 '0').take 9
  pure (valueIn 10 nine)

/-- A colon, the second, and perhaps a fraction of a second in nanoseconds. -/
def seconds : Parser (Nat × Nat) := do
  let _ ← Parser.char ':'
  let second ← Parser.fixedDigits 10 2
  let fraction ← Parser.optional? nanoseconds
  pure (second, fraction.getD 0)

/-- An hour and a minute; without a second the minute has just begun. -/
def timeParser : Parser Time := checked Time.isValid do
  let hour ← Parser.fixedDigits 10 2
  let _ ← Parser.char ':'
  let minute ← Parser.fixedDigits 10 2
  let (second, nanosecond) := (← Parser.optional? seconds).getD (0, 0)
  pure ⟨hour, minute, second, nanosecond⟩

def offsetParser : Parser Offset :=
  (do let _ ← Parser.satisfy fun c => c == 'Z' || c == 'z'; pure .universal) <|> do
    let sign ← Parser.satisfy fun c => c == '+' || c == '-'
    let hour ← checked (· ≤ 23) (Parser.fixedDigits 10 2)
    let _ ← Parser.char ':'
    let minute ← checked (· ≤ 59) (Parser.fixedDigits 10 2)
    let distance : Int := hour * 60 + minute
    pure (.minutes (if sign = '-' then -distance else distance))

/-- A date, then perhaps a time behind a T or a blank, then perhaps an offset; or a time. -/
def datetimeParser : Parser Datetime :=
  (do
    let d ← dateParser
    let _ ← Parser.satisfy fun c => c == 'T' || c == 't' || c == ' '
    let t ← timeParser
    let offset ← Parser.optional? offsetParser
    pure (.both d t offset)) <|>
  (do let d ← dateParser; pure (.date d)) <|>
  (do let t ← timeParser; pure (.time t))

/-- The date-time that characters spell. -/
def Datetime.parse? (text : List Char) : Option Datetime := datetimeParser.run? text

/-! ## Writing -/

def Date.chars (d : Date) : List Char :=
  digitsIn 10 4 d.year ++ '-' :: digitsIn 10 2 d.month ++ '-' :: digitsIn 10 2 d.day

/-- The fraction of a second without zeros at the end, and nothing for a whole second. -/
def fractionChars (nanosecond : Nat) : List Char :=
  if nanosecond = 0 then []
  else '.' :: ((digitsIn 10 9 nanosecond).reverse.dropWhile (· == '0')).reverse

def Time.chars (t : Time) : List Char :=
  digitsIn 10 2 t.hour ++ ':' :: digitsIn 10 2 t.minute ++ ':' :: digitsIn 10 2 t.second ++
    fractionChars t.nanosecond

def Offset.chars : Offset → List Char
  | .universal => ['Z']
  | .minutes n =>
    (if n < 0 then '-' else '+') :: digitsIn 10 2 (n.natAbs / 60) ++ ':' :: digitsIn 10 2 (n.natAbs % 60)

def Datetime.chars : Datetime → List Char
  | .date d => d.chars
  | .time t => t.chars
  | .both d t offset => d.chars ++ 'T' :: t.chars ++ (offset.map Offset.chars).getD []

/-- The one way to write a date-time. -/
def Datetime.text (t : Datetime) : String := String.ofList t.chars

end PackageActions.Toml
