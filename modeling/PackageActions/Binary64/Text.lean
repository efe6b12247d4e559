import PackageActions.Binary64.Shortest

/-!
# The text of a number

A number is written with its shortest digits, always with a decimal point or an exponent. A `Style` says
for which magnitudes the digits stand in place and for which an exponent follows them, and which of two
equally near decimals is written.
-/

namespace PackageActions.Binary64

/-- Where positional writing begins and ends, and which of two equally near decimals is written. The
magnitude of a number is the least `k` with the number below `10 ^ k`; outside the bounds an exponent is
written. -/
structure Style where
  leastMagnitude : Option Int
  greatestMagnitude : Option Int
  tie : Tie

/-- Positional at every size; of two equally near decimals the larger. -/
def Style.positional : Style := ⟨none, none, .larger⟩

/-- Positional from `0.00001` to below `10 ^ 16`; of two equally near decimals the even. -/
def Style.compact : Style := ⟨some (-4), some 16, .even⟩

/-- Whether digits of this magnitude stand in place. -/
def Style.inPlace (s : Style) (magnitude : Int) : Bool :=
  (s.leastMagnitude.all fun low => low ≤ magnitude) &&
    s.greatestMagnitude.all fun high => magnitude ≤ high

/-- Digits with the point where the magnitude puts it. -/
def placePoint (digits : List Char) (magnitude : Int) : List Char :=
  if magnitude ≤ 0 then
    '0' :: '.' :: List.replicate (-magnitude).toNat '0' ++ digits
  else if magnitude.toNat < digits.length then
    digits.take magnitude.toNat ++ '.' :: digits.drop magnitude.toNat
  else digits ++ List.replicate (magnitude.toNat - digits.length) '0' ++ ['.', '0']

/-- One digit, the others behind a point if there are any, and the exponent with its sign. -/
def withExponent (digits : List Char) (magnitude : Int) : List Char :=
  let mantissa := match digits with
    | first :: second :: more => first :: '.' :: second :: more
    | short => short
  let exponent := magnitude - 1
  mantissa ++ 'e' :: (if exponent < 0 then '-' else '+') :: Nat.toDigits 10 exponent.natAbs

/-- The text of a number without its sign. -/
def magnitudeText (s : Style) (x : Binary64) : String :=
  if x.isNaN then "NaN"
  else if x.isInfinite then "inf"
  else if x.isZero then "0.0"
  else
    let d := x.shortest s.tie
    let digits := Nat.toDigits 10 d.digits
    let magnitude := d.exponent + digits.length
    String.ofList (if s.inPlace magnitude then placePoint digits magnitude
      else withExponent digits magnitude)

/-- The text of a number. -/
def text (s : Style) (x : Binary64) : String :=
  if x.isNegative && !x.isNaN then "-" ++ magnitudeText s x else magnitudeText s x

end PackageActions.Binary64
