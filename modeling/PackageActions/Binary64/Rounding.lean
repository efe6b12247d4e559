import PackageActions.Binary64.Basic

/-!
# Rounding to double precision

`ofRatio` gives the double nearest a quotient of natural numbers, of two equally near ones the even.
All else is built on it: `ofDecimal` reads a decimal numeral exactly; `ofScaled` scales a 64-bit
integer by powers of ten with one rounding for each step.
-/

namespace PackageActions.Binary64

/-- The integer nearest `num / den`, of two equally near ones the even. -/
def roundHalfEven (num den : Nat) : Nat :=
  let q := num / den
  let r := num % den
  if 2 * r < den then q
  else if den < 2 * r then q + 1
  else if q % 2 = 0 then q else q + 1

/-- `num / den` as a multiple of `2 ^ e`: the numerator and denominator of `num / (den · 2 ^ e)`. -/
def rescale (num den : Nat) (e : Int) : Nat × Nat :=
  if 0 ≤ e then (num, den * Nat.pow 2 e.toNat) else (num * Nat.pow 2 (-e).toNat, den)

/-- The largest `e` with `2 ^ e ≤ num / den`, for positive numbers. -/
def floorLog2 (num den : Nat) : Int :=
  let e : Int := (Nat.log2 num : Int) - Nat.log2 den
  let (n, d) := rescale num den e
  if d ≤ n then e else e - 1

/-- The double nearest `num / den`, with the sign given; infinite where the exponent range ends. -/
def ofRatio (negative : Bool) (num den : Nat) : Binary64 :=
  if num = 0 then zero negative
  else
    let e := max (floorLog2 num den - 52) (-1074)
    let (n, d) := rescale num den e
    let magnitude := (e + 1074).toNat * Nat.pow 2 52 + roundHalfEven n d
    if magnitude < 2047 * Nat.pow 2 52 then withSign negative magnitude else infinity negative

/-- The double nearest an integer. -/
def ofInt (n : Int) : Binary64 := ofRatio (n < 0) n.natAbs 1

/-- A finite number, without its sign, as a quotient. -/
def toRatio (x : Binary64) : Nat × Nat :=
  if 0 ≤ x.exponent then (x.mantissa * Nat.pow 2 x.exponent.toNat, 1)
  else (x.mantissa, Nat.pow 2 (-x.exponent).toNat)

/-- The rounded product of two finite numbers, both taken as positive. -/
def product (x y : Binary64) : Binary64 :=
  ofRatio false (x.toRatio.1 * y.toRatio.1) (x.toRatio.2 * y.toRatio.2)

/-- The rounded quotient of two finite numbers, both taken as positive. -/
def quotient (x y : Binary64) : Binary64 :=
  ofRatio false (x.toRatio.1 * y.toRatio.2) (x.toRatio.2 * y.toRatio.1)

/-! ## Decimal numerals -/

/-- The double nearest `digits · 10 ^ exponent`. Outside the range of doubles by a wide margin the
answer is known from the number of digits, and no large power is formed. -/
def ofDecimal (negative : Bool) (digits : Nat) (exponent : Int) : Binary64 :=
  let size : Int := exponent + ((Nat.toDigits 10 digits).length : Int)
  if digits = 0 then zero negative
  else if size < -400 then zero negative
  else if 400 < size then infinity negative
  else if 0 ≤ exponent then ofRatio negative (digits * Nat.pow 10 exponent.toNat) 1
  else ofRatio negative digits (Nat.pow 10 (-exponent).toNat)

/-- The largest power of ten used in one step of scaling. -/
def scaleStep : Nat := 308

/-- The power of ten as a double. -/
def powerOfTen (k : Nat) : Binary64 := ofRatio false (Nat.pow 10 k) 1

/-- A positive number times `10 ^ k`, a power of at most 308 at a time; none if it overflows. -/
def scaleUp? (x : Binary64) (k : Nat) : Option Binary64 :=
  if k ≤ scaleStep then
    let y := product x (powerOfTen k)
    if y.isInfinite then none else some y
  else if x.isZero then some x else none

/-- A positive number divided by `10 ^ k`, a power of at most 308 at a time. -/
def scaleDown (x : Binary64) (k : Nat) : Binary64 :=
  if _h : k ≤ scaleStep then quotient x (powerOfTen k)
  else if x.isZero then x
  else scaleDown (quotient x (powerOfTen scaleStep)) (k - scaleStep)
termination_by k
decreasing_by simp only [scaleStep] at *; omega

/-- `digits · 10 ^ exponent` by rounding the integer and then every step of the scaling; none if it
overflows. For short numerals this is the nearest double. -/
def ofScaled? (negative : Bool) (digits : Nat) (exponent : Int) : Option Binary64 :=
  let start := ofRatio false digits 1
  let magnitude := if 0 ≤ exponent then scaleUp? start exponent.toNat
    else some (scaleDown start (-exponent).toNat)
  magnitude.map fun x => if negative then x.negate else x

end PackageActions.Binary64
