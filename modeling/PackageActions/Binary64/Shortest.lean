import PackageActions.Binary64.Rounding

/-!
# The fewest digits that read back

A positive finite double owns the interval of reals that round to it, its ends included if the mantissa
is even. `shortest` gives the decimal with the fewest digits in that interval: for one digit, two, and
so on to seventeen it looks at the two neighbours of the number on the grid of decimals with so many
digits, and takes the nearer of those that lie in the interval. Formats differ in which of two equally
near ones they take; `Tie` says it.
-/

namespace PackageActions.Binary64

/-- Which of two equally near decimals is taken: that with the even last digit, or the larger. -/
inductive Tie where
  | even
  | larger
deriving DecidableEq

/-- The integer nearest `num / den`. -/
def Tie.round (tie : Tie) (num den : Nat) : Nat :=
  match tie with
  | .even => roundHalfEven num den
  | .larger => (2 * num + den) / (2 * den)

/-- A decimal: `digits · 10 ^ exponent`. -/
structure Decimal where
  digits : Nat
  exponent : Int
deriving DecidableEq

/-- A number and the ends of its interval, in quarters of its last bit: each times `2 ^ exponent`. -/
structure Interval where
  low : Nat
  middle : Nat
  high : Nat
  exponent : Int
  closed : Bool

/-- The interval of the reals that round to a positive finite number. Below a power of two the
neighbours are twice as dense. -/
def interval (x : Binary64) : Interval where
  low := if x.fraction = 0 ∧ 1 < x.exponentBits then 4 * x.mantissa - 1 else 4 * x.mantissa - 2
  middle := 4 * x.mantissa
  high := 4 * x.mantissa + 2
  exponent := x.exponent - 2
  closed := x.mantissa % 2 = 0

/-- The two sides of a comparison of `n · 2 ^ e` with `d · 10 ^ t`, as natural numbers. -/
def crossMultiply (n : Nat) (e : Int) (d : Nat) (t : Int) : Nat × Nat :=
  (n * Nat.pow 2 e.toNat * Nat.pow 10 (-t).toNat, d * Nat.pow 10 t.toNat * Nat.pow 2 (-e).toNat)

/-- Whether `d · 10 ^ t` rounds to the number of the interval. -/
def Interval.contains (i : Interval) (d : Nat) (t : Int) : Bool :=
  let (l, dl) := crossMultiply i.low i.exponent d t
  let (h, dh) := crossMultiply i.high i.exponent d t
  if i.closed then l ≤ dl && dh ≤ h else l < dl && dh < h

/-- The least `k` with `n · 2 ^ e < 10 ^ k`, for a positive `n`: an estimate from the binary logarithm
is at most two too small. -/
def decimalMagnitude (n : Nat) (e : Int) : Int :=
  let estimate := ((Nat.log2 n : Int) + e) * 30102 / 100000 - 1
  let candidates := [estimate, estimate + 1, estimate + 2, estimate + 3]
  (candidates.find? fun k =>
    let (l, r) := crossMultiply n e 1 k
    l < r).getD (estimate + 4)

/-- The decimal with the last digit at `10 ^ t` nearest the number, if it or the other neighbour on
that grid lies in the interval. -/
def Interval.nearestOnGrid? (tie : Tie) (i : Interval) (t : Int) : Option Decimal :=
  let (n, unit) := crossMultiply i.middle i.exponent 1 t
  let below := n / unit
  let hitBelow := 0 < below && i.contains below t
  let hitAbove := i.contains (below + 1) t
  if hitBelow && hitAbove then some ⟨tie.round n unit, t⟩
  else if hitBelow then some ⟨below, t⟩
  else if hitAbove then some ⟨below + 1, t⟩
  else none

/-- Drops zeros at the end of the digits. -/
def Decimal.strip (d : Decimal) : Decimal :=
  let zeros := ((Nat.toDigits 10 d.digits).reverse.takeWhile (· == '0')).length
  if d.digits = 0 then d else ⟨d.digits / Nat.pow 10 zeros, d.exponent + zeros⟩

/-- The shortest decimal that reads back as a positive finite number, and nearest it among those. -/
def shortest (tie : Tie) (x : Binary64) : Decimal :=
  let i := x.interval
  let k := decimalMagnitude i.middle i.exponent
  let hit := (List.range 17).findSome? fun (n : Nat) => i.nearestOnGrid? tie (k - 1 - n)
  (hit.getD ⟨x.mantissa, 0⟩).strip

end PackageActions.Binary64
