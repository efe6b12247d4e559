/-!
# Double-precision numbers as bits

A number is its 64 bits: one sign bit, eleven bits of exponent, 52 of fraction. Equality of the type is
equality of bits; `sameNumber` is the comparison of numbers, under which a NaN differs from itself and
the two zeros agree. A finite number is `mantissa · 2 ^ exponent` with its sign.
-/

namespace PackageActions

/-- A double-precision number, given by its bits. -/
structure Binary64 where
  bits : UInt64
deriving DecidableEq, Inhabited

namespace Binary64

/-- The sign bit. -/
def isNegative (x : Binary64) : Bool := Nat.pow 2 63 ≤ x.bits.toNat

/-- The eleven bits of the exponent. -/
def exponentBits (x : Binary64) : Nat := x.bits.toNat / Nat.pow 2 52 % Nat.pow 2 11

/-- The 52 bits of the fraction. -/
def fraction (x : Binary64) : Nat := x.bits.toNat % Nat.pow 2 52

def isFinite (x : Binary64) : Bool := x.exponentBits < 2047

def isNaN (x : Binary64) : Bool := x.exponentBits = 2047 && x.fraction ≠ 0

def isInfinite (x : Binary64) : Bool := x.exponentBits = 2047 && x.fraction = 0

def isZero (x : Binary64) : Bool := x.exponentBits = 0 && x.fraction = 0

/-- The integer of which a finite number is a multiple by a power of two. -/
def mantissa (x : Binary64) : Nat :=
  if x.exponentBits = 0 then x.fraction else Nat.pow 2 52 + x.fraction

/-- That power of two. -/
def exponent (x : Binary64) : Int := (max x.exponentBits 1 : Nat) - 1075

/-- Whether two bit patterns are the same number. -/
def sameNumber (x y : Binary64) : Bool :=
  !x.isNaN && !y.isNaN && (x = y || x.isZero && y.isZero)

/-- The number with the sign bit set as given. -/
def withSign (negative : Bool) (magnitude : Nat) : Binary64 :=
  ⟨UInt64.ofNat (magnitude % Nat.pow 2 63 + if negative then Nat.pow 2 63 else 0)⟩

def zero (negative : Bool) : Binary64 := withSign negative 0

def infinity (negative : Bool) : Binary64 := withSign negative (2047 * Nat.pow 2 52)

/-- The NaN whose only fraction bit is the first. -/
def nan (negative : Bool) : Binary64 := withSign negative (2047 * Nat.pow 2 52 + Nat.pow 2 51)

/-- The number with the other sign. -/
def negate (x : Binary64) : Binary64 := withSign (!x.isNegative) x.bits.toNat

end Binary64

end PackageActions
