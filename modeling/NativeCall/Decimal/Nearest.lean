import NativeCall.Decimal.Double

/-!
This module contains the reading of decimal numbers: the double-precision number that is nearest to a
decimal one. All arithmetic is on natural numbers.
-/

namespace NativeCall.Decimal.Double

def infinityBits : Nat := 2047 <<< 52

/-- The bits of the number nearest to `n / d`; of two that are equally near, the one whose last bit is
zero. Numbers that are too large become infinity. -/
def nearestBits (n d : Nat) : Nat :=
  let estimate : Int := (n.log2 : Int) - d.log2
  -- the binary logarithm of the quotient, rounded down, is the estimate or one less
  let atLeast : Bool := d <<< estimate.toNat ≤ n <<< (-estimate).toNat
  let magnitude := if atLeast then estimate else estimate - 1
  let power := max (magnitude - 52) (-1074)
  let num := n <<< (-power).toNat
  let den := d <<< power.toNat
  let below := num / den
  let twice := 2 * (num % den)
  let mantissa := if den < twice || (twice == den && below % 2 == 1) then below + 1 else below
  min (((power + 1074).toNat <<< 52) + mantissa) infinityBits

/-- The number nearest to `digits · 10 ^ exponent`, or to its negative. -/
def ofScientific (negative : Bool) (s : Scientific) : Double :=
  let size := s.exponent + (digitCount s.digits : Int)
  let bits :=
    if s.digits = 0 ∨ size < -400 then 0
    else if 400 < size then infinityBits
    else nearestBits (s.digits * Nat.pow 10 s.exponent.toNat) (Nat.pow 10 (-s.exponent).toNat)
  ⟨UInt64.ofNat (bits + if negative then 1 <<< 63 else 0)⟩

end NativeCall.Decimal.Double
