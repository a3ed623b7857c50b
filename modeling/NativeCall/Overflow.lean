/-!
This module contains what becomes of arithmetic whose result does not fit its type, which is up to the
build of the program: the result wraps around, or the program stops.
-/

namespace NativeCall

inductive Overflow where
  | wraps
  | stops
deriving DecidableEq, Repr

namespace Overflow

/-- The sum, unless the program stops. -/
def add? (overflow : Overflow) (a b : UInt64) : Option UInt64 :=
  if overflow = .stops ∧ UInt64.size ≤ a.toNat + b.toNat then none else some (a + b)

def neg? (overflow : Overflow) (n : Int64) : Option Int64 :=
  if overflow = .stops ∧ n = Int64.minValue then none else some (-n)

end Overflow

end NativeCall
