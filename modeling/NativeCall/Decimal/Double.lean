import NativeCall.Decimal.Shortest

/-!
This module contains double-precision numbers given by their IEEE 754 bits: how they compare and how
they are written.
-/

namespace NativeCall.Decimal

/-- A double-precision number by its bits, the sign in the most significant one. -/
structure Double where
  bits : UInt64
deriving DecidableEq, Repr

namespace Double

def isNegative (d : Double) : Bool :=
  d.bits.toNat ≥ 1 <<< 63

def biased (d : Double) : Nat :=
  (d.bits.toNat >>> 52) % 2048

def stored (d : Double) : Nat :=
  d.bits.toNat % (1 <<< 52)

def isNaN (d : Double) : Bool :=
  d.biased = 2047 && d.stored ≠ 0

def isInfinite (d : Double) : Bool :=
  d.biased = 2047 && d.stored = 0

def isZero (d : Double) : Bool :=
  d.biased = 0 && d.stored = 0

/-- The numbers that round to the magnitude of a finite number other than zero. -/
def interval (d : Double) : Interval :=
  if d.biased = 0 then .ofBinary d.stored (-1074) false
  else .ofBinary ((1 <<< 52) + d.stored) (d.biased - 1075) (d.stored = 0 ∧ 1 < d.biased)

/-- Equality of numbers: zero has one value whatever its sign, and not-a-number differs from
everything. -/
def sameNumber (a b : Double) : Bool :=
  !a.isNaN && !b.isNaN && (a.bits == b.bits || (a.isZero && b.isZero))

def format (layout : Layout) (d : Double) : String :=
  if d.isNaN then "NaN"
  else
    let body :=
      if d.isInfinite then "inf"
      else if d.isZero then layout.plain ⟨0, 0⟩
      else layout.format d.interval.shortest
    if d.isNegative then "-" ++ body else body

/-- Positional notation always, and no point after a whole number. -/
def displayLayout : Layout := ⟨0, none⟩

/-- Positional notation from one ten-thousandth to below ten to the sixteenth, always with a digit
after the point. -/
def inspectLayout : Layout := ⟨1, some (-4, 16)⟩

def display (d : Double) : String :=
  d.format displayLayout

/-- The text shown in diagnostics, from which the type can be read off. -/
def inspect (d : Double) : String :=
  d.format inspectLayout

end Double

end NativeCall.Decimal
