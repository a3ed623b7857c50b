import NativeCall.Text.Hex

/-!
This module contains pointers: an address and, where it is known, the size of the region behind it.
-/

namespace NativeCall

/-- A handle on native memory. Whoever made it owns the region; a length of `none` is unknown. -/
structure Pointer where
  address : UInt64
  length : Option UInt64
deriving DecidableEq, Repr, Inhabited

namespace Pointer

def null : Pointer := ⟨0, none⟩

def isNull (p : Pointer) : Bool :=
  p.address == 0

def display (p : Pointer) : String :=
  match p.length with
  | some len => s!"ptr(0x{Text.hexUpper p.address.toNat}, len={len.toNat})"
  | none => s!"ptr(0x{Text.hexUpper p.address.toNat})"

end Pointer

end NativeCall
