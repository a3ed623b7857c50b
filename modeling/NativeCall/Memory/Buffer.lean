import NativeCall.Memory.View
import NativeCall.Overflow
import NativeCall.Text.Utf8

/-!
This module contains buffers: regions that their holder allocates, reads and writes directly, and
hands out pointers to.
-/

namespace NativeCall

inductive BufferFault where
  | tooLarge (size : UInt64)
  | readPastEnd
  | writePastEnd
  | overflow
deriving DecidableEq, Repr

def BufferFault.message : BufferFault → String
  | tooLarge size => s!"native buffer of {size.toNat} bytes is too large"
  | readPastEnd => "read past end of native buffer"
  | writePastEnd => "write past end of native buffer"
  | overflow => "attempt to add with overflow"

/-- A region of `size` bytes at `base`, owned by whoever holds the buffer. -/
structure Buffer where
  base : UInt64
  size : UInt64
deriving DecidableEq, Repr

namespace Buffer

/-- The most bytes that one allocation may have: the address range is signed, and the end of the
region is rounded up to a multiple of sixteen. -/
def maxSize : Nat := 0x7FFFFFFFFFFFFFF0

def checkSize (size : UInt64) : Except BufferFault Unit :=
  if maxSize < size.toNat then .error (.tooLarge size) else .ok ()

def ofBytes (bytes : Array UInt8) (m : Memory) : Buffer × Memory :=
  let (base, m) := m.allocate bytes
  (⟨UInt64.ofNat base, UInt64.ofNat bytes.size⟩, m)

def zeroed (size : UInt64) (m : Memory) : Except BufferFault (Buffer × Memory) := do
  checkSize size
  return ofBytes (Array.replicate size.toNat 0) m

def release (b : Buffer) (m : Memory) : Memory :=
  m.release b.base.toNat

def isEmpty (b : Buffer) : Bool :=
  b.size == 0

def pointer (b : Buffer) : Pointer :=
  ⟨b.base, some b.size⟩

def toList (b : Buffer) (m : Memory) : List UInt8 :=
  m.read b.base.toNat b.size.toNat

/-- The text before the first zero byte, or all of it if there is none. -/
def readText (b : Buffer) (m : Memory) : String :=
  Text.decodeLossy ((b.toList m).takeWhile (· ≠ 0))

/-- The address of an access. Its end is computed in the width of an address, and one that is behind
the buffer gives the fault `past`. -/
def access (b : Buffer) (overflow : Overflow) (past : BufferFault) (offset width : UInt64) :
    Except BufferFault Nat :=
  match overflow.add? offset width with
  | none => .error .overflow
  | some stop => if stop ≤ b.size then .ok (b.base + offset).toNat else .error past

def read (b : Buffer) (overflow : Overflow) (offset width : UInt64) (m : Memory) :
    Except BufferFault (List UInt8) := do
  let address ← b.access overflow .readPastEnd offset width
  return m.read address width.toNat

def write (b : Buffer) (overflow : Overflow) (offset : UInt64) (data : List UInt8) (m : Memory) :
    Except BufferFault Memory := do
  let address ← b.access overflow .writePastEnd offset (UInt64.ofNat data.length)
  return m.write address data

def inspect (b : Buffer) (address : String) : String :=
  s!"NativeBuffer \x7b pointer: ptr({address}, len={b.size.toNat}) \x7d"

end Buffer

end NativeCall
