import NativeCall.Memory.Pointer
import NativeCall.Memory.Store

/-!
This module contains views: pointers that are not null, through which a call touches memory after
checking that the bytes it wants lie inside the region, if its length is known.
-/

namespace NativeCall

inductive MemoryFault where
  | null
  /-- The access ends `needed` bytes into a region of `length` bytes. -/
  | outOfBounds (needed length : UInt64)
  | width (width : UInt64)
deriving DecidableEq, Repr

namespace MemoryFault

def message : MemoryFault → String
  | null => "null pointer"
  | outOfBounds needed length =>
    s!"access of {needed.toNat} bytes exceeds region of {length.toNat} bytes"
  | width w => s!"unsupported integer width {w.toNat}"

def inspect : MemoryFault → String
  | null => "Null"
  | outOfBounds needed length =>
    s!"OutOfBounds \x7b needed: {needed.toNat}, len: {length.toNat} \x7d"
  | width w => s!"Width \x7b width: {w.toNat} \x7d"

end MemoryFault

structure View where
  base : UInt64
  length : Option UInt64
  base_ne_zero : base ≠ 0

namespace View

def acquire (p : Pointer) : Except MemoryFault View :=
  if h : p.address = 0 then .error .null else .ok ⟨p.address, p.length, h⟩

/-- A region of unknown length is trusted, but the end of the range has to be an address. -/
def check (v : View) (offset size : UInt64) : Except MemoryFault Unit :=
  let needed := offset.toNat + size.toNat
  if UInt64.size ≤ needed then
    .error (.outOfBounds (UInt64.ofNat (UInt64.size - 1)) (v.length.getD 0))
  else
    match v.length with
    | some length =>
      if length.toNat < needed then .error (.outOfBounds (UInt64.ofNat needed) length) else .ok ()
    | none => .ok ()

def address (v : View) (offset : UInt64) : Nat :=
  (v.base + offset).toNat

def fill (v : View) (byte : UInt8) (size : UInt64) (m : Memory) : Except MemoryFault Memory := do
  v.check 0 size
  return m.write (v.address 0) (List.replicate size.toNat byte)

def isWidth (width : UInt64) : Bool :=
  width == 1 || width == 2 || width == 4 || width == 8

def writeUInt (v : View) (offset width value : UInt64) (m : Memory) :
    Except MemoryFault Memory := do
  v.check offset width
  if isWidth width then
    return m.write (v.address offset) (littleEndian width.toNat value.toNat)
  else throw (.width width)

def readUInt (v : View) (offset width : UInt64) (m : Memory) : Except MemoryFault UInt64 := do
  v.check offset width
  if isWidth width then
    return UInt64.ofNat (ofLittleEndian (m.read (v.address offset) width.toNat))
  else throw (.width width)

/-- Store numbers of `width` bytes one after the other, the first at place `n`. -/
def writeAll (v : View) (width : UInt64) : UInt64 → List UInt64 → Memory → Except MemoryFault Memory
  | _, [], m => .ok m
  | n, id :: rest, m => do
    let m ← v.writeUInt (n * width) width id m
    v.writeAll width (n + 1) rest m

/-- Store at most `limit` numbers of `width` bytes one after the other, all or none. Gives how many
were stored. -/
def writeIds (v : View) (width : UInt64) (ids : List UInt64) (limit : UInt64) (m : Memory) :
    Except MemoryFault (Nat × Memory) := do
  let chosen := ids.take limit.toNat
  v.check 0 (UInt64.ofNat chosen.length * width)
  let m ← v.writeAll width 0 chosen m
  return (chosen.length, m)

/-- Store numbers in place, the first at place `n`. What was stored in front of one that is refused
stays. -/
def putAll (v : View) (width : UInt64) :
    UInt64 → List UInt64 → Memory → Memory × Except MemoryFault Unit
  | _, [], m => (m, .ok ())
  | n, id :: rest, m =>
    match v.writeUInt (n * width) width id m with
    | .ok m => v.putAll width (n + 1) rest m
    | .error e => (m, .error e)

/-- The storing of `writeIds` in place. -/
def putIds (v : View) (width : UInt64) (ids : List UInt64) (limit : UInt64) (m : Memory) :
    Memory × Except MemoryFault Nat :=
  let chosen := ids.take limit.toNat
  match v.check 0 (UInt64.ofNat chosen.length * width) with
  | .ok () =>
    let (m, result) := v.putAll width 0 chosen m
    (m, result.map fun _ => chosen.length)
  | .error e => (m, .error e)

end View

end NativeCall
