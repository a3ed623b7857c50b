/-!
This module contains native memory: regions of bytes at fixed addresses. The view of a memory is
`Memory.byte?`, the byte at an address; each operation says what it does to that view.
-/

namespace NativeCall

structure Region where
  base : Nat
  bytes : Array UInt8
deriving DecidableEq, Repr

namespace Region

def byte? (r : Region) (address : Nat) : Option UInt8 :=
  if r.base ≤ address then r.bytes[address - r.base]? else none

/-- Replace the bytes from `address` on by `data`, where the region covers them. -/
def overlay (r : Region) (address : Nat) (data : Array UInt8) : Region :=
  { r with bytes := r.bytes.mapIdx fun i b =>
      if address ≤ r.base + i then (data[r.base + i - address]?).getD b else b }

theorem byte?_overlay (r : Region) (address : Nat) (data : Array UInt8) (a : Nat)
    : (r.overlay address data).byte? a =
      (r.byte? a).map fun b => if address ≤ a then (data[a - address]?).getD b else b := by
  unfold overlay byte?
  by_cases h : r.base ≤ a
  . simp [h, Array.getElem?_mapIdx]
  . simp [h]

end Region

/-- The regions that are in use, and the first address that has never been handed out. -/
structure Memory where
  regions : List Region
  frontier : Nat
deriving DecidableEq, Repr

namespace Memory

def fresh : Memory := ⟨[], 0x5500_0000_0000⟩

def byte? (m : Memory) (address : Nat) : Option UInt8 :=
  m.regions.findSome? (·.byte? address)

def byte (m : Memory) (address : Nat) : UInt8 :=
  (m.byte? address).getD 0

def read (m : Memory) (address count : Nat) : List UInt8 :=
  (List.range' address count).map m.byte

/-- Replace the bytes from `address` on by `data`. Addresses outside every region keep nothing. -/
def write (m : Memory) (address : Nat) (data : List UInt8) : Memory :=
  let data := data.toArray
  { m with regions := m.regions.map (·.overlay address data) }

/-- A new region with these bytes, at an address that is a multiple of sixteen. -/
def allocate (m : Memory) (bytes : Array UInt8) : Nat × Memory :=
  let base := m.frontier
  (base, ⟨⟨base, bytes⟩ :: m.regions, base + (bytes.size + 47) / 16 * 16⟩)

def release (m : Memory) (base : Nat) : Memory :=
  { m with regions := m.regions.filter (·.base ≠ base) }

theorem byte?_write (m : Memory) (address : Nat) (data : List UInt8) (a : Nat)
    : (m.write address data).byte? a =
      (m.byte? a).map fun b => if address ≤ a then (data[a - address]?).getD b else b := by
  unfold write byte?
  induction m.regions with
  | nil => rfl
  | cons r rest ih =>
    simp only [List.map_cons, List.findSome?_cons, Region.byte?_overlay]
    cases hr : r.byte? a with
    | none => simpa using ih
    | some b => simp

end Memory

/-- The `width` least significant base-256 digits of `value`, the least significant first. -/
def littleEndian : Nat → Nat → List UInt8
  | 0, _ => []
  | width + 1, value => UInt8.ofNat value :: littleEndian width (value / 256)

/-- The number that base-256 digits spell, the least significant first. -/
def ofLittleEndian : List UInt8 → Nat
  | [] => 0
  | b :: rest => b.toNat + 256 * ofLittleEndian rest

@[simp]
theorem length_littleEndian (width value : Nat)
    : (littleEndian width value).length = width := by
  induction width generalizing value with
  | zero => rfl
  | succ width ih => simp [littleEndian, ih]

theorem ofLittleEndian_littleEndian (width value : Nat)
    : ofLittleEndian (littleEndian width value) = value % Nat.pow 256 width := by
  induction width generalizing value with
  | zero => simp [littleEndian, ofLittleEndian, Nat.mod_one]
  | succ width ih =>
    simp only [littleEndian, ofLittleEndian, ih]
    have hpow : Nat.pow 256 (width + 1) = 256 * Nat.pow 256 width := Nat.mul_comm _ _
    rw [hpow, Nat.mod_mul]
    simp

end NativeCall
