import Mathlib.Data.Nat.Digits.Defs
import NativeCall.Proofs.Storing

/-!
This module contains regions whose bytes are known: what a part of one reads as, and which bytes it has
once a part has been stored, be it one number or a series of them.
-/

namespace NativeCall

/-- The number that base-256 digits spell, the least significant first. -/
def numberOf (bytes : List UInt8) : Nat :=
  Nat.ofDigits 256 (bytes.map UInt8.toNat)

/-- The `width` least significant base-256 digits of a number, the least significant first. -/
def digitsOf (width value : Nat) : List UInt8 :=
  (List.range width).map fun place => UInt8.ofNat (value / 256 ^ place)

/-- The digits of numbers of `width` bytes each, one number after the other. -/
def seriesOf (width : Nat) (numbers : List UInt64) : List UInt8 :=
  numbers.flatMap fun number => digitsOf width number.toNat

/-- The bytes with `data` in the place of as many of them from `offset` on. -/
def overlaid (bytes : List UInt8) (offset : Nat) (data : List UInt8) : List UInt8 :=
  bytes.take offset ++ data ++ bytes.drop (offset + data.length)

theorem ofLittleEndian_eq_numberOf (bytes : List UInt8) : ofLittleEndian bytes = numberOf bytes := by
  unfold numberOf
  induction bytes with
  | nil => rfl
  | cons b bytes ih =>
    rw [ofLittleEndian, ih, List.map_cons, Nat.ofDigits_cons]

theorem littleEndian_eq_digitsOf (width value : Nat)
    : littleEndian width value = digitsOf width value := by
  unfold digitsOf
  induction width generalizing value with
  | zero => rfl
  | succ width ih =>
    rw [littleEndian, ih, List.range_succ_eq_map, List.map_cons, List.map_map, Nat.pow_zero,
      Nat.div_one]
    congr 1
    apply List.map_congr_left
    intro place _
    dsimp only [Function.comp_apply]
    rw [Nat.div_div_eq_div_mul, Nat.pow_succ']

@[simp]
theorem length_digitsOf (width value : Nat) : (digitsOf width value).length = width := by
  unfold digitsOf
  rw [List.length_map, List.length_range]

theorem numberOf_digitsOf (width value : Nat)
    : numberOf (digitsOf width value) = value % 256 ^ width := by
  rw [← ofLittleEndian_eq_numberOf, ← littleEndian_eq_digitsOf]
  exact ofLittleEndian_littleEndian width value

section

variable {width : Nat} {numbers : List UInt64}

theorem flatMap_littleEndian_eq_seriesOf
    : (numbers.flatMap fun number => littleEndian width number.toNat) = seriesOf width numbers := by
  unfold seriesOf
  simp only [littleEndian_eq_digitsOf]

@[simp]
theorem length_seriesOf : (seriesOf width numbers).length = numbers.length * width := by
  unfold seriesOf
  induction numbers with
  | nil => rw [List.flatMap_nil, List.length_nil, List.length_nil, Nat.zero_mul]
  | cons number rest ih =>
    rw [List.flatMap_cons, List.length_append, length_digitsOf, ih, List.length_cons, Nat.succ_mul,
      Nat.add_comm]

theorem place_le (width : Nat) {place : Nat} (h : place < numbers.length)
    : place * width + width ≤ numbers.length * width := by
  rw [← Nat.succ_mul]
  exact Nat.mul_le_mul_right _ h

theorem take_drop_seriesOf {place : Nat} {number : UInt64} (h : numbers[place]? = some number)
    : ((seriesOf width numbers).drop (place * width)).take width = digitsOf width number.toNat := by
  unfold seriesOf
  induction numbers generalizing place with
  | nil => cases h
  | cons first rest ih =>
    have hfirst := length_digitsOf width first.toNat
    rw [List.flatMap_cons]
    cases place with
    | zero =>
      cases h
      rw [Nat.zero_mul, List.drop_zero, List.take_left' hfirst]
    | succ place =>
      rw [List.getElem?_cons_succ] at h
      rw [Nat.succ_mul, Nat.add_comm, ← List.drop_drop, List.drop_left' hfirst, ih h]

end

theorem numberOf_lt (bytes : List UInt8) : numberOf bytes < 256 ^ bytes.length := by
  unfold numberOf
  rw [← List.length_map UInt8.toNat]
  apply Nat.ofDigits_lt_base_pow_length (by decide)
  intro digit hdigit
  have ⟨b, _, hb⟩ := List.mem_map.mp hdigit
  exact hb ▸ b.toNat_lt

section

variable {bytes data : List UInt8} {offset : Nat} (hend : offset + data.length ≤ bytes.length)
include hend

theorem length_overlaid : (overlaid bytes offset data).length = bytes.length := by
  unfold overlaid
  simp only [List.length_append, List.length_take, List.length_drop]
  omega

theorem getElem?_overlaid (i : Nat)
    : (overlaid bytes offset data)[i]? =
        if offset ≤ i ∧ i < offset + data.length then data[i - offset]? else bytes[i]? := by
  have htake : (bytes.take offset).length = offset := by
    rw [List.length_take]
    omega
  unfold overlaid
  rw [List.append_assoc]
  by_cases hfront : i < offset
  . rw [List.getElem?_append_left (by omega), if_neg (by omega), List.getElem?_take_of_lt hfront]
  . rw [List.getElem?_append_right (by omega), htake]
    by_cases hback : i < offset + data.length
    . rw [List.getElem?_append_left (by omega), if_pos (by omega)]
    . rw [List.getElem?_append_right (by omega), if_neg (by omega), List.getElem?_drop]
      congr 1
      omega

theorem take_drop_overlaid_of_inside {start count : Nat} (h : start + count ≤ data.length)
    : ((overlaid bytes offset data).drop (offset + start)).take count =
        (data.drop start).take count := by
  apply List.ext_getElem?
  intro i
  rw [List.getElem?_take, List.getElem?_take, List.getElem?_drop, List.getElem?_drop,
    getElem?_overlaid hend]
  split
  . rw [if_pos (by omega)]
    congr 1
    omega
  . rfl

theorem take_drop_overlaid_self
    : ((overlaid bytes offset data).drop offset).take data.length = data := by
  have hpart := take_drop_overlaid_of_inside hend (Nat.le_of_eq (Nat.zero_add data.length))
  rwa [Nat.add_zero, List.drop_zero, List.take_length] at hpart

theorem take_drop_overlaid_of_disjoint {start count : Nat}
    (h : start + count ≤ offset ∨ offset + data.length ≤ start)
    : ((overlaid bytes offset data).drop start).take count = (bytes.drop start).take count := by
  apply List.ext_getElem?
  intro i
  rw [List.getElem?_take, List.getElem?_take, List.getElem?_drop, List.getElem?_drop,
    getElem?_overlaid hend]
  split
  . rw [if_neg (by omega)]
  . rfl

end

theorem take_drop_overlaid_seriesOf {bytes : List UInt8} {numbers : List UInt64} {width place : Nat}
    {number : UInt64} (hend : numbers.length * width ≤ bytes.length)
    (h : numbers[place]? = some number)
    : ((overlaid bytes 0 (seriesOf width numbers)).drop (place * width)).take width =
        digitsOf width number.toNat := by
  have ⟨hplace, _⟩ := List.getElem?_eq_some_iff.mp h
  have hle := place_le width hplace
  rw [← length_seriesOf] at hend hle
  rw [← Nat.zero_add (seriesOf width numbers).length] at hend
  have hpart := take_drop_overlaid_of_inside hend hle
  rw [Nat.zero_add] at hpart
  rw [hpart, take_drop_seriesOf h]

namespace Memory

/-- The bytes stand in the memory one after the other, the first at `base`. -/
def Holds (m : Memory) (base : Nat) (bytes : List UInt8) : Prop :=
  ∀ i < bytes.length, m.byte? (base + i) = bytes[i]?

instance (m : Memory) (base : Nat) (bytes : List UInt8) : Decidable (m.Holds base bytes) :=
  inferInstanceAs (Decidable (∀ i < bytes.length, m.byte? (base + i) = bytes[i]?))

variable {m after : Memory} {base offset : Nat} {bytes data : List UInt8}

theorem Holds.read {count : Nat} (h : m.Holds base bytes) (hend : offset + count ≤ bytes.length)
    : m.read (base + offset) count = (bytes.drop offset).take count := by
  apply List.ext_getElem?
  intro i
  unfold Memory.read
  rw [List.getElem?_map, List.getElem?_take, List.getElem?_drop]
  split
  . next hi =>
    have hbyte : m.byte? (base + (offset + i)) = bytes[offset + i]? := by
      exact h (offset + i) (by omega)
    have hsome : bytes[offset + i]? = some bytes[offset + i] := by
      exact List.getElem?_eq_getElem (by omega)
    rw [List.getElem?_range' hi, Option.map_some, Nat.one_mul]
    unfold byte
    rw [Nat.add_assoc, hbyte, hsome, Option.getD_some]
  . next hi =>
    rw [List.getElem?_eq_none (by simpa using hi), Option.map_none]

theorem Stored.byte?_of_outside (h : m.Stored base data after) {a : Nat}
    (ha : a < base ∨ base + data.length ≤ a) : after.byte? a = m.byte? a := by
  have hkeep : ∀ old, (if base ≤ a then (data[a - base]?).getD old else old) = old := by
    intro old
    split
    . rw [List.getElem?_eq_none (by omega), Option.getD_none]
    . rfl
  rw [h a]
  simp only [hkeep, Option.map_id']

theorem Holds.stored (h : m.Holds base bytes) (hstored : m.Stored (base + offset) data after)
    (hend : offset + data.length ≤ bytes.length)
    : after.Holds base (overlaid bytes offset data) := by
  intro i hi
  rw [length_overlaid hend] at hi
  rw [getElem?_overlaid hend]
  split
  . next hrange =>
    have hdata : data[base + i - (base + offset)]? = some data[i - offset] := by
      rw [Nat.add_sub_add_left]
      exact List.getElem?_eq_getElem (by omega)
    rw [hstored, h i hi, List.getElem?_eq_getElem hi, Option.map_some, if_pos (by omega), hdata,
      Option.getD_some, List.getElem?_eq_getElem (by omega)]
  . rw [hstored.byte?_of_outside (by omega), h i hi]

end Memory

end NativeCall
