import NativeCall.Proofs.Decoding

/-!
This module contains the storing of bytes and numbers through views: which accesses are refused, and
which bytes are there afterwards.
-/

namespace NativeCall

/-- The memory `after` has the bytes `data` from `base` on, as far as there is memory, and is as
`before` otherwise. -/
def Memory.Stored (before : Memory) (base : Nat) (data : List UInt8) (after : Memory) : Prop :=
  ∀ a, after.byte? a =
    (before.byte? a).map fun old => if base ≤ a then (data[a - base]?).getD old else old

namespace Memory

theorem stored_write (m : Memory) (base : Nat) (data : List UInt8)
    : m.Stored base data (m.write base data) := by
  exact m.byte?_write base data

theorem stored_nil (m : Memory) (base : Nat) : m.Stored base [] m := by
  intro a
  simp

theorem Stored.append {m m' m'' : Memory} {base : Nat} {data more : List UInt8}
    (h : m.Stored base data m') (h' : m'.Stored (base + data.length) more m'')
    : m.Stored base (data ++ more) m'' := by
  intro a
  rw [h' a, h a, Option.map_map]
  congr 1
  funext old
  dsimp only [Function.comp_apply]
  by_cases hbase : base ≤ a
  . by_cases hmore : base + data.length ≤ a
    . have hnone : data[a - base]? = none := List.getElem?_eq_none (by omega)
      rw [if_pos hmore, if_pos hbase, if_pos hbase, hnone, Option.getD_none,
        List.getElem?_append_right (by omega), Nat.sub_sub]
    . rw [if_neg hmore, if_pos hbase, if_pos hbase, List.getElem?_append_left (by omega)]
  . rw [if_neg (by omega), if_neg hbase, if_neg hbase]

end Memory

namespace View

variable {v : View}

theorem Fits.mono {size size' : Nat} (h : v.Fits size) (hle : size' ≤ size) : v.Fits size' := by
  intro length hlength
  exact Nat.le_trans hle (h length hlength)

theorem check_of_fits {offset size : UInt64} (hend : offset.toNat + size.toNat < UInt64.size)
    (h : v.Fits (offset.toNat + size.toNat)) : v.check offset size = .ok () := by
  unfold check
  rw [if_neg (by omega)]
  split
  . next length hlength => rw [if_neg (Nat.not_lt.mpr (h length hlength))]
  . rfl

theorem check_of_short {size length : UInt64} (hlength : v.length = some length)
    (h : length.toNat < size.toNat) : v.check 0 size = .error (.outOfBounds size length) := by
  have hsize := size.toNat_lt
  unfold check
  rw [UInt64.toNat_zero, Nat.zero_add, if_neg (by simpa [UInt64.size] using hsize), hlength]
  dsimp only
  rw [if_pos h, UInt64.ofNat_toNat]

theorem address_of_lt {offset : UInt64} (h : v.base.toNat + offset.toNat < UInt64.size)
    : v.address offset = v.base.toNat + offset.toNat := by
  unfold address
  rw [UInt64.toNat_add]
  exact Nat.mod_eq_of_lt h

theorem fill_of_fits {size : UInt64} (h : v.Fits size.toNat) (byte : UInt8) (m : Memory)
    : v.fill byte size m = .ok (m.write v.base.toNat (List.replicate size.toNat byte)) := by
  have hcheck : v.check 0 size = .ok () := by
    apply check_of_fits
    . simpa [UInt64.size] using size.toNat_lt
    . simpa using h
  unfold fill address
  rw [hcheck, UInt64.add_zero]
  rfl

theorem fill_of_short {size length : UInt64} (hlength : v.length = some length)
    (h : length.toNat < size.toNat) (byte : UInt8) (m : Memory)
    : v.fill byte size m = .error (.outOfBounds size length) := by
  unfold fill
  rw [check_of_short hlength h]
  rfl

theorem writeUInt_of_fits {offset width : UInt64} (hwidth : isWidth width)
    (hend : offset.toNat + width.toNat < UInt64.size)
    (h : v.Fits (offset.toNat + width.toNat)) (value : UInt64) (m : Memory)
    : v.writeUInt offset width value m =
        .ok (m.write (v.address offset) (littleEndian width.toNat value.toNat)) := by
  unfold writeUInt
  rw [check_of_fits hend h]
  show (if isWidth width then _ else _) = _
  rw [if_pos hwidth]
  rfl

theorem toNat_pos_of_isWidth {width : UInt64} (h : isWidth width) : 0 < width.toNat := by
  unfold isWidth at h
  simp only [Bool.or_eq_true, beq_iff_eq] at h
  rcases h with ((rfl | rfl) | rfl) | rfl <;> decide

theorem writeAll_of_fits {width : UInt64} (hwidth : isWidth width) {n : UInt64}
    {ids : List UInt64} (hend : (n.toNat + ids.length) * width.toNat < UInt64.size)
    (h : v.Fits ((n.toNat + ids.length) * width.toNat)) (m : Memory)
    : ∃ m', v.writeAll width n ids m = .ok m' ∧
        (v.base.toNat + (n.toNat + ids.length) * width.toNat ≤ UInt64.size →
          m.Stored (v.base.toNat + n.toNat * width.toNat)
            (ids.flatMap fun id => littleEndian width.toNat id.toNat) m') := by
  have hpos := toNat_pos_of_isWidth hwidth
  induction ids generalizing n m with
  | nil => exact ⟨m, rfl, fun _ => m.stored_nil _⟩
  | cons id rest ih =>
    -- The first number ends where the others start, which is not behind the end of them all.
    have hcount : n.toNat + (id :: rest).length = n.toNat + 1 + rest.length := by
      rw [List.length_cons]
      omega
    rw [hcount] at hend h ⊢
    have hfirst : (n.toNat + 1) * width.toNat ≤ (n.toNat + 1 + rest.length) * width.toNat := by
      exact Nat.mul_le_mul_right _ (Nat.le_add_right _ _)
    have hsucc : (n.toNat + 1) * width.toNat = n.toNat * width.toNat + width.toNat := by
      exact Nat.succ_mul _ _
    have hoffset : (n * width).toNat = n.toNat * width.toNat := by
      rw [UInt64.toNat_mul]
      exact Nat.mod_eq_of_lt (by simp only [UInt64.size] at hend; omega)
    have hnext : (n + 1).toNat = n.toNat + 1 := by
      have := Nat.le_mul_of_pos_right (n.toNat + 1) hpos
      rw [UInt64.toNat_add]
      exact Nat.mod_eq_of_lt (by simp only [UInt64.size, UInt64.toNat_one] at hend ⊢; omega)
    have hwrite : v.writeUInt (n * width) width id m =
        .ok (m.write (v.address (n * width)) (littleEndian width.toNat id.toNat)) := by
      exact writeUInt_of_fits hwidth (by omega) (h.mono (by omega)) id m
    have ⟨m', hrest, hstored⟩ := ih (n := n + 1) (by rwa [hnext]) (by rwa [hnext])
      (m.write (v.address (n * width)) (littleEndian width.toNat id.toNat))
    refine ⟨m', ?_, ?_⟩
    . unfold writeAll
      rw [hwrite]
      exact hrest
    . intro hspace
      rw [hnext, hsucc, ← Nat.add_assoc] at hstored
      have haddress : v.address (n * width) = v.base.toNat + n.toNat * width.toNat := by
        rw [address_of_lt (by omega), hoffset]
      rw [haddress] at hstored
      have hhead := m.stored_write (v.base.toNat + n.toNat * width.toNat)
        (littleEndian width.toNat id.toNat)
      apply hhead.append
      rw [length_littleEndian]
      exact hstored hspace

theorem toNat_ofNat_mul {count : Nat} {width : UInt64} (h : count * width.toNat < UInt64.size)
    : (UInt64.ofNat count * width).toNat = count * width.toNat := by
  rw [UInt64.toNat_mul, UInt64.toNat_ofNat', Nat.mod_mul_mod]
  exact Nat.mod_eq_of_lt h

section

variable {width limit : UInt64} {ids chosen : List UInt64}
  (hchosen : ids.take limit.toNat = chosen) (hend : chosen.length * width.toNat < UInt64.size)
include hchosen hend

theorem writeIds_of_fits (hwidth : isWidth width) (h : v.Fits (chosen.length * width.toNat))
    (m : Memory)
    : ∃ m', v.writeIds width ids limit m = .ok (chosen.length, m') ∧
        (v.base.toNat + chosen.length * width.toNat ≤ UInt64.size →
          m.Stored v.base.toNat (chosen.flatMap fun id => littleEndian width.toNat id.toNat)
            m') := by
  have hcheck : v.check 0 (UInt64.ofNat chosen.length * width) = .ok () := by
    apply check_of_fits <;> rw [toNat_ofNat_mul hend] <;> simpa
  have hplaces : (0 : UInt64).toNat + chosen.length = chosen.length := by
    rw [UInt64.toNat_zero, Nat.zero_add]
  rw [← hplaces] at hend h
  have ⟨m', hall, hstored⟩ := writeAll_of_fits hwidth hend h m
  refine ⟨m', ?_, by simpa using hstored⟩
  unfold writeIds
  dsimp only
  rw [hchosen, hcheck, hall]
  rfl

theorem writeIds_of_short {length : UInt64} (hlength : v.length = some length)
    (h : length.toNat < chosen.length * width.toNat) (m : Memory)
    : v.writeIds width ids limit m =
        .error (.outOfBounds (UInt64.ofNat (chosen.length * width.toNat)) length) := by
  have hshort : length.toNat < (UInt64.ofNat chosen.length * width).toNat := by
    rwa [toNat_ofNat_mul hend]
  unfold writeIds
  dsimp only
  rw [hchosen, check_of_short hlength hshort, UInt64.ofNat_mul, UInt64.ofNat_toNat]
  rfl

end

end View

end NativeCall
