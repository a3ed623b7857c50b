import NativeCall.Memory.Buffer
import NativeCall.Proofs.Integers

/-!
This module contains the accesses to buffers: what a holder reads and stores, what else shows the same
bytes, and what becomes of an access whose end is no address.
-/

namespace NativeCall.Buffer

/-- The buffer is in use: its bytes stand in the memory, before the last address. -/
structure Owns (b : Buffer) (m : Memory) (bytes : List UInt8) : Prop where
  base_ne_zero : b.base ≠ 0
  size : b.size.toNat = bytes.length
  inside : b.base.toNat + bytes.length ≤ UInt64.size
  holds : m.Holds b.base.toNat bytes

theorem owns_ofBytes {m : Memory} {bytes : Array UInt8} (hbase : 0 < m.frontier)
    (hend : m.frontier + bytes.size < UInt64.size)
    : (ofBytes bytes m).1.Owns (ofBytes bytes m).2 bytes.toList := by
  have hfrontier : (UInt64.ofNat m.frontier).toNat = m.frontier := by
    exact UInt64.toNat_ofNat_of_lt' (by omega)
  have hsize : (UInt64.ofNat bytes.size).toNat = bytes.size := by
    exact UInt64.toNat_ofNat_of_lt' (by omega)
  refine ⟨?_, ?_, ?_, ?_⟩
  . intro hzero
    have hnat : m.frontier = 0 := by
      exact hfrontier.symm.trans (congrArg UInt64.toNat hzero)
    omega
  . exact hsize.trans Array.length_toList.symm
  . show (UInt64.ofNat m.frontier).toNat + bytes.toList.length ≤ UInt64.size
    rw [hfrontier, Array.length_toList]
    exact Nat.le_of_lt hend
  . intro i hi
    show (m.allocate bytes).2.byte? ((UInt64.ofNat m.frontier).toNat + i) = bytes.toList[i]?
    rw [Array.length_toList] at hi
    unfold Memory.allocate Memory.byte? Region.byte?
    rw [hfrontier, List.findSome?_cons, if_pos (Nat.le_add_right _ _), Nat.add_sub_cancel_left,
      Array.getElem?_toList, Array.getElem?_eq_getElem hi]

variable {b : Buffer} {m : Memory} {bytes data : List UInt8} {offset width : UInt64}
  {overflow : Overflow}

theorem access_eq (past : BufferFault)
    : b.access overflow past offset width =
        if overflow = .stops ∧ UInt64.size ≤ offset.toNat + width.toNat then .error .overflow
        else if (offset.toNat + width.toNat) % UInt64.size ≤ b.size.toNat then
          .ok ((b.base.toNat + offset.toNat) % UInt64.size)
        else .error past := by
  have hstop : (offset + width ≤ b.size) ↔
      (offset.toNat + width.toNat) % UInt64.size ≤ b.size.toNat := by
    rw [UInt64.le_iff_toNat_le, UInt64.toNat_add]
  have haddress : (b.base + offset).toNat = (b.base.toNat + offset.toNat) % UInt64.size := by
    exact UInt64.toNat_add b.base offset
  unfold access Overflow.add?
  by_cases hover : overflow = .stops ∧ UInt64.size ≤ offset.toNat + width.toNat
  . rw [if_pos hover, if_pos hover]
  . rw [if_neg hover, if_neg hover, haddress]
    simp only [hstop]

theorem read_eq
    : b.read overflow offset width m =
        (b.access overflow .readPastEnd offset width).map fun address =>
          m.read address width.toNat := by
  rfl

theorem write_eq (hdata : data.length = width.toNat)
    : b.write overflow offset data m =
        (b.access overflow .writePastEnd offset width).map fun address =>
          m.write address data := by
  unfold write
  rw [hdata, UInt64.ofNat_toNat]
  rfl

namespace Owns

variable (h : b.Owns m bytes)
include h

theorem toList_eq : b.toList m = bytes := by
  unfold toList
  have hread := h.holds.read (Nat.le_of_eq (Nat.zero_add bytes.length))
  rwa [Nat.add_zero, List.drop_zero, List.take_length, ← h.size] at hread

theorem exists_view : ∃ view, View.acquire b.pointer = .ok view ∧ view.Shows m bytes := by
  refine ⟨⟨b.base, some b.size, h.base_ne_zero⟩, ?_, ?_, h.inside, h.holds⟩
  . unfold View.acquire pointer
    rw [dif_neg h.base_ne_zero]
  . rw [Option.map_some, h.size]

theorem length_lt : bytes.length < UInt64.size := by
  exact h.size ▸ b.size.toNat_lt

section

variable (hin : offset.toNat + width.toNat ≤ bytes.length)
include hin

theorem access_of_inside (past : BufferFault)
    : b.access overflow past offset width =
        .ok ((b.base.toNat + offset.toNat) % UInt64.size) := by
  have hend := h.length_lt
  rw [access_eq, if_neg (by omega), h.size, Nat.mod_eq_of_lt (by omega), if_pos hin]

/-- An access to nothing has no address of its own: it may be right behind the last one. -/
theorem address_of_inside (hpos : 0 < width.toNat)
    : (b.base.toNat + offset.toNat) % UInt64.size = b.base.toNat + offset.toNat := by
  have hregion := h.inside
  exact Nat.mod_eq_of_lt (by omega)

theorem read_of_inside
    : b.read overflow offset width m = .ok ((bytes.drop offset.toNat).take width.toNat) := by
  rw [read_eq, h.access_of_inside hin]
  show Except.ok (m.read _ width.toNat) = _
  by_cases hpos : 0 < width.toNat
  . rw [h.address_of_inside hin hpos, h.holds.read hin]
  . rw [Nat.eq_zero_of_not_pos hpos, List.take_zero]
    rfl

variable (overflow) in
theorem write_of_inside (hdata : data.length = width.toNat)
    : ∃ after, b.write overflow offset data m = .ok after ∧
        b.Owns after (overlaid bytes offset.toNat data) ∧
        m.Stored (b.base.toNat + offset.toNat) data after := by
  have hend : offset.toNat + data.length ≤ bytes.length := by
    rwa [hdata]
  have hstored : m.Stored (b.base.toNat + offset.toNat) data
      (m.write ((b.base.toNat + offset.toNat) % UInt64.size) data) := by
    by_cases hpos : 0 < width.toNat
    . rw [h.address_of_inside hin hpos]
      exact m.stored_write _ data
    . have hnil : data = [] := by
        exact List.eq_nil_of_length_eq_zero (by omega)
      subst hnil
      intro a
      rw [m.byte?_write]
      simp
  have hwrite : b.write overflow offset data m =
      .ok (m.write ((b.base.toNat + offset.toNat) % UInt64.size) data) := by
    rw [write_eq hdata, h.access_of_inside hin]
    rfl
  refine ⟨_, hwrite, ⟨h.base_ne_zero, ?_, ?_, h.holds.stored hstored hend⟩, hstored⟩
  . rw [h.size, length_overlaid hend]
  . rw [length_overlaid hend]
    exact h.inside

end

end Owns

/-- An access is made where it ends inside of the buffer, and refused otherwise in every build that stops
at an overflow; in one that wraps, an access whose end is no address may go in front of the buffer. -/
theorem accesses_bounded (h : b.Owns m bytes) (overflow : Overflow) (offset : UInt64)
    (hdata : data.length = width.toNat)
    : let stop := offset.toNat + width.toNat
      let front := (b.base.toNat + offset.toNat) % UInt64.size
      (bytes.length < stop % UInt64.size → overflow = .wraps ∨ stop < UInt64.size →
        b.read overflow offset width m = .error .readPastEnd ∧
          b.write overflow offset data m = .error .writePastEnd) ∧
      (UInt64.size ≤ stop → overflow = .stops →
        b.read overflow offset width m = .error .overflow ∧
          b.write overflow offset data m = .error .overflow) ∧
      (stop ≤ bytes.length →
        b.read overflow offset width m = .ok ((bytes.drop offset.toNat).take width.toNat) ∧
        ∃ after, b.write overflow offset data m = .ok after ∧
          b.Owns after (overlaid bytes offset.toNat data) ∧
          (∀ a, a < b.base.toNat + offset.toNat ∨ b.base.toNat + stop ≤ a →
            after.byte? a = m.byte? a) ∧
          b.read overflow offset width after = .ok data ∧
          b.toList after = overlaid bytes offset.toNat data ∧
          ∃ view, View.acquire b.pointer = .ok view ∧
            view.Shows after (overlaid bytes offset.toNat data)) ∧
      (UInt64.size ≤ stop → stop % UInt64.size ≤ bytes.length → overflow = .wraps →
        b.read overflow offset width m = .ok (m.read front width.toNat) ∧
          b.write overflow offset data m = .ok (m.write front data)) := by
  intro stop front
  rw [read_eq, write_eq hdata]
  refine ⟨?behind, ?stopped, ?inside, ?around⟩
  case behind =>
    intro hout hbuild
    have hover : ¬ (overflow = .stops ∧ UInt64.size ≤ stop) := by
      rintro ⟨rfl, hle⟩
      exact hbuild.elim nofun (Nat.not_lt.mpr hle)
    have haccess (past : BufferFault) : b.access overflow past offset width = .error past := by
      rw [access_eq, if_neg hover, h.size, if_neg (Nat.not_le.mpr hout)]
    rw [haccess, haccess]
    exact ⟨rfl, rfl⟩
  case stopped =>
    intro hover hstops
    have haccess (past : BufferFault) : b.access overflow past offset width = .error .overflow := by
      rw [access_eq, if_pos ⟨hstops, hover⟩]
    rw [haccess, haccess]
    exact ⟨rfl, rfl⟩
  case inside =>
    intro hin
    have hend : offset.toNat + data.length ≤ bytes.length := by
      rwa [hdata]
    have ⟨after, hwrite, howns, hstored⟩ := h.write_of_inside overflow hin hdata
    rw [← read_eq, ← write_eq hdata]
    refine ⟨h.read_of_inside hin, after, hwrite, howns, ?_, ?_, howns.toList_eq, howns.exists_view⟩
    . intro a ha
      exact hstored.byte?_of_outside (by omega)
    . rw [← length_overlaid hend] at hin
      rw [howns.read_of_inside hin, ← hdata, take_drop_overlaid_self hend]
  case around =>
    intro _ hfits hwraps
    have haccess (past : BufferFault) : b.access overflow past offset width = .ok front := by
      rw [access_eq, if_neg (by rw [hwraps]; exact nofun), h.size, if_pos hfits]
    rw [haccess, haccess]
    exact ⟨rfl, rfl⟩

theorem accesses_bounded_fresh
    : let allocated := ofBytes #[1, 2, 3, 4] .fresh
      let b := allocated.1
      b.Owns allocated.2 [1, 2, 3, 4] ∧ [8, 9].length = (2 : UInt64).toNat ∧
        b.read .wraps 3 2 allocated.2 = .error .readPastEnd ∧
        b.write .stops 0xFFFFFFFFFFFFFFFF [8, 9] allocated.2 = .error .overflow ∧
        ∃ after, b.write .wraps 1 [8, 9] allocated.2 = .ok after ∧ b.toList after = [1, 8, 9, 4] ∧
          b.read .wraps 1 2 after = .ok [8, 9] := by
  intro allocated b
  have howns : b.Owns allocated.2 [1, 2, 3, 4] := by
    exact owns_ofBytes (by decide) (by decide)
  have hdata : ([8, 9] : List UInt8).length = (2 : UInt64).toNat := by decide
  have ⟨hbehind, _⟩ := accesses_bounded howns .wraps 3 hdata
  have ⟨_, hstopped, _⟩ := accesses_bounded howns .stops 0xFFFFFFFFFFFFFFFF hdata
  have ⟨_, _, hinside, _⟩ := accesses_bounded howns .wraps 1 hdata
  have ⟨hread, _⟩ := hbehind (by decide) (Or.inl rfl)
  have ⟨_, hover⟩ := hstopped (by decide) rfl
  have ⟨_, after, hwrite, _, _, hback, hlist, _⟩ := hinside (by decide)
  exact ⟨howns, hdata, hread, hover, after, hwrite, hlist, hback⟩

/-- One byte in front of a buffer of four, which some other region has: in a build that wraps, an access
of two bytes that ends far behind the buffer reads that byte, and a store changes it. -/
theorem access_in_front_of_buffer
    : let b : Buffer := ⟨32, 4⟩
      let m : Memory := ⟨[⟨32, #[1, 2, 3, 4]⟩, ⟨30, #[8, 9]⟩], 64⟩
      let offset : UInt64 := 0xFFFFFFFFFFFFFFFF
      b.Owns m [1, 2, 3, 4] ∧ b.size.toNat < offset.toNat + 2 ∧
        b.read .wraps offset 2 m = .ok [9, 1] ∧
        ∃ after, b.write .wraps offset [5, 6] m = .ok after ∧ after.byte? 31 = some 5 ∧
          b.toList after = [6, 2, 3, 4] := by
  intro b m offset
  have haccess (past : BufferFault) : b.access .wraps past offset 2 = .ok 31 := by
    rw [access_eq, if_neg (by decide), if_pos (by decide)]
    exact congrArg Except.ok (by decide)
  have hread : b.read .wraps offset 2 m = .ok (m.read 31 2) := by
    rw [read_eq, haccess]
    rfl
  have hwrite : b.write .wraps offset [5, 6] m = .ok (m.write 31 [5, 6]) := by
    have hlength : ([5, 6] : List UInt8).length = (2 : UInt64).toNat := rfl
    rw [write_eq hlength, haccess]
    rfl
  refine ⟨⟨by decide, by decide, by decide, by decide⟩, by decide, ?_, ?_⟩
  . exact hread.trans (congrArg Except.ok (by decide))
  . exact ⟨_, hwrite, by decide, by decide⟩

end NativeCall.Buffer
