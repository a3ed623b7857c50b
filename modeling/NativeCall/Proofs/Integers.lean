import NativeCall.Proofs.Contents

/-!
This module contains the integers in a region seen through a view: which of them can be stored and
read, what is read after a store, and why an access is refused.
-/

namespace NativeCall.View

/-- The view is one of a region, no part of which lies behind the last address, and these are the bytes
of the region. -/
structure Shows (v : View) (m : Memory) (bytes : List UInt8) : Prop where
  length : v.length.map UInt64.toNat = some bytes.length
  inside : v.base.toNat + bytes.length ≤ UInt64.size
  holds : m.Holds v.base.toNat bytes

/-- The widths of integers. -/
def Whole (width : UInt64) : Prop :=
  width = 1 ∨ width = 2 ∨ width = 4 ∨ width = 8

instance (width : UInt64) : Decidable (Whole width) :=
  inferInstanceAs (Decidable (width = 1 ∨ width = 2 ∨ width = 4 ∨ width = 8))

theorem isWidth_iff_whole {width : UInt64} : isWidth width ↔ Whole width := by
  unfold isWidth Whole
  simp only [Bool.or_eq_true, beq_iff_eq, or_assoc]

theorem Whole.toNat_le {width : UInt64} (h : Whole width) : width.toNat ≤ 8 := by
  rcases h with rfl | rfl | rfl | rfl <;> decide

variable {v : View} {m : Memory} {bytes : List UInt8} {offset width : UInt64}

namespace Shows

variable (h : v.Shows m bytes)
include h

theorem exists_length : ∃ length, v.length = some length ∧ length.toNat = bytes.length := by
  exact Option.map_eq_some_iff.mp h.length

theorem length_lt : bytes.length < UInt64.size := by
  have ⟨length, _, hbytes⟩ := h.exists_length
  exact hbytes ▸ length.toNat_lt

theorem fits {size : Nat} (hin : size ≤ bytes.length) : v.Fits size := by
  have ⟨length, hlength, hbytes⟩ := h.exists_length
  intro length' hlength'
  cases hlength.symm.trans hlength'
  omega

theorem stored {offset : Nat} {data : List UInt8} {after : Memory}
    (hstored : m.Stored (v.base.toNat + offset) data after)
    (hend : offset + data.length ≤ bytes.length) : v.Shows after (overlaid bytes offset data) := by
  have hlength := length_overlaid hend
  exact ⟨hlength ▸ h.length, hlength ▸ h.inside, h.holds.stored hstored hend⟩

theorem check_of_inside (hin : offset.toNat + width.toNat ≤ bytes.length)
    : v.check offset width = .ok () := by
  have hend := h.length_lt
  exact check_of_fits (by omega) (h.fits hin)

theorem check_of_outside (hout : bytes.length < offset.toNat + width.toNat)
    : v.check offset width =
        .error (.outOfBounds (UInt64.ofNat (min (offset.toNat + width.toNat) (UInt64.size - 1)))
          (UInt64.ofNat bytes.length)) := by
  have ⟨length, hlength, hbytes⟩ := h.exists_length
  have hofNat : UInt64.ofNat bytes.length = length := by
    rw [← hbytes, UInt64.ofNat_toNat]
  unfold check
  dsimp only
  rw [hlength, hofNat]
  split
  . next hend =>
    rw [Nat.min_eq_right (by omega)]
    rfl
  . next hend =>
    rw [Nat.min_eq_left (by omega)]
    dsimp only
    rw [if_pos (by omega)]

theorem address_of_inside (hin : offset.toNat + width.toNat ≤ bytes.length) (hwidth : Whole width)
    : v.address offset = v.base.toNat + offset.toNat := by
  have hpos := toNat_pos_of_isWidth (isWidth_iff_whole.mpr hwidth)
  have hregion := h.inside
  exact address_of_lt (by omega)

theorem readUInt_of_inside (hin : offset.toNat + width.toNat ≤ bytes.length) (hwidth : Whole width)
    : ∃ n, v.readUInt offset width m = .ok n ∧
        n.toNat = numberOf ((bytes.drop offset.toNat).take width.toNat) := by
  have hread : m.read (v.address offset) width.toNat =
      (bytes.drop offset.toNat).take width.toNat := by
    rw [h.address_of_inside hin hwidth]
    exact h.holds.read hin
  have hlt : numberOf ((bytes.drop offset.toNat).take width.toNat) < UInt64.size := by
    apply Nat.lt_of_lt_of_le (numberOf_lt _)
    apply Nat.le_trans (Nat.pow_le_pow_right (by decide) (List.length_take_le _ _))
    exact Nat.pow_le_pow_right (Nat.succ_pos 255) hwidth.toNat_le
  refine ⟨UInt64.ofNat (numberOf ((bytes.drop offset.toNat).take width.toNat)), ?_, ?_⟩
  . unfold readUInt
    rw [h.check_of_inside hin]
    show (if isWidth width then _ else _) = _
    rw [if_pos (isWidth_iff_whole.mpr hwidth), hread, ofLittleEndian_eq_numberOf]
    rfl
  . exact UInt64.toNat_ofNat_of_lt' hlt

theorem writeUInt_of_inside (hin : offset.toNat + width.toNat ≤ bytes.length) (hwidth : Whole width)
    (value : UInt64)
    : ∃ after, v.writeUInt offset width value m = .ok after ∧
        v.Shows after (overlaid bytes offset.toNat (digitsOf width.toNat value.toNat)) ∧
        m.Stored (v.base.toNat + offset.toNat) (digitsOf width.toNat value.toNat) after := by
  have hend : offset.toNat + (digitsOf width.toNat value.toNat).length ≤ bytes.length := by
    rwa [length_digitsOf]
  have hstored := m.stored_write (v.base.toNat + offset.toNat) (digitsOf width.toNat value.toNat)
  refine ⟨_, ?_, h.stored hstored hend, hstored⟩
  unfold writeUInt
  rw [h.check_of_inside hin]
  show (if isWidth width then _ else _) = _
  rw [if_pos (isWidth_iff_whole.mpr hwidth), h.address_of_inside hin hwidth,
    littleEndian_eq_digitsOf]
  rfl

end Shows

theorem readUInt_of_check_error {e : MemoryFault} (h : v.check offset width = .error e)
    : v.readUInt offset width m = .error e := by
  unfold readUInt
  rw [h]
  rfl

theorem writeUInt_of_check_error {e : MemoryFault} (h : v.check offset width = .error e)
    (value : UInt64) : v.writeUInt offset width value m = .error e := by
  unfold writeUInt
  rw [h]
  rfl

theorem readUInt_of_not_whole (h : v.check offset width = .ok ()) (hwidth : ¬ Whole width)
    : v.readUInt offset width m = .error (.width width) := by
  unfold readUInt
  rw [h]
  show (if isWidth width then _ else _) = _
  rw [if_neg (mt isWidth_iff_whole.mp hwidth)]
  rfl

theorem writeUInt_of_not_whole (h : v.check offset width = .ok ()) (hwidth : ¬ Whole width)
    (value : UInt64) : v.writeUInt offset width value m = .error (.width width) := by
  unfold writeUInt
  rw [h]
  show (if isWidth width then _ else _) = _
  rw [if_neg (mt isWidth_iff_whole.mp hwidth)]
  rfl

section

variable {after : Memory} {bytes' : List UInt8} {value : UInt64}

theorem Shows.readUInt_congr (h : v.Shows m bytes) (h' : v.Shows after bytes')
    (hsame : (bytes.drop offset.toNat).take width.toNat =
      (bytes'.drop offset.toNat).take width.toNat)
    : v.readUInt offset width m = v.readUInt offset width after := by
  have hlength : bytes.length = bytes'.length := by
    exact Option.some.inj (h.length.symm.trans h'.length)
  by_cases hin : offset.toNat + width.toNat ≤ bytes.length
  . have hin' := hlength ▸ hin
    by_cases hwidth : Whole width
    . have ⟨n, hread, hn⟩ := h.readUInt_of_inside hin hwidth
      have ⟨n', hread', hn'⟩ := h'.readUInt_of_inside hin' hwidth
      rw [← hsame, ← hn] at hn'
      rw [hread, hread', UInt64.toNat_inj.mp hn']
    . rw [readUInt_of_not_whole (h.check_of_inside hin) hwidth,
        readUInt_of_not_whole (h'.check_of_inside hin') hwidth]
  . have hcheck := h.check_of_outside (Nat.not_le.mp hin)
    have hcheck' := h'.check_of_outside (Nat.not_le.mp (hlength ▸ hin))
    rw [readUInt_of_check_error hcheck, readUInt_of_check_error hcheck', hlength]

variable (hin : offset.toNat + width.toNat ≤ bytes.length)
  (hafter : v.Shows after (overlaid bytes offset.toNat (digitsOf width.toNat value.toNat)))
include hin hafter

theorem Shows.readUInt_back (hwidth : Whole width)
    : ∃ n, v.readUInt offset width after = .ok n ∧
        n.toNat = value.toNat % 2 ^ (8 * width.toNat) := by
  have hdigits := length_digitsOf width.toNat value.toNat
  have hend : offset.toNat + (digitsOf width.toNat value.toNat).length ≤ bytes.length := by
    rwa [hdigits]
  have hback := take_drop_overlaid_self hend
  rw [hdigits] at hback
  rw [← length_overlaid hend] at hin
  have ⟨n, hread, hn⟩ := hafter.readUInt_of_inside hin hwidth
  refine ⟨n, hread, ?_⟩
  rw [hn, hback, numberOf_digitsOf, Nat.pow_mul]

theorem Shows.readUInt_beside (h : v.Shows m bytes) {offset' width' : UInt64}
    (hdisjoint : offset'.toNat + width'.toNat ≤ offset.toNat ∨
      offset.toNat + width.toNat ≤ offset'.toNat)
    : v.readUInt offset' width' after = v.readUInt offset' width' m := by
  apply hafter.readUInt_congr h
  apply take_drop_overlaid_of_disjoint <;> rwa [length_digitsOf]

end

/-- An integer can be stored and read exactly where a width of integers lies inside the region. -/
theorem integers_bounded (h : v.Shows m bytes) (offset width value : UInt64)
    : let stop := offset.toNat + width.toNat
      let stored := overlaid bytes offset.toNat (digitsOf width.toNat value.toNat)
      ((∃ after, v.writeUInt offset width value m = .ok after) ↔
        Whole width ∧ stop ≤ bytes.length) ∧
      ((∃ n, v.readUInt offset width m = .ok n) ↔ Whole width ∧ stop ≤ bytes.length) ∧
      (∀ e, v.writeUInt offset width value m = .error e ∨ v.readUInt offset width m = .error e →
        (bytes.length < stop ∧
          e = .outOfBounds (UInt64.ofNat (min stop (2 ^ 64 - 1))) (UInt64.ofNat bytes.length)) ∨
        (stop ≤ bytes.length ∧ e = .width width)) ∧
      (∀ n, v.readUInt offset width m = .ok n →
        n.toNat = numberOf ((bytes.drop offset.toNat).take width.toNat)) ∧
      ∀ after, v.writeUInt offset width value m = .ok after →
        v.Shows after stored ∧
        (∀ a, a < v.base.toNat + offset.toNat ∨ v.base.toNat + stop ≤ a →
          after.byte? a = m.byte? a) ∧
        (∃ n, v.readUInt offset width after = .ok n ∧
          n.toNat = value.toNat % 2 ^ (8 * width.toNat)) ∧
        ∀ offset' width' : UInt64,
          (offset'.toNat + width'.toNat ≤ offset.toNat ∨ stop ≤ offset'.toNat →
            v.readUInt offset' width' after = v.readUInt offset' width' m) ∧
          (Whole width' → offset'.toNat + width'.toNat ≤ bytes.length →
            ∃ n, v.readUInt offset' width' after = .ok n ∧
              n.toNat = numberOf ((stored.drop offset'.toNat).take width'.toNat)) := by
  intro stop stored
  by_cases hin : stop ≤ bytes.length
  . by_cases hwidth : Whole width
    . have ⟨n, hread, hn⟩ := h.readUInt_of_inside hin hwidth
      have ⟨after, hwrite, hshows, hstored⟩ := h.writeUInt_of_inside hin hwidth value
      refine ⟨?_, ?_, ?_, ?_, ?_⟩
      . simp [hwrite, hwidth, hin]
      . simp [hread, hwidth, hin]
      . simp [hwrite, hread]
      . simp [hread, hn]
      . rintro after' hwrite'
        cases hwrite.symm.trans hwrite'
        refine ⟨hshows, ?_, Shows.readUInt_back hin hshows hwidth, ?_⟩
        . intro a ha
          exact hstored.byte?_of_outside (by rw [length_digitsOf]; omega)
        . intro offset' width'
          refine ⟨Shows.readUInt_beside hin hshows h, ?_⟩
          intro hwidth' hin'
          refine hshows.readUInt_of_inside ?_ hwidth'
          rwa [length_overlaid (by rwa [length_digitsOf])]
    . have hcheck := h.check_of_inside hin
      simp [readUInt_of_not_whole hcheck hwidth, writeUInt_of_not_whole hcheck hwidth, hwidth, hin]
  . have hcheck := h.check_of_outside (Nat.not_le.mp hin)
    simp [readUInt_of_check_error hcheck, writeUInt_of_check_error hcheck, hin, Nat.not_le.mp hin,
      UInt64.size, stop]

/-- Four bytes at an odd place, for an integer that needs five, and two bytes across their start. A range
behind the last address is told from the region's end. -/
theorem integers_bounded_unaligned
    : let v : View := ⟨16, some 8, by decide⟩
      let m : Memory := ⟨[⟨16, #[1, 2, 3, 4, 5, 6, 7, 8]⟩], 64⟩
      v.Shows m [1, 2, 3, 4, 5, 6, 7, 8] ∧
        (∃ after, v.writeUInt 1 4 0x1AABBCCDD m = .ok after ∧
          v.Shows after [1, 0xDD, 0xCC, 0xBB, 0xAA, 6, 7, 8] ∧
          ∃ n, v.readUInt 0 2 after = .ok n ∧ n.toNat = 0xDD01) ∧
        ∀ e, v.readUInt 0xFFFFFFFFFFFFFFFF 3 m = .error e →
          e = .outOfBounds 0xFFFFFFFFFFFFFFFF 8 := by
  intro v m
  have hshows : v.Shows m [1, 2, 3, 4, 5, 6, 7, 8] := ⟨rfl, by decide, by decide⟩
  have ⟨hstores, _, _, _, hafter⟩ := integers_bounded hshows 1 4 0x1AABBCCDD
  have ⟨_, _, herrors, _⟩ := integers_bounded hshows 0xFFFFFFFFFFFFFFFF 3 0
  refine ⟨hshows, ?_, ?_⟩
  . have ⟨after, hwrite⟩ := hstores.mpr ⟨by decide, by decide⟩
    have ⟨hshows', _, _, hreads⟩ := hafter after hwrite
    have ⟨_, hacross⟩ := hreads 0 2
    exact ⟨after, hwrite, hshows', hacross (by decide) (by decide)⟩
  . intro e he
    rcases herrors e (.inr he) with ⟨_, rfl⟩ | ⟨hin, _⟩
    . rfl
    . exact absurd hin (by decide)

end NativeCall.View
