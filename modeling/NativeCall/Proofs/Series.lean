import NativeCall.Proofs.Integers

/-!
This module contains the storing of ids through a view: as many as are asked for are stored one after
the other, or nothing is. A store changes the memory in place, and one that is refused does not take
back those in front of it, so that this needs the check in front of the first to be enough for all.
-/

namespace NativeCall.View

/-- Ids of `width` bytes each. They stand in memory themselves, so that their bytes can be counted. -/
structure AreIds (width : UInt64) (ids : List UInt64) : Prop where
  whole : Whole width
  below : ∀ id ∈ ids, id.toNat < 256 ^ width.toNat
  countable : ids.length * width.toNat < UInt64.size

theorem AreIds.take {width : UInt64} {ids : List UInt64} (h : AreIds width ids) (count : Nat)
    : AreIds width (ids.take count) := by
  refine ⟨h.whole, ?_, ?_⟩
  . intro id hid
    exact h.below id (List.mem_of_mem_take hid)
  . apply Nat.lt_of_le_of_lt _ h.countable
    exact Nat.mul_le_mul_right _ (List.length_take_le' count ids)

variable {v : View} {m : Memory} {bytes : List UInt8} {width limit : UInt64}
  {ids chosen : List UInt64}

theorem writeAll_eq_putAll (n : UInt64)
    : v.writeAll width n ids m =
        (v.putAll width n ids m).2.map fun _ => (v.putAll width n ids m).1 := by
  induction ids generalizing n m with
  | nil => rfl
  | cons id rest ih =>
    unfold writeAll putAll
    cases v.writeUInt (n * width) width id m with
    | ok m => exact ih (n + 1)
    | error e => rfl

theorem putAll_of_writeAll {n : UInt64} {after : Memory} (h : v.writeAll width n ids m = .ok after)
    : v.putAll width n ids m = (after, .ok ()) := by
  rw [writeAll_eq_putAll] at h
  generalize v.putAll width n ids m = put at h ⊢
  obtain ⟨m', _ | _⟩ := put
  . cases h
  . cases h
    rfl

theorem check_of_part {offset size : UInt64} (h : v.check 0 size = .ok ())
    (hin : offset.toNat + width.toNat ≤ size.toNat) : v.check offset width = .ok () := by
  have hend : offset.toNat + width.toNat < UInt64.size := by
    exact Nat.lt_of_le_of_lt hin size.toNat_lt
  exact check_of_fits hend ((fits_of_check h).mono hin)

theorem writeUInt_of_check {offset value : UInt64} (h : v.check offset width = .ok ())
    (hwidth : Whole width) : ∃ after, v.writeUInt offset width value m = .ok after := by
  unfold writeUInt
  rw [h]
  show ∃ after, (if isWidth width then _ else _) = _
  rw [if_pos (isWidth_iff_whole.mpr hwidth)]
  exact ⟨_, rfl⟩

section

variable (hchosen : ids.take limit.toNat = chosen)
include hchosen

theorem writeIds_of_check_error {e : MemoryFault}
    (h : v.check 0 (UInt64.ofNat chosen.length * width) = .error e)
    : v.writeIds width ids limit m = .error e := by
  unfold writeIds
  dsimp only
  rw [hchosen, h]
  rfl

theorem putIds_of_check_error {e : MemoryFault}
    (h : v.check 0 (UInt64.ofNat chosen.length * width) = .error e)
    : v.putIds width ids limit m = (m, .error e) := by
  unfold putIds
  dsimp only
  rw [hchosen, h]

theorem putIds_of_writeIds {count : Nat} {after : Memory}
    (h : v.writeIds width ids limit m = .ok (count, after))
    : v.putIds width ids limit m = (after, .ok count) := by
  unfold writeIds at h
  unfold putIds
  dsimp only at h ⊢
  rw [hchosen] at h ⊢
  cases hcheck : v.check 0 (UInt64.ofNat chosen.length * width) with
  | error e =>
    rw [hcheck] at h
    cases h
  | ok =>
    rw [hcheck] at h
    cases hall : v.writeAll width 0 chosen m with
    | error e =>
      rw [hall] at h
      cases h
    | ok m' =>
      rw [hall] at h
      cases h
      rw [putAll_of_writeAll hall]
      rfl

variable (hids : AreIds width chosen)
include hids

/-- The check in front is enough: what is in memory afterwards is what it was before or all ids. -/
theorem putIds_eq
    : v.putIds width ids limit m =
        match v.writeIds width ids limit m with
        | .ok (count, after) => (after, .ok count)
        | .error e => (m, .error e) := by
  cases hcheck : v.check 0 (UInt64.ofNat chosen.length * width) with
  | error e => rw [putIds_of_check_error hchosen hcheck, writeIds_of_check_error hchosen hcheck]
  | ok =>
    have hfits := fits_of_check hcheck
    rw [toNat_ofNat_mul hids.countable] at hfits
    have ⟨after, hwritten, _⟩ :=
      writeIds_of_fits hchosen hids.countable (isWidth_iff_whole.mpr hids.whole) hfits m
    rw [putIds_of_writeIds hchosen hwritten, hwritten]

variable (h : v.Shows m bytes)
include h

theorem Shows.writeIds_of_inside (hin : chosen.length * width.toNat ≤ bytes.length)
    : ∃ after, v.writeIds width ids limit m = .ok (chosen.length, after) ∧
        v.Shows after (overlaid bytes 0 (seriesOf width.toNat chosen)) ∧
        m.Stored v.base.toNat (seriesOf width.toNat chosen) after := by
  have hregion := h.inside
  have ⟨after, hwritten, hstored⟩ :=
    writeIds_of_fits hchosen hids.countable (isWidth_iff_whole.mpr hids.whole) (h.fits hin) m
  have hseries := hstored (by omega)
  rw [flatMap_littleEndian_eq_seriesOf] at hseries
  have hend : 0 + (seriesOf width.toNat chosen).length ≤ bytes.length := by
    rwa [length_seriesOf, Nat.zero_add]
  exact ⟨after, hwritten, h.stored hseries hend, hseries⟩

theorem Shows.writeIds_of_outside (hout : bytes.length < chosen.length * width.toNat)
    : v.writeIds width ids limit m =
        .error (.outOfBounds (UInt64.ofNat (chosen.length * width.toNat))
          (UInt64.ofNat bytes.length)) := by
  have ⟨length, hlength, hbytes⟩ := h.exists_length
  rw [← hbytes, UInt64.ofNat_toNat]
  exact writeIds_of_short hchosen hids.countable hlength (hbytes ▸ hout) m

end

section

variable {place : Nat}

theorem AreIds.writeUInt_of_check (hids : AreIds width ids)
    (hcheck : v.check 0 (UInt64.ofNat (ids.length * width.toNat)) = .ok ())
    (h : place < ids.length) (id : UInt64) (m : Memory)
    : ∃ after, v.writeUInt (UInt64.ofNat (place * width.toNat)) width id m = .ok after := by
  have hle := place_le width.toNat h
  have hcountable := hids.countable
  apply View.writeUInt_of_check _ hids.whole
  apply check_of_part hcheck
  rwa [UInt64.toNat_ofNat_of_lt' (by omega), UInt64.toNat_ofNat_of_lt' hcountable]

theorem Shows.readUInt_series {id : UInt64}
    (h : v.Shows m (overlaid bytes 0 (seriesOf width.toNat ids))) (hids : AreIds width ids)
    (hin : ids.length * width.toNat ≤ bytes.length) (hid : ids[place]? = some id)
    : v.readUInt (UInt64.ofNat (place * width.toNat)) width m = .ok id := by
  have ⟨hplace, _⟩ := List.getElem?_eq_some_iff.mp hid
  have hle := place_le width.toNat hplace
  have hcountable := hids.countable
  have hoffset : (UInt64.ofNat (place * width.toNat)).toNat = place * width.toNat := by
    exact UInt64.toNat_ofNat_of_lt' (by omega)
  have hend : 0 + (seriesOf width.toNat ids).length ≤ bytes.length := by
    rwa [length_seriesOf, Nat.zero_add]
  have hinside : (UInt64.ofNat (place * width.toNat)).toNat + width.toNat ≤
      (overlaid bytes 0 (seriesOf width.toNat ids)).length := by
    rw [length_overlaid hend, hoffset]
    omega
  have ⟨n, hread, hn⟩ := h.readUInt_of_inside hinside hids.whole
  rw [hoffset, take_drop_overlaid_seriesOf hin hid, numberOf_digitsOf,
    Nat.mod_eq_of_lt (hids.below id (List.mem_of_getElem? hid))] at hn
  rw [hread, UInt64.toNat_inj.mp hn]

end

/-- The ids that are asked for are stored from the start of the region on if there is room for all of them,
and otherwise nothing changes; in place it is no different. -/
theorem ids_all_or_none (h : v.Shows m bytes) (hids : AreIds width ids) (limit : UInt64)
    : let count := min ids.length limit.toNat
      let size := count * width.toNat
      let stored := overlaid bytes 0 (seriesOf width.toNat (ids.take count))
      let fault := MemoryFault.outOfBounds (UInt64.ofNat size) (UInt64.ofNat bytes.length)
      (size ≤ bytes.length →
        ∃ after, v.writeIds width ids limit m = .ok (count, after) ∧
          v.putIds width ids limit m = (after, .ok count) ∧
          v.Shows after stored ∧
          (∀ a, a < v.base.toNat ∨ v.base.toNat + size ≤ a → after.byte? a = m.byte? a) ∧
          ∀ k id, k < count → ids[k]? = some id →
            (stored.drop (k * width.toNat)).take width.toNat = digitsOf width.toNat id.toNat ∧
            v.readUInt (UInt64.ofNat (k * width.toNat)) width after = .ok id) ∧
      (bytes.length < size →
        v.writeIds width ids limit m = .error fault ∧
          v.putIds width ids limit m = (m, .error fault)) ∧
      (v.check 0 (UInt64.ofNat size) = .ok () →
        ∀ k id m', k < count → ∃ after,
          v.writeUInt (UInt64.ofNat (k * width.toNat)) width id m' = .ok after) := by
  intro count size stored fault
  have hchosen : ids.take limit.toNat = ids.take count := by
    rw [List.take_eq_take_min, Nat.min_comm]
  have hlength : (ids.take count).length = count := by
    rw [List.length_take]
    omega
  have hsize : (ids.take count).length * width.toNat = size := by
    rw [hlength]
  have htaken := hids.take count
  have hinplace := putIds_eq (v := v) (m := m) hchosen htaken
  refine ⟨?fits, ?short, ?places⟩
  case fits =>
    intro hin
    rw [← hsize] at hin
    have ⟨after, hwritten, hshows, hstored⟩ := h.writeIds_of_inside hchosen htaken hin
    rw [hlength] at hwritten
    rw [hwritten] at hinplace
    refine ⟨after, hwritten, hinplace, hshows, ?_, ?_⟩
    . intro a ha
      exact hstored.byte?_of_outside (by rwa [length_seriesOf, hsize])
    . intro k id hk hid
      have hplace : (ids.take count)[k]? = some id := by
        rwa [List.getElem?_take_of_lt hk]
      exact ⟨take_drop_overlaid_seriesOf hin hplace, hshows.readUInt_series htaken hin hplace⟩
  case short =>
    intro hout
    rw [← hsize] at hout
    have hrefused := h.writeIds_of_outside hchosen htaken hout
    rw [hsize] at hrefused
    rw [hrefused] at hinplace
    exact ⟨hrefused, hinplace⟩
  case places =>
    intro hcheck k id m' hk
    rw [← hsize] at hcheck
    rw [← hlength] at hk
    exact htaken.writeUInt_of_check hcheck hk id m'

/-- Three of four ids of two bytes leave the last two bytes of eight as they are; of ids of eight bytes
there is no room for two. -/
theorem ids_all_or_none_of_four
    : let v : View := ⟨16, some 8, by decide⟩
      let m : Memory := ⟨[⟨16, #[1, 2, 3, 4, 5, 6, 7, 8]⟩], 64⟩
      let ids : List UInt64 := [0x0102, 7, 0xFFFF, 9]
      v.Shows m [1, 2, 3, 4, 5, 6, 7, 8] ∧ AreIds 2 ids ∧ AreIds 8 ids ∧
        (∃ after, v.writeIds 2 ids 3 m = .ok (3, after) ∧
          v.Shows after [2, 1, 7, 0, 0xFF, 0xFF, 7, 8] ∧ v.readUInt 4 2 after = .ok 0xFFFF) ∧
        v.putIds 8 ids 2 m = (m, .error (.outOfBounds 16 8)) := by
  intro v m ids
  have hshows : v.Shows m [1, 2, 3, 4, 5, 6, 7, 8] := ⟨rfl, by decide, by decide⟩
  have htwo : AreIds 2 ids := ⟨by decide, by simp [ids], by decide⟩
  have height : AreIds 8 ids := ⟨by decide, by simp [ids], by decide⟩
  have ⟨hfits, _, _⟩ := ids_all_or_none hshows htwo 3
  have ⟨_, hshort, _⟩ := ids_all_or_none hshows height 2
  have ⟨after, hwritten, _, hafter, _, hplaces⟩ := hfits (by decide)
  have ⟨_, hread⟩ := hplaces 2 0xFFFF (by decide) rfl
  have ⟨_, hinplace⟩ := hshort (by decide)
  exact ⟨hshows, htwo, height, ⟨after, hwritten, hafter, hread⟩, hinplace⟩

end NativeCall.View
