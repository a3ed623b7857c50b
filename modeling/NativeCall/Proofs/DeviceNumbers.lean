import NativeCall.Proofs.Narrowing

/-!
This module contains the parts of device numbers: that the major and the minor number make up the 32
bits of the device, whichever way these are written as an integer.
-/

namespace NativeCall

namespace Device

theorem toInt_shiftRight (device : Int32) : (device >>> 24).toInt = device.toInt / 2 ^ 24 := by
  have hshift : (device >>> 24).toBitVec = device.toBitVec.sshiftRight 24 := rfl
  rw [← Int32.toInt_toBitVec, hshift, BitVec.toInt_sshiftRight, Int.shiftRight_eq_div_pow,
    Int32.toInt_toBitVec]
  rfl

/-- A mask of fewer than 32 bits takes the sign away. -/
theorem toInt_and_mask (device : Int32) {mask : Int32} {bits : Nat} (hbits : bits ≤ 31)
    (hmask : mask.toUInt32.toNat = 2 ^ bits - 1)
    : (device &&& mask).toInt = device.toInt % (2 ^ bits : Nat) := by
  have hle : 2 ^ bits ≤ 2 ^ 31 := by
    exact Nat.pow_le_pow_right (by decide) hbits
  have hmasked : (device &&& mask).toUInt32.toNat = device.toUInt32.toNat % 2 ^ bits := by
    rw [Int32.toUInt32_and, UInt32.toNat_and, hmask, Nat.and_two_pow_sub_one_eq_mod]
  have hlt := Nat.mod_lt device.toUInt32.toNat (Nat.two_pow_pos bits)
  have hresult := Invocation.toNat_toUInt32 (device &&& mask)
  have hdevice := Invocation.toNat_toUInt32 device
  have hlow := (device &&& mask).le_toInt
  have hhigh := (device &&& mask).toInt_lt
  have hreduce : device.toInt % 2 ^ 32 % (2 ^ bits : Nat) = device.toInt % (2 ^ bits : Nat) := by
    apply Int.emod_emod_of_dvd
    exact Int.natCast_dvd_natCast.mpr (Nat.pow_dvd_pow 2 (by omega : bits ≤ 32))
  rw [← hreduce, ← hdevice, ← Int.natCast_emod, ← hmasked, hresult]
  omega

theorem toInt_major (bits : Int32) : (major bits).toInt = bits.toInt % 2 ^ 32 / 2 ^ 24 := by
  unfold major
  rw [@toInt_and_mask _ _ 8 (by decide) rfl, toInt_shiftRight]
  omega

theorem toInt_minor (bits : Int32) : (minor bits).toInt = bits.toInt % 2 ^ 32 % 2 ^ 24 := by
  unfold minor
  rw [@toInt_and_mask _ _ 24 (by decide) rfl]
  omega

theorem toInt64_eq_ofNat {part : Int32} {n : UInt32} (h : part.toInt = n.toNat)
    : part.toInt64 = Int64.ofNat n.toNat := by
  have hlt := n.toNat_lt
  apply Int64.toInt_inj.mp
  rw [Int32.toInt_toInt64, h, Int64.toInt_ofNat_of_lt (by omega)]

/-- The 32 bits of the device with these numbers. -/
def pack (major minor : UInt32) : UInt32 :=
  major <<< 24 ||| minor

theorem toNat_pack {major minor : UInt32} (hmajor : major.toNat ≤ 255)
    (hminor : minor.toNat < 2 ^ 24)
    : (pack major minor).toNat = major.toNat * 2 ^ 24 + minor.toNat := by
  have hshift : (major <<< 24).toNat = major.toNat <<< 24 := by
    have hplaces : (24 : UInt32).toNat % 32 = 24 := by decide
    rw [UInt32.toNat_shiftLeft, hplaces, Nat.shiftLeft_eq, Nat.mod_eq_of_lt (by omega)]
  unfold pack
  rw [UInt32.toNat_or, hshift, ← Nat.shiftLeft_add_eq_or_of_lt hminor, Nat.shiftLeft_eq]

/-- The device as an integer of 64 bits, without a sign or with the sign that its 32 bits have. -/
def Reads (packed : UInt32) (device : Int64) : Prop :=
  device.toInt = packed.toNat ∨ device = packed.toInt32.toInt64

theorem Reads.toInt_emod {packed : UInt32} {device : Int64} (h : Reads packed device)
    : device.toInt % 2 ^ 32 = packed.toNat := by
  have hlt := packed.toNat_lt
  rcases h with h | rfl
  . omega
  . rw [Int32.toInt_toInt64, ← Invocation.toNat_toUInt32, UInt32.toUInt32_toInt32]

end Device

namespace Registry

variable {κ η : Type} (config : BindingConfig) (platform : Platform κ η) (site : String)
  {w : World κ η}

/-- The major and the minor number of a device make up its low 32 bits, whether or not the uppermost of
them is taken for a sign. -/
theorem device_numbers (hspan : w.span = none)
    : (∀ device : Int64, ∃ major minor : Int64,
        Gives config platform site "major" [.int device] w (.ok (.int major)) w.memory ∧
        Gives config platform site "minor" [.int device] w (.ok (.int minor)) w.memory ∧
        0 ≤ major.toInt ∧ major.toInt ≤ 255 ∧ 0 ≤ minor.toInt ∧ minor.toInt ≤ 2 ^ 24 - 1 ∧
        major.toInt * 2 ^ 24 + minor.toInt = device.toInt % 2 ^ 32) ∧
      ∀ (major minor : UInt32) (device : Int64), major.toNat ≤ 255 → minor.toNat ≤ 2 ^ 24 - 1 →
        Device.Reads (Device.pack major minor) device →
          Gives config platform site "major" [.int device] w
            (.ok (.int (Int64.ofNat major.toNat))) w.memory ∧
          Gives config platform site "minor" [.int device] w
            (.ok (.int (Int64.ofNat minor.toNat))) w.memory := by
  refine ⟨?split, ?packed⟩
  case split =>
    intro device
    have ⟨bits, hbits, hmajor⟩ :=
      device_gives config platform site hspan (Table.find?_major config) device
    have ⟨bits', hbits', hminor⟩ :=
      device_gives config platform site hspan (Table.find?_minor config) device
    refine ⟨_, _, hmajor, hminor, ?_⟩
    rw [Int32.toInt_toInt64, Int32.toInt_toInt64, Device.toInt_major, Device.toInt_minor, hbits,
      hbits']
    omega
  case packed =>
    intro major minor device hmajor hminor hreads
    have hlow := hreads.toInt_emod
    rw [Device.toNat_pack hmajor (by omega)] at hlow
    have ⟨bits, hbits, hgetMajor⟩ :=
      device_gives config platform site hspan (Table.find?_major config) device
    have ⟨bits', hbits', hgetMinor⟩ :=
      device_gives config platform site hspan (Table.find?_minor config) device
    have hgotMajor : (Device.major bits).toInt64 = Int64.ofNat major.toNat := by
      apply Device.toInt64_eq_ofNat
      rw [Device.toInt_major, hbits, hlow]
      omega
    have hgotMinor : (Device.minor bits').toInt64 = Int64.ofNat minor.toNat := by
      apply Device.toInt64_eq_ofNat
      rw [Device.toInt_minor, hbits', hlow]
      omega
    exact ⟨hgotMajor ▸ hgetMajor, hgotMinor ▸ hgetMinor⟩

/-- The device is negative as 32 bits; with these alone it is the same as without its sign. -/
theorem device_numbers_negative
    : let platform : Platform Posix TrackedDirectory :=
        ⟨Posix.kernel, .tracking Posix.kernel, .undisturbing⟩
      let w : World Posix TrackedDirectory := ⟨⟨.fresh, ⟨0⟩, .initial⟩, none, #[], ⟨Path.root⟩⟩
      w.span = none ∧ Device.Reads (Device.pack 200 0x123456) 0xC8123456 ∧
        Device.Reads (Device.pack 200 0x123456) (-0x37EDCBAA) ∧
        Gives {} platform "here" "major" [.int 0xC8123456] w (.ok (.int 200)) w.memory ∧
        Gives {} platform "here" "minor" [.int (-0x37EDCBAA)] w (.ok (.int 0x123456)) w.memory := by
  intro platform w
  have hplain : Device.Reads (Device.pack 200 0x123456) 0xC8123456 := .inl (by decide)
  have hsigned : Device.Reads (Device.pack 200 0x123456) (-0x37EDCBAA) := .inr (by decide)
  have ⟨_, hpacked⟩ := device_numbers {} platform "here" (w := w) rfl
  have ⟨hmajor, _⟩ := hpacked _ _ _ (by decide) (by decide) hplain
  have ⟨_, hminor⟩ := hpacked _ _ _ (by decide) (by decide) hsigned
  exact ⟨rfl, hplain, hsigned, hmajor, hminor⟩

end Registry

end NativeCall
