import NativeCall.Proofs.Decoding
import NativeCall.Request.Sockets

/-!
This module contains the regions of memory that requests hand to the system, and what it takes for
them to lie inside the handles that the caller gave.
-/

namespace NativeCall

/-- A region handed to the system: the place of the argument behind it and how many of its bytes the system
may touch; `length` is the place of the argument that says so. -/
structure Handover where
  index : Nat
  address : UInt64
  size : Nat
  length : Option Nat
  optional : Bool

/-- The argument that is to say how many bytes there are says so. -/
def Handover.Stated (args : List Variant) (size : Nat) (length : Option Nat) : Prop :=
  ∀ index, length = some index → ∃ n, args[index]? = some (.int n) ∧ n.toInt = size

/-- The region is the one that the caller's argument stands for, or begins with it. -/
inductive Handover.Sound (args : List Variant) : Handover → Prop where
  | region {index : Nat} {address : UInt64} {known : Option UInt64} {size : Nat}
      {length : Option Nat} {optional : Bool}
      (harg : args[index]? = some (.pointer ⟨address, known⟩))
      (hnull : address ≠ 0 ∨ optional)
      (hfits : ∀ n, known = some n → size ≤ n.toNat)
      (hstated : Stated args size length)
      : Sound args ⟨index, address, size, length, optional⟩
  | omitted {index : Nat} {length : Option Nat} (harg : args[index]? = some .nil)
      (hstated : Stated args 0 length)
      : Sound args ⟨index, 0, 0, length, true⟩

theorem Handover.stated_of_decodes {args : List Variant} {size index : Nat}
    (h : ∃ n, args[index]? = some (.int n) ∧ (size : Int) = n.toInt)
    : Stated args size (some index) := by
  intro place hplace
  cases hplace
  have ⟨n, hn, hsize⟩ := h
  exact ⟨n, hn, hsize.symm⟩

theorem Handover.stated_none {args : List Variant} {size : Nat} : Stated args size none := by
  intro index h
  cases h

theorem Handover.sound_of_view {args : List Variant} {index size : Nat} {length : Option Nat}
    {v : View} (harg : args[index]? = some (.pointer ⟨v.base, v.length⟩)) (hfits : v.Fits size)
    (hstated : Stated args size length) (optional : Bool)
    : Sound args ⟨index, v.base, size, length, optional⟩ := by
  exact .region harg (Or.inl v.base_ne_zero) hfits hstated

theorem Handover.sound_of_missing {args : List Variant} {index : Nat} {length : Option Nat}
    (harg : args[index]? = some .nil ∨ ∃ known, args[index]? = some (.pointer ⟨0, known⟩))
    (hstated : Stated args 0 length)
    : Sound args ⟨index, 0, 0, length, true⟩ := by
  cases harg with
  | inl hnil => exact .omitted hnil hstated
  | inr hnull =>
    have ⟨known, hnull⟩ := hnull
    refine .region hnull (Or.inr rfl) ?_ hstated
    intro n _
    apply Nat.zero_le

theorem Handover.Sound.pointer {args : List Variant} {index size : Nat} {address : UInt64}
    {length : Option Nat} (h : Sound args ⟨index, address, size, length, false⟩)
    : ∃ p, args[index]? = some (.pointer p) := by
  cases h with
  | region harg => exact ⟨_, harg⟩

theorem Handover.Sound.of_set {args : List Variant} {s : String} {handover : Handover}
    (h : Sound (args.set 0 (.str s)) handover) : Sound args handover := by
  have hget : ∀ {index : Nat} {v : Variant}, (args.set 0 (.str s))[index]? = some v →
      v ≠ .str s → args[index]? = some v := by
    intro index v hv hne
    rw [List.getElem?_set] at hv
    split at hv
    . split at hv
      . cases hv
        contradiction
      . cases hv
    . exact hv
  have hlength : ∀ {size : Nat} {length : Option Nat},
      Stated (args.set 0 (.str s)) size length → Stated args size length := by
    intro size length hstated index hindex
    have ⟨n, hn, hsize⟩ := hstated index hindex
    exact ⟨n, hget hn nofun, hsize⟩
  cases h with
  | region harg hnull hfits hstated => exact .region (hget harg nofun) hnull hfits (hlength hstated)
  | omitted harg hstated => exact .omitted (hget harg nofun) (hlength hstated)

/-- The length that is stored at an address. -/
def Memory.storedLength (m : Memory) (address : UInt64) : Nat :=
  ofLittleEndian (m.read address.toNat 4)

/-- The regions that a request hands to the system when it is made on `memory`. -/
def Primitive.handovers (memory : Memory) : {reply : Reply} → Primitive reply → List Handover
  | _, .getcwd buffer size => [⟨0, buffer, size.toNat, some 1, false⟩]
  | _, .readlink _ buffer size => [⟨1, buffer, size.toNat, some 2, false⟩]
  | _, .utimes _ times => [⟨1, times, 32, none, false⟩]
  | _, .getrlimit _ limit => [⟨1, limit, 16, none, false⟩]
  | _, .setrlimit _ limit => [⟨1, limit, 16, none, false⟩]
  | _, .connect _ target length => [⟨1, target, length.toNat, some 2, false⟩]
  | _, .bind _ target length => [⟨1, target, length.toNat, some 2, false⟩]
  | _, .setsockopt _ _ _ value length => [⟨3, value, length.toNat, some 4, false⟩]
  | _, .getsockopt _ _ _ value length =>
    [⟨3, value, memory.storedLength length, none, false⟩, ⟨4, length, 4, none, false⟩]
  | _, .gethostname buffer length => [⟨0, buffer, length.toNat, some 1, false⟩]
  | _, .getpeername _ target length =>
    [⟨1, target, memory.storedLength length, none, false⟩, ⟨2, length, 4, none, false⟩]
  | _, .getsockname _ target length =>
    [⟨1, target, memory.storedLength length, none, false⟩, ⟨2, length, 4, none, false⟩]
  | _, .getaddrinfo _ _ hints result =>
    [⟨2, hints, if hints = 0 then 0 else 48, none, true⟩, ⟨3, result, 8, none, false⟩]
  -- the chain behind the address is the system's own
  | _, .freeaddrinfo chain => [⟨0, chain, 0, none, false⟩]
  | _, .getnameinfo target length host hostLength service serviceLength _ =>
    [⟨0, target, length.toNat, some 1, false⟩, ⟨2, host, hostLength.toNat, some 3, true⟩,
      ⟨4, service, serviceLength.toNat, some 5, true⟩]
  | _, _ => []

theorem ofLittleEndian_lt (bytes : List UInt8)
    : ofLittleEndian bytes < Nat.pow 256 bytes.length := by
  induction bytes with
  | nil => simp [ofLittleEndian]
  | cons b rest ih =>
    have hb := b.toNat_lt
    have hpow : Nat.pow 256 (rest.length + 1) = 256 * Nat.pow 256 rest.length := Nat.mul_comm _ _
    rw [List.length_cons, hpow]
    unfold ofLittleEndian
    omega

theorem Memory.storedLength_lt (m : Memory) (address : UInt64)
    : m.storedLength address < UInt32.size := by
  have hlt := ofLittleEndian_lt (m.read address.toNat 4)
  have hlength : (m.read address.toNat 4).length = 4 := by
    simp [Memory.read]
  rw [hlength] at hlt
  exact hlt

theorem View.readUInt_storedLength {v : View} {memory : Memory} {capacity : UInt64}
    (h : v.readUInt 0 Request.lengthSize memory = .ok capacity)
    : capacity.toNat = memory.storedLength v.base := by
  have hlt := memory.storedLength_lt v.base
  unfold View.readUInt at h
  cases hcheck : v.check 0 Request.lengthSize with
  | error e =>
    rw [hcheck] at h
    cases h
  | ok =>
    rw [hcheck] at h
    cases h
    have haddress : v.address 0 = v.base.toNat := by
      simp [View.address]
    rw [haddress]
    apply Nat.mod_eq_of_lt
    apply Nat.lt_trans hlt
    decide

end NativeCall
