import Mathlib.Algebra.Group.Int.Defs
import Mathlib.Algebra.Group.Nat.Defs
import NativeCall.Invocation

/-!
This module contains what the accessors of invocations give, and that they fail only by the caller's
fault.
-/

namespace NativeCall

/-- Decoding fails only by the caller's fault, and what it gives satisfies `p`. -/
structure Decodes {α : Type} (x : Except CallError α) (p : α → Prop) : Prop where
  fault : ∀ e, x = .error e → e.isMisuse
  value : ∀ a, x = .ok a → p a

namespace Decodes

variable {α β : Type} {p : α → Prop} {q : β → Prop}

theorem pure {a : α} (h : p a) : Decodes (Pure.pure a) p := by
  constructor
  . intro e he
    cases he
  . intro b hb
    cases hb
    exact h

theorem throw {e : CallError} (h : e.isMisuse) : Decodes (MonadExcept.throw e) p := by
  constructor
  . intro e' he
    cases he
    exact h
  . intro a ha
    cases ha

theorem bind {x : Except CallError α} {f : α → Except CallError β} (hx : Decodes x p)
    (hf : ∀ a, p a → Decodes (f a) q) : Decodes (x >>= f) q := by
  cases hrun : x with
  | error e =>
    constructor
    . intro e' he
      cases he
      exact hx.fault e hrun
    . intro b hb
      cases hb
  | ok a => exact hf a (hx.value a hrun)

theorem mono {x : Except CallError α} {p' : α → Prop} (hx : Decodes x p) (h : ∀ a, p a → p' a)
    : Decodes x p' := by
  constructor
  . exact hx.fault
  . intro a ha
    exact h a (hx.value a ha)

end Decodes

namespace View

/-- The first `size` bytes lie inside the region, if its length is known. -/
def Fits (v : View) (size : Nat) : Prop :=
  ∀ length, v.length = some length → size ≤ length.toNat

theorem fits_of_check {v : View} {size : UInt64} (h : v.check 0 size = .ok ())
    : v.Fits size.toNat := by
  intro length hlength
  simp only [check, hlength, UInt64.toNat_zero, Nat.zero_add] at h
  split at h
  . cases h
  . split at h
    . cases h
    . omega

end View

namespace Invocation

variable (inv : Invocation) (index : Nat)

theorem decodes_arg : Decodes (inv.arg index) fun v => inv.args[index]? = some v := by
  unfold arg
  split
  . next v h => exact .pure h
  . exact .throw rfl

theorem decodes_decode {α : Type} (expected : Shape) (read : Variant → Option α)
    : Decodes (inv.decode index expected read) fun a =>
        ∃ v, inv.args[index]? = some v ∧ read v = some a := by
  unfold decode
  apply (inv.decodes_arg index).bind
  intro v hv
  split
  . next a h => exact .pure ⟨v, hv, h⟩
  . exact .throw rfl

theorem decodes_int : Decodes (inv.int index) fun n => inv.args[index]? = some (.int n) := by
  apply (inv.decodes_decode index .int Variant.asInt?).mono
  rintro n ⟨v, hv, h⟩
  cases v <;> cases h
  exact hv

theorem decodes_bounded (low high : Int)
    : Decodes (inv.bounded index low high) fun n =>
        inv.args[index]? = some (.int n) ∧ low ≤ n.toInt ∧ n.toInt ≤ high := by
  unfold bounded
  apply (inv.decodes_int index).bind
  intro n hn
  split
  . next h => exact .pure ⟨hn, h⟩
  . exact .throw rfl

theorem toNat_toUInt64 {v : Int64} (h : 0 ≤ v.toInt) : (v.toUInt64.toNat : Int) = v.toInt := by
  have hle : (0 : Int64) ≤ v := by
    rw [Int64.le_iff_toInt_le]
    exact h
  rw [Int64.toNat_toUInt64_of_le hle, ← Int64.toNat_toInt]
  omega

theorem decodes_cInt
    : Decodes (inv.cInt index) fun n =>
        ∃ v, inv.args[index]? = some (.int v) ∧ n.toInt = v.toInt := by
  unfold cInt
  apply (inv.decodes_bounded index _ _).bind
  intro v hv
  apply Decodes.pure
  refine ⟨v, hv.1, ?_⟩
  rw [Int64.toInt_toInt32]
  apply Int.bmod_eq_of_le_mul_two <;> omega

theorem decodes_size
    : Decodes (inv.size index) fun n =>
        ∃ v, inv.args[index]? = some (.int v) ∧ (n.toNat : Int) = v.toInt := by
  unfold size
  apply (inv.decodes_bounded index _ _).bind
  intro v hv
  apply Decodes.pure
  exact ⟨v, hv.1, toNat_toUInt64 hv.2.1⟩

theorem decodes_socketLength
    : Decodes (inv.socketLength index) fun n =>
        ∃ v, inv.args[index]? = some (.int v) ∧ (n.toNat : Int) = v.toInt := by
  unfold socketLength
  apply (inv.decodes_bounded index _ _).bind
  intro v hv
  apply Decodes.pure
  have hnat := toNat_toUInt64 hv.2.1
  refine ⟨v, hv.1, ?_⟩
  rw [UInt64.toNat_toUInt32, Nat.mod_eq_of_lt]
  . exact hnat
  . omega

theorem decodes_str : Decodes (inv.str index) fun s => inv.args[index]? = some (.str s) := by
  apply (inv.decodes_decode index .str Variant.asStr?).mono
  rintro s ⟨v, hv, h⟩
  cases v <;> cases h
  exact hv

theorem decodes_cString
    : Decodes (inv.cString index) fun s =>
        ∃ text, inv.args[index]? = some (.str text) ∧ CString.ofText? text = some s := by
  unfold cString
  apply (inv.decodes_str index).bind
  intro text htext
  split
  . next s h => exact .pure ⟨text, htext, h⟩
  . exact .throw rfl

theorem decodes_symbol
    : Decodes (inv.symbol index) fun s => inv.args[index]? = some (.symbol s) := by
  apply (inv.decodes_decode index .symbol Variant.asSymbol?).mono
  rintro s ⟨v, hv, h⟩
  cases v <;> cases h
  exact hv

theorem decodes_pointer
    : Decodes (inv.pointer index) fun p => inv.args[index]? = some (.pointer p) := by
  apply (inv.decodes_decode index .pointer Variant.asPointer?).mono
  rintro p ⟨v, hv, h⟩
  cases v <;> cases h
  exact hv

theorem decodes_memory {α : Type} (r : Except MemoryFault α)
    : Decodes (inv.memory index r) fun a => r = .ok a := by
  unfold memory
  split
  . exact .pure rfl
  . exact .throw rfl

theorem decodes_view
    : Decodes (inv.view index) fun v =>
        inv.args[index]? = some (.pointer ⟨v.base, v.length⟩) := by
  unfold view
  apply (inv.decodes_pointer index).bind
  intro p hp
  apply (inv.decodes_memory index _).mono
  intro v hv
  unfold View.acquire at hv
  split at hv
  . cases hv
  . cases hv
    exact hp

theorem decodes_nullableView
    : Decodes (inv.nullableView index) fun v => match v with
        | none => inv.args[index]? = some .nil ∨
            ∃ length, inv.args[index]? = some (.pointer ⟨0, length⟩)
        | some v => inv.args[index]? = some (.pointer ⟨v.base, v.length⟩) := by
  unfold nullableView
  apply (inv.decodes_arg index).bind
  intro v hv
  split
  . exact .pure (Or.inl hv)
  . next p =>
    split
    . next hnull =>
      rcases p with ⟨address, length⟩
      have : address = 0 := by simpa [Pointer.isNull] using hnull
      subst this
      exact .pure (Or.inr ⟨length, hv⟩)
    . apply (inv.decodes_view index).bind
      intro view hview
      exact .pure hview
  . apply (inv.decodes_view index).bind
    intro view hview
    exact .pure hview

theorem decodes_region (count : UInt64)
    : Decodes (inv.region index count) fun v =>
        inv.args[index]? = some (.pointer ⟨v.base, v.length⟩) ∧ v.Fits count.toNat := by
  unfold region
  apply (inv.decodes_view index).bind
  intro v hv
  apply (inv.decodes_memory index _).bind
  intro _ hcheck
  exact .pure ⟨hv, View.fits_of_check hcheck⟩

variable {inv index}

theorem int_of_arg {n : Int64} (h : inv.args[index]? = some (.int n)) : inv.int index = .ok n := by
  unfold int decode arg
  rw [h]
  rfl

theorem pointer_of_arg {p : Pointer} (h : inv.args[index]? = some (.pointer p))
    : inv.pointer index = .ok p := by
  unfold pointer decode arg
  rw [h]
  rfl

theorem cString_eq_match {text : String} (h : inv.args[index]? = some (.str text))
    : inv.cString index =
        match CString.ofText? text with
        | some s => .ok s
        | none => .error (.interiorNul inv.op index) := by
  have hstr : inv.str index = .ok text := by
    unfold str decode arg
    rw [h]
    rfl
  unfold cString
  rw [hstr]
  dsimp only [Bind.bind, Except.bind]
  cases CString.ofText? text <;> rfl

theorem cString_of_text {text : String} {s : CString} (h : inv.args[index]? = some (.str text))
    (htext : CString.ofText? text = some s) : inv.cString index = .ok s := by
  rw [cString_eq_match h, htext]

theorem cString_of_zero {text : String} (h : inv.args[index]? = some (.str text))
    (htext : CString.ofText? text = none)
    : inv.cString index = .error (.interiorNul inv.op index) := by
  rw [cString_eq_match h, htext]

theorem bounded_eq_ite {n : Int64} (h : inv.args[index]? = some (.int n)) (low high : Int)
    : inv.bounded index low high =
        if low ≤ n.toInt ∧ n.toInt ≤ high then .ok n else .error (.outOfRange inv.op index n) := by
  unfold bounded
  rw [int_of_arg h]
  rfl

theorem toNat_toUInt32 (n : Int32)
    : (n.toUInt32.toNat : Int) = n.toInt % 2 ^ 32 := by
  have hn : n.toInt = _ := BitVec.toInt_eq_toNat_cond n.toBitVec
  have hlt := n.toUInt32.toNat_lt
  have : n.toUInt32.toNat = n.toBitVec.toNat := rfl
  split at hn <;> omega

theorem toInt_toInt32 {v : Int64} (h : -2 ^ 31 ≤ v.toInt ∧ v.toInt < 2 ^ 31)
    : v.toInt32.toInt = v.toInt := by
  rw [Int64.toInt_toInt32]
  apply Int.bmod_eq_of_le_mul_two <;> omega

theorem cInt_of_narrow {n : Int64} (h : inv.args[index]? = some (.int n))
    (hn : -2 ^ 31 ≤ n.toInt ∧ n.toInt < 2 ^ 31) : inv.cInt index = .ok n.toInt32 := by
  unfold cInt
  rw [bounded_eq_ite h, if_pos (by omega)]
  rfl

theorem cInt_of_toInt_eq {v : Int64} {n : Int32} (h : inv.args[index]? = some (.int v))
    (hn : n.toInt = v.toInt) : inv.cInt index = .ok n := by
  have hlow := n.le_toInt
  have hhigh := n.toInt_lt
  have hnarrow : -2 ^ 31 ≤ v.toInt ∧ v.toInt < 2 ^ 31 := by omega
  rw [cInt_of_narrow h hnarrow]
  congr 1
  apply Int32.toInt_inj.mp
  rw [toInt_toInt32 hnarrow, hn]

theorem cInt_of_wide {n : Int64} (h : inv.args[index]? = some (.int n))
    (hn : ¬ (-2 ^ 31 ≤ n.toInt ∧ n.toInt < 2 ^ 31))
    : inv.cInt index = .error (.outOfRange inv.op index n) := by
  unfold cInt
  rw [bounded_eq_ite h, if_neg (by omega)]
  rfl

theorem size_of_nonneg {n : Int64} (h : inv.args[index]? = some (.int n)) (hn : 0 ≤ n.toInt)
    : inv.size index = .ok n.toUInt64 := by
  have hhigh := n.toInt_lt
  unfold size
  rw [bounded_eq_ite h, if_pos (by omega)]
  rfl

theorem size_of_negative {n : Int64} (h : inv.args[index]? = some (.int n)) (hn : n.toInt < 0)
    : inv.size index = .error (.outOfRange inv.op index n) := by
  unfold size
  rw [bounded_eq_ite h, if_neg (by omega)]
  rfl

theorem socketLength_of_toNat_eq {v : Int64} {n : UInt32} (h : inv.args[index]? = some (.int v))
    (hn : v.toInt = n.toNat) : inv.socketLength index = .ok n := by
  have hlt := n.toNat_lt
  have hnat := toNat_toUInt64 (v := v) (by omega)
  unfold socketLength
  rw [bounded_eq_ite h, if_pos (by omega)]
  refine congrArg Except.ok (UInt32.toNat_inj.mp ?_)
  rw [UInt64.toNat_toUInt32, Nat.mod_eq_of_lt (by omega)]
  omega

theorem view_of_null {p : Pointer} (h : inv.args[index]? = some (.pointer p))
    (hp : p.address = 0) : inv.view index = .error (.memory inv.op index .null) := by
  unfold view
  rw [pointer_of_arg h]
  change inv.memory index (View.acquire p) = _
  unfold View.acquire
  rw [dif_pos hp]
  rfl

theorem view_of_pointer {p : Pointer} (h : inv.args[index]? = some (.pointer p))
    (hp : p.address ≠ 0) : inv.view index = .ok ⟨p.address, p.length, hp⟩ := by
  unfold view
  rw [pointer_of_arg h]
  change inv.memory index (View.acquire p) = _
  unfold View.acquire
  rw [dif_neg hp]
  rfl

theorem nullableView_of_missing
    (h : inv.args[index]? = some .nil ∨ ∃ known, inv.args[index]? = some (.pointer ⟨0, known⟩))
    : inv.nullableView index = .ok none := by
  unfold nullableView arg
  rcases h with h | ⟨known, h⟩
  . rw [h]
    rfl
  . rw [h]
    rfl

theorem nullableView_of_pointer {p : Pointer} (h : inv.args[index]? = some (.pointer p))
    (hp : p.address ≠ 0) : inv.nullableView index = .ok (some ⟨p.address, p.length, hp⟩) := by
  have hnull : p.isNull = false := by simpa [Pointer.isNull] using hp
  have hview := view_of_pointer h hp
  have harg : inv.arg index = .ok (.pointer p) := by
    unfold arg
    rw [h]
  unfold nullableView
  rw [harg, hview]
  change (if p.isNull then _ else _) = _
  rw [hnull]
  rfl

end Invocation

class CallersFault {α : Type} (x : Except CallError α) : Prop where
  decodes : Decodes x fun _ => True

section Instances

variable (inv : Invocation) (index : Nat)

instance : CallersFault (inv.cInt index) :=
  ⟨(inv.decodes_cInt index).mono fun _ _ => trivial⟩

instance : CallersFault (inv.size index) :=
  ⟨(inv.decodes_size index).mono fun _ _ => trivial⟩

instance : CallersFault (inv.cString index) :=
  ⟨(inv.decodes_cString index).mono fun _ _ => trivial⟩

end Instances

theorem Decodes.step {α β : Type} {x : Except CallError α} [CallersFault x]
    {f : α → Except CallError β} {q : β → Prop} (h : ∀ a, Decodes (f a) q)
    : Decodes (x >>= f) q := by
  apply CallersFault.decodes.bind
  intro a _
  exact h a

end NativeCall
