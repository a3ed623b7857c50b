import NativeCall.Proofs.DecodingComplaints
import NativeCall.Proofs.Encoding

/-!
This module contains which argument an error blames, and that decoding blames the right one: it is
in the caller's own arguments, at the place that the error gives, that what the error says is to be
found.
-/

namespace NativeCall

variable {κ η α β : Type}

/-- How an integer is made to fit a native parameter. -/
inductive Narrowing where
  | cInt
  | size
  | socketLength

namespace Narrowing

def Fits : Narrowing → Int → Prop
  | cInt, n => -0x80000000 ≤ n ∧ n ≤ 0x7FFFFFFF
  | size, n => 0 ≤ n
  | socketLength, n => 0 ≤ n ∧ n ≤ 0xFFFFFFFF

/-- The integers of which any will do, as only their low bits count. -/
def unbounded : List (String × Nat) :=
  [("memset", 1), ("major", 0), ("minor", 0)]

def sizes : List (String × Nat) :=
  [("getcwd", 1), ("readlink", 2), ("getgroups", 0), ("memset", 2), ("gethostname", 1)]

def socketLengths : List (String × Nat) :=
  [("_connect", 2), ("_bind", 2), ("setsockopt", 4), ("_getnameinfo", 1), ("_getnameinfo", 3),
    ("_getnameinfo", 5)]

/-- The narrowing of the integer that the operation `op` takes at `index`, if it is narrowed. -/
def at? (op : String) (index : Nat) : Option Narrowing :=
  if (op, index) ∈ unbounded then none
  else if (op, index) ∈ sizes then some size
  else if (op, index) ∈ socketLengths then some socketLength
  else some cInt

end Narrowing

/-- The place of the argument that the error points at, if it points at one. -/
def CallError.index? : CallError → Option Nat
  | memory _ index _ => some index
  | interiorNul _ index => some index
  | outOfRange _ index _ => some index
  | _ => none

/-- What a call of the operation `op` with these arguments can fail with: where the error points at
an argument, that argument is at fault. -/
inductive Blames (op : String) (args : List Variant) : CallError → Prop where
  | other {e : CallError} (hop : e.operation? = some op) (h : e.index? = none) : Blames op args e
  | null {index : Nat} {length : Option UInt64} (h : args[index]? = some (.pointer ⟨0, length⟩))
      : Blames op args (.memory op index .null)
  | outOfBounds {index : Nat} {address length needed : UInt64}
      (h : args[index]? = some (.pointer ⟨address, some length⟩)) (hneeded : length < needed)
      : Blames op args (.memory op index (.outOfBounds needed length))
  | interiorNul {index : Nat} {text : String} (h : args[index]? = some (.str text))
      (hnul : '\x00' ∈ text.toList) : Blames op args (.interiorNul op index)
  | outOfRange {index : Nat} {value : Int64} {narrowing : Narrowing}
      (h : args[index]? = some (.int value)) (hnarrowing : Narrowing.at? op index = some narrowing)
      (hvalue : ¬ narrowing.Fits value.toInt) : Blames op args (.outOfRange op index value)
  | unknownLevel {symbol : String} (h : args[1]? = some (.symbol symbol))
      : Blames op args (.unknownConstant ("SOL_" ++ symbol))
  | unknownOption {symbol : String} (h : args[2]? = some (.symbol symbol))
      : Blames op args (.unknownConstant ("SO_" ++ symbol))

namespace Blames

variable {op : String} {args : List Variant} {e : CallError}

theorem operation?_eq (h : Blames op args e)
    : e.operation? = some op ∨ ∃ name, e = .unknownConstant name := by
  cases h with
  | other hop => exact Or.inl hop
  | null | outOfBounds | interiorNul | outOfRange => exact Or.inl rfl
  | unknownLevel | unknownOption => exact Or.inr ⟨_, rfl⟩

theorem ne_width (h : Blames op args e) (op' : String) (index : Nat) (width : UInt64)
    : e ≠ .memory op' index (.width width) := by
  intro heq
  subst heq
  cases h with
  | other _ h => cases h

theorem index_lt_length (h : Blames op args e) {index : Nat} (hindex : e.index? = some index)
    : index < args.length := by
  cases h with
  | other _ h =>
    rw [h] at hindex
    cases hindex
  | null h | outOfBounds h | interiorNul h | outOfRange h =>
    cases hindex
    have ⟨hlt, _⟩ := List.getElem?_eq_some_iff.mp h
    exact hlt
  | unknownLevel | unknownOption => cases hindex

theorem of_set {text : String} (htext : '\x00' ∉ text.toList)
    (h : Blames op (args.set 0 (.str text)) e) : Blames op args e := by
  have hkept (index : Nat) (v : Variant) (hv : (args.set 0 (.str text))[index]? = some v)
      : v = .str text ∨ args[index]? = some v := by
    cases args with
    | nil => cases hv
    | cons first rest =>
      cases index with
      | zero =>
        cases hv
        exact Or.inl rfl
      | succ index => exact Or.inr hv
  cases h with
  | other hop h => exact .other hop h
  | null h => exact .null ((hkept _ _ h).resolve_left nofun)
  | outOfBounds h hneeded => exact .outOfBounds ((hkept _ _ h).resolve_left nofun) hneeded
  | interiorNul h hnul =>
    rcases hkept _ _ h with heq | h
    . cases heq
      exact absurd hnul htext
    . exact .interiorNul h hnul
  | outOfRange h hnarrowing hvalue =>
    exact .outOfRange ((hkept _ _ h).resolve_left nofun) hnarrowing hvalue
  | unknownLevel h => exact .unknownLevel ((hkept _ _ h).resolve_left nofun)
  | unknownOption h => exact .unknownOption ((hkept _ _ h).resolve_left nofun)

end Blames

namespace View

/-- The access through the view fails only where it leaves a region of known length. -/
def Guarded (v : View) (x : Except MemoryFault α) : Prop :=
  ∀ fault, x = .error fault →
    ∃ needed length, fault = .outOfBounds needed length ∧ v.length = some length ∧ length < needed

theorem guarded_check (v : View) {offset size : UInt64}
    (h : offset.toNat + size.toNat < UInt64.size) : v.Guarded (v.check offset size) := by
  intro fault hfault
  unfold check at hfault
  dsimp only at hfault
  rw [if_neg (by omega)] at hfault
  split at hfault
  . next length hlength =>
    split at hfault
    . next hlt =>
      cases hfault
      refine ⟨_, length, rfl, hlength, ?_⟩
      rw [UInt64.lt_iff_toNat_lt, UInt64.toNat_ofNat_of_lt' h]
      exact hlt
    . cases hfault
  . cases hfault

theorem guarded_check_zero (v : View) (size : UInt64) : v.Guarded (v.check 0 size) := by
  apply guarded_check
  have := size.toNat_lt
  simpa using this

theorem Guarded.bind {v : View} {x : Except MemoryFault α} {f : α → Except MemoryFault β}
    (hx : v.Guarded x) (hf : ∀ a, v.Guarded (f a)) : v.Guarded (x >>= f) := by
  cases hrun : x with
  | error fault =>
    intro fault' hfault
    cases hfault
    exact hx fault hrun
  | ok a => exact hf a

theorem guarded_pure (v : View) (a : α) : v.Guarded (pure a) := by
  intro fault hfault
  cases hfault

theorem guarded_fill (v : View) (byte : UInt8) (size : UInt64) (m : Memory)
    : v.Guarded (v.fill byte size m) := by
  apply (v.guarded_check_zero size).bind
  intro _
  apply guarded_pure

theorem guarded_readUInt (v : View) {width : UInt64} (hwidth : isWidth width) (m : Memory)
    : v.Guarded (v.readUInt 0 width m) := by
  apply (v.guarded_check_zero width).bind
  intro _
  rw [if_pos hwidth]
  apply guarded_pure

theorem guarded_writeUInt (v : View) {offset width : UInt64} (hwidth : isWidth width)
    (h : offset.toNat + width.toNat < UInt64.size) (value : UInt64) (m : Memory)
    : v.Guarded (v.writeUInt offset width value m) := by
  apply (v.guarded_check h).bind
  intro _
  rw [if_pos hwidth]
  apply guarded_pure

theorem guarded_writeAll (v : View) {n : UInt64} {ids : List UInt64}
    (h : (n.toNat + ids.length) * 4 < UInt64.size) (m : Memory)
    : v.Guarded (v.writeAll 4 n ids m) := by
  induction ids generalizing n m with
  | nil => apply guarded_pure
  | cons id rest ih =>
    simp only [UInt64.size, List.length_cons] at h
    have hoffset : (n * 4).toNat = n.toNat * 4 := by
      rw [UInt64.toNat_mul]
      apply Nat.mod_eq_of_lt
      simp only [UInt64.reduceToNat]
      omega
    have hnext : (n + 1).toNat = n.toNat + 1 := by
      rw [UInt64.toNat_add]
      apply Nat.mod_eq_of_lt
      simp only [UInt64.reduceToNat]
      omega
    have hfirst : (n * 4).toNat + (4 : UInt64).toNat < UInt64.size := by
      rw [hoffset]
      simp only [UInt64.size, UInt64.reduceToNat]
      omega
    apply (v.guarded_writeUInt rfl hfirst id m).bind
    intro m
    apply ih
    rw [hnext]
    simp only [UInt64.size]
    omega

theorem guarded_writeIds (v : View) {ids : List UInt64} (h : ids.length * 4 < UInt64.size)
    (limit : UInt64) (m : Memory) : v.Guarded (v.writeIds 4 ids limit m) := by
  have hchosen : (ids.take limit.toNat).length ≤ ids.length := by
    apply List.length_take_le'
  apply (v.guarded_check_zero _).bind
  intro _
  have hall : ((0 : UInt64).toNat + (ids.take limit.toNat).length) * 4 < UInt64.size := by
    rw [UInt64.toNat_zero]
    omega
  apply (v.guarded_writeAll hall m).bind
  intro m
  apply guarded_pure

end View

namespace Invocation

variable {op : String} {args : List Variant} {index : Nat}

theorem blames_arg : FailsWith (Blames op args) (arg ⟨op, args⟩ index) := by
  unfold arg
  split
  . apply FailsWith.pure
  . exact .throw (.other rfl rfl)

theorem blames_decode {expected : Shape} {read : Variant → Option α}
    : FailsWith (Blames op args) (decode ⟨op, args⟩ index expected read) := by
  apply FailsWith.bind blames_arg
  intro v _
  split
  . apply FailsWith.pure
  . exact .throw (.other rfl rfl)

theorem blames_bounded {narrowing : Narrowing} (h : Narrowing.at? op index = some narrowing)
    {low high : Int}
    (hrange : ∀ n : Int64, narrowing.Fits n.toInt → low ≤ n.toInt ∧ n.toInt ≤ high)
    : FailsWith (Blames op args) (bounded ⟨op, args⟩ index low high) := by
  unfold bounded
  apply FailsWith.bind blames_decode
  intro value hvalue
  split
  . apply FailsWith.pure
  . next hout =>
    have harg := (decodes_int _ index).value value hvalue
    exact .throw (.outOfRange harg h fun hfits => hout (hrange value hfits))

theorem blames_cInt (h : Narrowing.at? op index = some .cInt)
    : FailsWith (Blames op args) (cInt ⟨op, args⟩ index) := by
  apply FailsWith.bind (blames_bounded h ?_)
  . intro value _
    apply FailsWith.pure
  . intro n hfits
    unfold Narrowing.Fits at hfits
    omega

theorem blames_size (h : Narrowing.at? op index = some .size)
    : FailsWith (Blames op args) (size ⟨op, args⟩ index) := by
  apply FailsWith.bind (blames_bounded h ?_)
  . intro value _
    apply FailsWith.pure
  . intro n hfits
    have := n.toInt_lt
    exact ⟨hfits, by omega⟩

theorem blames_socketLength (h : Narrowing.at? op index = some .socketLength)
    : FailsWith (Blames op args) (socketLength ⟨op, args⟩ index) := by
  apply FailsWith.bind (blames_bounded h ?_)
  . intro value _
    apply FailsWith.pure
  . intro n hfits
    unfold Narrowing.Fits at hfits
    omega

theorem blames_cString : FailsWith (Blames op args) (cString ⟨op, args⟩ index) := by
  unfold cString
  apply FailsWith.bind blames_decode
  intro text htext
  split
  . apply FailsWith.pure
  . next hnone =>
    have harg := (decodes_str _ index).value text htext
    exact .throw (.interiorNul harg (CString.ofText?_eq_none.mp hnone))

theorem blames_memory {view : View} {x : Except MemoryFault α} (h : view.Guarded x)
    (hview : args[index]? = some (.pointer ⟨view.base, view.length⟩))
    : FailsWith (Blames op args) (memory ⟨op, args⟩ index x) := by
  cases x with
  | ok a => apply FailsWith.pure
  | error fault =>
    obtain ⟨needed, length, rfl, hlength, hneeded⟩ := h fault rfl
    rw [hlength] at hview
    exact .throw (.outOfBounds hview hneeded)

theorem blames_view : FailsWith (Blames op args) (view ⟨op, args⟩ index) := by
  unfold view
  apply FailsWith.bind blames_decode
  intro p hp
  have harg := (decodes_pointer _ index).value p hp
  rcases p with ⟨address, length⟩
  unfold View.acquire
  dsimp only
  split
  . next hnull =>
    subst hnull
    exact .throw (.null harg)
  . apply FailsWith.pure

theorem blames_nullableView : FailsWith (Blames op args) (nullableView ⟨op, args⟩ index) := by
  unfold nullableView
  apply FailsWith.bind blames_arg
  intro v _
  split
  . apply FailsWith.pure
  . split
    . apply FailsWith.pure
    . apply FailsWith.bind blames_view
      intro view _
      apply FailsWith.pure
  . apply FailsWith.bind blames_view
    intro view _
    apply FailsWith.pure

theorem blames_cString_bind {f : CString → Except CallError β}
    (hf : ∀ s, FailsWith (Blames op args) (f s))
    : FailsWith (Blames op args) (cString ⟨op, args⟩ index >>= f) := by
  exact blames_cString.bind fun s _ => hf s

theorem blames_cInt_bind {f : Int32 → Except CallError β}
    (h : Narrowing.at? op index = some .cInt) (hf : ∀ n, FailsWith (Blames op args) (f n))
    : FailsWith (Blames op args) (cInt ⟨op, args⟩ index >>= f) := by
  exact (blames_cInt h).bind fun n _ => hf n

theorem blames_view_bind {f : View → Except CallError β}
    (hf : ∀ view : View, args[index]? = some (.pointer ⟨view.base, view.length⟩) →
      FailsWith (Blames op args) (f view))
    : FailsWith (Blames op args) (view ⟨op, args⟩ index >>= f) := by
  apply blames_view.bind
  intro view hview
  exact hf view ((decodes_view _ index).value view hview)

theorem blames_check_bind {view : View} {f : Unit → Except CallError β}
    (hview : args[index]? = some (.pointer ⟨view.base, view.length⟩)) (size : UInt64)
    (hf : ∀ u, FailsWith (Blames op args) (f u))
    : FailsWith (Blames op args) (memory ⟨op, args⟩ index (view.check 0 size) >>= f) := by
  exact (blames_memory (view.guarded_check_zero size) hview).bind fun u _ => hf u

theorem blames_region (count : UInt64)
    : FailsWith (Blames op args) (region ⟨op, args⟩ index count) := by
  apply blames_view_bind
  intro view hview
  apply blames_check_bind hview
  intro _
  apply FailsWith.pure

end Invocation

namespace Request

open Invocation

variable {op : String} {args : List Variant}

theorem blames_sizedRegion {index lengthIndex : Nat}
    (h : Narrowing.at? op lengthIndex = some .socketLength)
    : FailsWith (Blames op args) (sizedRegion ⟨op, args⟩ index lengthIndex) := by
  apply blames_view_bind
  intro view hview
  apply FailsWith.bind (blames_socketLength h)
  intro length _
  apply blames_check_bind hview
  intro _
  apply FailsWith.pure

/-- The length that the region is checked for is the one in memory; too short a region is blamed all
the same, not the place of the length. -/
theorem blames_outputRegion (memory : Memory) {index lengthIndex : Nat}
    : FailsWith (Blames op args) (outputRegion memory ⟨op, args⟩ index lengthIndex) := by
  apply blames_view_bind
  intro out hout
  apply FailsWith.bind (blames_region lengthSize)
  intro length hlength
  have ⟨hlength, _⟩ := (decodes_region _ lengthIndex lengthSize).value length hlength
  apply FailsWith.bind (blames_memory (length.guarded_readUInt rfl memory) hlength)
  intro capacity _
  apply blames_check_bind hout
  intro _
  apply FailsWith.pure

theorem blames_socketOption (memory : Memory) (level name : Int32)
    (h : Narrowing.at? op 0 = some .cInt)
    : FailsWith (Blames op args) (socketOption memory ⟨op, args⟩ level name) := by
  apply FailsWith.bind (blames_outputRegion memory)
  intro region _
  apply blames_cInt_bind h
  intro fd
  apply FailsWith.pure

theorem blames_nameOutput {index : Nat} {what : String}
    (h : Narrowing.at? op (index + 1) = some .socketLength)
    : FailsWith (Blames op args) (nameOutput ⟨op, args⟩ index what) := by
  apply FailsWith.bind (blames_socketLength h)
  intro length _
  apply FailsWith.bind blames_nullableView
  intro view hview
  have harg := (decodes_nullableView _ index).value view hview
  cases view with
  | none =>
    dsimp only
    split
    . apply FailsWith.pure
    . exact .throw (.other rfl rfl)
  | some view =>
    dsimp only
    split
    . exact .throw (.other rfl rfl)
    . apply blames_check_bind harg
      intro _
      apply FailsWith.pure

end Request

end NativeCall
