import NativeCall.Proofs.Choice
import NativeCall.Proofs.Decoding
import NativeCall.Request.Sockets

/-!
This module contains what decoding can complain of where a guard accepts the arguments: hardly ever
that an argument is something else than expected.
-/

namespace NativeCall

variable {κ η α β : Type} {P : CallError → Prop}

/-- The error says that the arguments are not what was expected, in number, in shape or together. -/
def CallError.isMismatch : CallError → Bool
  | arityMismatch .. => true
  | invalidArgument .. => true
  | _ => false

structure FailsWith (P : CallError → Prop) (x : Except CallError α) : Prop where
  error : ∀ e, x = .error e → P e

namespace FailsWith

theorem ok {x : Except CallError α} {a : α} (h : x = .ok a) : FailsWith P x := by
  constructor
  intro e he
  rw [h] at he
  cases he

theorem pure (a : α) : FailsWith P (Pure.pure a) := by
  exact ok rfl

theorem throw {e : CallError} (h : P e) : FailsWith P (MonadExcept.throw e : Except CallError α) := by
  constructor
  intro e' he
  cases he
  exact h

theorem bind {x : Except CallError α} {f : α → Except CallError β} (hx : FailsWith P x)
    (hf : ∀ a, x = .ok a → FailsWith P (f a)) : FailsWith P (x >>= f) := by
  cases hrun : x with
  | error e =>
    constructor
    intro e' he
    cases he
    exact hx.error e hrun
  | ok a => exact hf a hrun

end FailsWith

structure Call.FailsWith (P : CallError → Prop) (x : Call κ η α) : Prop where
  error : ∀ w e, (x w).1 = .error e → P e

namespace Call.FailsWith

theorem pure (a : α) : FailsWith P (Pure.pure a : Call κ η α) := by
  constructor
  intro w e he
  cases he

theorem throw {e : CallError} (h : P e) : FailsWith P (MonadExcept.throw e : Call κ η α) := by
  constructor
  intro w e' he
  cases he
  exact h

theorem bind {x : Call κ η α} {f : α → Call κ η β} (hx : FailsWith P x)
    (hf : ∀ a, FailsWith P (f a)) : FailsWith P (x >>= f) := by
  constructor
  intro w e he
  have hxw := hx.error w
  rw [Call.run_bind] at he
  generalize x w = run at he hxw
  rcases run with ⟨result, w'⟩
  cases result with
  | error e' =>
    cases he
    exact hxw e rfl
  | ok a => exact (hf a).error w' e he

theorem liftExcept {x : Except CallError α} (h : NativeCall.FailsWith P x)
    : FailsWith P (liftM x : Call κ η α) := by
  constructor
  intro w e he
  exact h.error e he

theorem liftAction (x : Action κ η α) : FailsWith P (liftM x : Call κ η α) := by
  constructor
  intro w e he
  cases he

theorem read : FailsWith P (get : Call κ η (World κ η)) := by
  constructor
  intro w e he
  cases he

theorem write (f : World κ η → World κ η) : FailsWith P (modify f : Call κ η PUnit) := by
  constructor
  intro w e he
  cases he

end Call.FailsWith

/-- What a path of the operation `inv.op` may complain of on arguments that its guard accepts. -/
inductive Complaint (guard : Guard) (inv : Invocation) : CallError → Prop where
  | other {e : CallError} (h : e.isMismatch = false) : Complaint guard inv e
  -- the guards of a resolution admit anything for the hints
  | hints {service : Shape} {v : Variant} (hop : inv.op = "_getaddrinfo")
      (hguard : guard = [.str, service, .any, .pointer]) (hservice : service = .str ∨ service = .nil)
      (harg : inv.args[2]? = some v) (hnil : v ≠ .nil) (hpointer : ∀ p, v ≠ .pointer p)
      : Complaint guard inv
          (.invalidArgument inv.op s!"argument {2}: expected pointer, got {v.typeName}")
  | superfluousLength {index : Nat} {what : String} {length : Int64}
      (hop : inv.op = "_getnameinfo") (hplace : (index, what) ∈ [(2, "host"), (4, "service")])
      (harg : inv.args[index]? = some .nil ∨
        ∃ known, inv.args[index]? = some (.pointer ⟨0, known⟩))
      (hlength : inv.args[index + 1]? = some (.int length)) (hne : length ≠ 0)
      : Complaint guard inv
          (.invalidArgument inv.op s!"{what} length must be 0 without a {what} buffer")
  | missingLength {index : Nat} {what : String} {p : Pointer} (hop : inv.op = "_getnameinfo")
      (hplace : (index, what) ∈ [(2, "host"), (4, "service")])
      (harg : inv.args[index]? = some (.pointer p)) (hne : p.address ≠ 0)
      (hlength : inv.args[index + 1]? = some (.int 0))
      : Complaint guard inv (.invalidArgument inv.op s!"{what} length must be positive")

namespace Invocation

section Accepted

variable {inv : Invocation} {guard : Guard} (hfits : List.Forall₂ Shape.Admits guard inv.args)
  {index : Nat}
include hfits

theorem exists_arg {shape : Shape} (h : guard[index]? = some shape)
    : ∃ v, inv.args[index]? = some v ∧ shape.Admits v := by
  have ⟨hlt, hshape⟩ := List.getElem?_eq_some_iff.mp h
  have hlt' : index < inv.args.length := by
    rw [← hfits.length_eq]
    exact hlt
  refine ⟨inv.args[index], List.getElem?_eq_getElem hlt', ?_⟩
  rw [← hshape]
  exact hfits.get hlt hlt'

omit hfits in
theorem decode_eq {v : Variant} (harg : inv.args[index]? = some v) (expected : Shape)
    (read : Variant → Option α)
    : inv.decode index expected read =
        match read v with
        | some a => .ok a
        | none => .error (inv.unexpected index expected) := by
  unfold decode arg
  rw [harg]
  rfl

theorem failsWith_decode {shape : Shape} {read : Variant → Option α}
    (h : guard[index]? = some shape) (hread : ∀ v, shape.Admits v → ∃ a, read v = some a)
    : FailsWith P (inv.decode index shape read) := by
  have ⟨v, harg, hadmits⟩ := exists_arg hfits h
  have ⟨a, ha⟩ := hread v hadmits
  rw [decode_eq harg, ha]
  exact .ok rfl

theorem failsWith_int (h : guard[index]? = some .int) : FailsWith P (inv.int index) := by
  apply failsWith_decode hfits h
  rintro _ ⟨⟩
  exact ⟨_, rfl⟩

theorem failsWith_str (h : guard[index]? = some .str) : FailsWith P (inv.str index) := by
  apply failsWith_decode hfits h
  rintro _ ⟨⟩
  exact ⟨_, rfl⟩

theorem failsWith_symbol (h : guard[index]? = some .symbol) : FailsWith P (inv.symbol index) := by
  apply failsWith_decode hfits h
  rintro _ ⟨⟩
  exact ⟨_, rfl⟩

theorem failsWith_pointer (h : guard[index]? = some .pointer)
    : FailsWith P (inv.pointer index) := by
  apply failsWith_decode hfits h
  rintro _ ⟨⟩
  exact ⟨_, rfl⟩

theorem failsWith_bounded (h : guard[index]? = some .int) (low high : Int)
    : FailsWith (Complaint guard inv) (inv.bounded index low high) := by
  unfold bounded
  apply FailsWith.bind (failsWith_int hfits h)
  intro value _
  split
  . apply FailsWith.pure
  . exact .throw (.other rfl)

theorem failsWith_cInt (h : guard[index]? = some .int)
    : FailsWith (Complaint guard inv) (inv.cInt index) := by
  apply FailsWith.bind (failsWith_bounded hfits h _ _)
  intro value _
  apply FailsWith.pure

theorem failsWith_size (h : guard[index]? = some .int)
    : FailsWith (Complaint guard inv) (inv.size index) := by
  apply FailsWith.bind (failsWith_bounded hfits h _ _)
  intro value _
  apply FailsWith.pure

theorem failsWith_socketLength (h : guard[index]? = some .int)
    : FailsWith (Complaint guard inv) (inv.socketLength index) := by
  apply FailsWith.bind (failsWith_bounded hfits h _ _)
  intro value _
  apply FailsWith.pure

theorem failsWith_cString (h : guard[index]? = some .str)
    : FailsWith (Complaint guard inv) (inv.cString index) := by
  unfold cString
  apply FailsWith.bind (failsWith_str hfits h)
  intro text _
  split
  . apply FailsWith.pure
  . exact .throw (.other rfl)

omit hfits in
theorem failsWith_memory (index : Nat) (r : Except MemoryFault α)
    : FailsWith (Complaint guard inv) (inv.memory index r) := by
  unfold memory
  split
  . exact .ok rfl
  . exact .throw (.other rfl)

omit hfits in
theorem failsWith_view_of_pointer (h : FailsWith (Complaint guard inv) (inv.pointer index))
    : FailsWith (Complaint guard inv) (inv.view index) := by
  unfold view
  apply FailsWith.bind h
  intro p _
  apply failsWith_memory

theorem failsWith_view (h : guard[index]? = some .pointer)
    : FailsWith (Complaint guard inv) (inv.view index) := by
  exact failsWith_view_of_pointer (failsWith_pointer hfits h)

theorem failsWith_nullableView {shape : Shape} (h : guard[index]? = some shape)
    (hother : ∀ v, inv.args[index]? = some v → v ≠ .nil → (∀ p, v ≠ .pointer p) →
      Complaint guard inv (inv.unexpected index .pointer))
    : FailsWith (Complaint guard inv) (inv.nullableView index) := by
  have ⟨v, hv, _⟩ := exists_arg hfits h
  have harg : inv.arg index = .ok v := by
    simp only [arg, hv]
  have hview : v ≠ .nil → FailsWith (Complaint guard inv) (inv.view index) := by
    intro hnil
    apply failsWith_view_of_pointer
    unfold pointer
    rw [decode_eq hv]
    cases v with
    | pointer p => exact .ok rfl
    | nil => contradiction
    | bool | int | float | str | symbol => exact .throw (hother _ hv hnil nofun)
  unfold nullableView
  apply FailsWith.bind (.ok harg)
  intro v' hv'
  rw [harg] at hv'
  cases hv'
  split
  . apply FailsWith.pure
  . split
    . apply FailsWith.pure
    . apply FailsWith.bind (hview nofun)
      intro view _
      apply FailsWith.pure
  . next hnil _ =>
    apply FailsWith.bind (hview hnil)
    intro view _
    apply FailsWith.pure

/-- A guard that leaves nil and pointers as the only choices leaves no complaint. -/
theorem failsWith_optional {shape : Shape} (h : guard[index]? = some shape)
    (hshape : shape = .nil ∨ shape = .pointer)
    : FailsWith (Complaint guard inv) (inv.nullableView index) := by
  apply failsWith_nullableView hfits h
  intro v hv hnil hpointer
  have ⟨v', hv', hadmits⟩ := exists_arg hfits h
  rw [hv] at hv'
  cases hv'
  cases hadmits with
  | nil => exact absurd rfl hnil
  | pointer p => exact absurd rfl (hpointer p)
  | any | int | str | symbol => simp at hshape

theorem failsWith_region (h : guard[index]? = some .pointer) (count : UInt64)
    : FailsWith (Complaint guard inv) (inv.region index count) := by
  unfold region
  apply FailsWith.bind (failsWith_view hfits h)
  intro view _
  apply FailsWith.bind (failsWith_memory index _)
  intro _ _
  apply FailsWith.pure

theorem failsWith_cString_bind {f : CString → Except CallError β}
    (h : guard[index]? = some .str) (hf : ∀ s, FailsWith (Complaint guard inv) (f s))
    : FailsWith (Complaint guard inv) (inv.cString index >>= f) := by
  exact (failsWith_cString hfits h).bind fun s _ => hf s

theorem failsWith_cInt_bind {f : Int32 → Except CallError β}
    (h : guard[index]? = some .int) (hf : ∀ n, FailsWith (Complaint guard inv) (f n))
    : FailsWith (Complaint guard inv) (inv.cInt index >>= f) := by
  exact (failsWith_cInt hfits h).bind fun n _ => hf n

end Accepted

end Invocation

namespace Request

open Invocation

variable {inv : Invocation} {guard : Guard} (hfits : List.Forall₂ Shape.Admits guard inv.args)
include hfits

theorem failsWith_sizedRegion {index lengthIndex : Nat} (h : guard[index]? = some .pointer)
    (hlength : guard[lengthIndex]? = some .int)
    : FailsWith (Complaint guard inv) (sizedRegion inv index lengthIndex) := by
  unfold sizedRegion
  apply FailsWith.bind (failsWith_view hfits h)
  intro view _
  apply FailsWith.bind (failsWith_socketLength hfits hlength)
  intro length _
  apply FailsWith.bind (failsWith_memory index _)
  intro _ _
  apply FailsWith.pure

theorem failsWith_outputRegion (memory : Memory) {index lengthIndex : Nat}
    (h : guard[index]? = some .pointer) (hlength : guard[lengthIndex]? = some .pointer)
    : FailsWith (Complaint guard inv) (outputRegion memory inv index lengthIndex) := by
  unfold outputRegion
  apply FailsWith.bind (failsWith_view hfits h)
  intro out _
  apply FailsWith.bind (failsWith_region hfits hlength _)
  intro length _
  apply FailsWith.bind (failsWith_memory lengthIndex _)
  intro capacity _
  apply FailsWith.bind (failsWith_memory index _)
  intro _ _
  apply FailsWith.pure

theorem failsWith_socketOption (memory : Memory) (level name : Int32)
    (hfd : guard[0]? = some .int) (hvalue : guard[3]? = some .pointer)
    (hlength : guard[4]? = some .pointer)
    : FailsWith (Complaint guard inv) (socketOption memory inv level name) := by
  unfold socketOption
  apply FailsWith.bind (failsWith_outputRegion hfits memory hvalue hlength)
  intro region _
  apply failsWith_cInt_bind hfits hfd
  intro fd
  apply FailsWith.pure

/-- Of all that a name's region and length can be, only two combinations are complained of. -/
theorem failsWith_nameOutput {index : Nat} {what : String} {shape : Shape}
    (hop : inv.op = "_getnameinfo") (hplace : (index, what) ∈ [(2, "host"), (4, "service")])
    (h : guard[index]? = some shape) (hshape : shape = .nil ∨ shape = .pointer)
    (hlength : guard[index + 1]? = some .int)
    : FailsWith (Complaint guard inv) (nameOutput inv index what) := by
  unfold nameOutput
  apply FailsWith.bind (failsWith_socketLength hfits hlength)
  intro length hlength
  have ⟨n, hn, hsize⟩ := (decodes_socketLength inv (index + 1)).value length hlength
  apply FailsWith.bind (failsWith_optional hfits h hshape)
  intro view hview
  have harg := (decodes_nullableView inv index).value view hview
  have hzero : length = 0 ↔ n = 0 := by
    rw [← UInt32.toNat_inj, ← Int64.toInt_inj, ← hsize]
    simp
  cases view with
  | none =>
    dsimp only
    split
    . apply FailsWith.pure
    . next hne => exact .throw (.superfluousLength hop hplace harg hn fun h => hne (hzero.mpr h))
  | some view =>
    dsimp only
    split
    . next h =>
      rw [hzero.mp h] at hn
      exact .throw (.missingLength hop hplace harg view.base_ne_zero hn)
    . apply FailsWith.bind (failsWith_memory index _)
      intro _ _
      apply FailsWith.pure

end Request

end NativeCall
