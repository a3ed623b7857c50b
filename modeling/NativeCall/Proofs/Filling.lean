import NativeCall.Host.Tracking
import NativeCall.Posix.Kernel
import NativeCall.Proofs.Settling
import NativeCall.Proofs.Storing

/-!
This module contains the filling of memory: what a call of it gives, which bytes it leaves, and each
way in which it is refused.
-/

namespace NativeCall

variable {κ η : Type}

namespace CallPath

/-- The memory that filling with a byte leaves. -/
def filled (inv : Invocation) (byte : UInt8) (m : Memory) : Except CallError Memory := do
  let view ← inv.view 0
  let size ← inv.size 2
  inv.memory 0 (view.fill byte size m)

theorem memset_eq (platform : Platform κ η) {inv : Invocation} {p : Pointer} {b : Int64}
    (hpointer : inv.args[0]? = some (.pointer p)) (hbyte : inv.args[1]? = some (.int b))
    (w : World κ η)
    : memset platform inv w =
        match filled inv b.toUInt64.toUInt8 w.memory with
        | .ok after => (.ok (.value (.ok (.pointer p))), { w with memory := after })
        | .error e => (.error e, w) := by
  unfold memset filled
  simp only [Call.run_bind, Call.run_liftExcept, Invocation.pointer_of_arg hpointer,
    Invocation.int_of_arg hbyte, Call.run_get, Call.run_modify, Call.run_pure]
  cases inv.view 0 with
  | error e => rfl
  | ok view =>
    cases inv.size 2 with
    | error e => rfl
    | ok size =>
      dsimp only [bind, Except.bind]
      cases inv.memory 0 (view.fill b.toUInt64.toUInt8 size w.memory) <;> rfl

section

variable {inv : Invocation} {p : Pointer} {n : Int64} (byte : UInt8) (m : Memory)
  (hpointer : inv.args[0]? = some (.pointer p))
include hpointer

theorem filled_of_null (hp : p.address = 0)
    : filled inv byte m = .error (.memory inv.op 0 .null) := by
  unfold filled
  rw [Invocation.view_of_null hpointer hp]
  rfl

variable (hp : p.address ≠ 0) (hsize : inv.args[2]? = some (.int n))
include hp hsize

theorem filled_of_negative (hn : n.toInt < 0)
    : filled inv byte m = .error (.outOfRange inv.op 2 n) := by
  unfold filled
  rw [Invocation.view_of_pointer hpointer hp, Invocation.size_of_negative hsize hn]
  rfl

theorem filled_of_nonneg (hn : 0 ≤ n.toInt)
    : filled inv byte m =
        inv.memory 0 (View.fill ⟨p.address, p.length, hp⟩ byte n.toUInt64 m) := by
  unfold filled
  rw [Invocation.view_of_pointer hpointer hp, Invocation.size_of_nonneg hsize hn]
  rfl

theorem filled_of_short (hn : 0 ≤ n.toInt) {length : UInt64} (hlength : p.length = some length)
    (h : length.toNat < n.toInt)
    : filled inv byte m = .error (.memory inv.op 0 (.outOfBounds n.toUInt64 length)) := by
  have hshort : length.toNat < n.toUInt64.toNat := by
    rwa [← Invocation.toNat_toUInt64 hn, Int.ofNat_lt] at h
  rw [filled_of_nonneg byte m hpointer hp hsize hn, View.fill_of_short hlength hshort]
  rfl

theorem filled_of_fits (hn : 0 ≤ n.toInt)
    (hfits : ∀ length, p.length = some length → n.toInt ≤ length.toNat)
    : filled inv byte m =
        .ok (m.write p.address.toNat (List.replicate n.toInt.toNat byte)) := by
  have hnat : n.toUInt64.toNat = n.toInt.toNat := by
    rw [← Invocation.toNat_toUInt64 hn, Int.toNat_natCast]
  have hview : (⟨p.address, p.length, hp⟩ : View).Fits n.toUInt64.toNat := by
    intro length hlength
    have := hfits length hlength
    omega
  rw [filled_of_nonneg byte m hpointer hp hsize hn, View.fill_of_fits hview, hnat]
  rfl

end

end CallPath

/-- What filling `n` bytes at the pointer with `b` in the memory `m` gives, and the memory that it
leaves. -/
inductive Pointer.Fills (p : Pointer) (b n : Int64) (m : Memory)
    : Except CallError Variant → Memory → Prop where
  | null (hp : p.address = 0) : Fills p b n m (.error (.memory "memset" 0 .null)) m
  | negative (hp : p.address ≠ 0) (hn : n.toInt < 0)
      : Fills p b n m (.error (.outOfRange "memset" 2 n)) m
  | tooLong {length : UInt64} (hp : p.address ≠ 0) (hn : 0 ≤ n.toInt)
      (hlength : p.length = some length) (h : length.toNat < n.toInt)
      : Fills p b n m (.error (.memory "memset" 0 (.outOfBounds n.toUInt64 length))) m
  | filled {after : Memory} (hp : p.address ≠ 0) (hn : 0 ≤ n.toInt)
      (hfits : ∀ length, p.length = some length → n.toInt ≤ length.toNat)
      (h : m.Stored p.address.toNat
        (List.replicate n.toInt.toNat (UInt8.ofNat (b.toInt % 256).toNat)) after)
      : Fills p b n m (.ok (.pointer p)) after

theorem Pointer.Fills.ok_iff {p : Pointer} {b n : Int64} {m after : Memory}
    {result : Except CallError Variant} (h : p.Fills b n m result after) (hp : p.address ≠ 0)
    {length : UInt64} (hlength : p.length = some length)
    : (∃ v, result = .ok v) ↔ 0 ≤ n.toInt ∧ n.toInt ≤ length.toNat := by
  cases h with
  | null hnull => exact absurd hnull hp
  | negative _ hn => simp [Int.not_le.mpr hn]
  | tooLong _ _ hlength' hlong =>
    cases hlength.symm.trans hlength'
    simp [Int.not_le.mpr hlong]
  | filled _ hn hfits _ => simp [hn, hfits length hlength]

theorem toUInt8_toUInt64 (b : Int64)
    : b.toUInt64.toUInt8 = UInt8.ofNat (b.toInt % 256).toNat := by
  apply UInt8.toNat_inj.mp
  have hb : b.toInt = _ := BitVec.toInt_eq_toNat_cond b.toBitVec
  have : b.toUInt64.toNat = b.toBitVec.toNat := rfl
  simp only [UInt64.toNat_toUInt8, UInt8.toNat_ofNat']
  split at hb <;> omega

namespace Registry

variable (config : BindingConfig) (platform : Platform κ η) (site name : String)
  (args : List Variant)

/-- The call gives the result and leaves the memory, and nothing else changes but that there may be
new lines in the log. -/
def Gives (w : World κ η) (result : Except CallError Variant) (after : Memory) : Prop :=
  ∃ log, (builtIn config).call platform site name args w =
    (result, { w with memory := after, log := log })

variable {config platform site name args} {w : World κ η}

theorem gives_of_dispatch (op : Operation κ η) (outcome : Except CallError Outcome)
    {after : Memory} (hfind : (builtIn config).find? op.name = some op)
    (hhook : op.onSuccess = none)
    (hadmits : (⟨op, config⟩ : BoundOperation κ η).Admits args w)
    (hquiet : BoundOperation.registerAfter w.errno outcome = w.errno)
    (hrun : ∀ log span, dispatch op.name op.arms platform args
      { w with log := log, span := span } =
        (outcome, { w with memory := after, log := log, span := span }))
    : Gives config platform site op.name args w
        ((⟨op, config⟩ : BoundOperation κ η).settle site outcome) after := by
  have ⟨log, hentered⟩ := BoundOperation.entered_eq ⟨op, config⟩ platform site args w
  have hrun' := hrun log (some op.name)
  rw [← hentered] at hrun'
  have ⟨log', hcall⟩ := BoundOperation.call_of_unhooked hhook platform site hadmits hrun'
  have hfound := (builtIn config).call_of_find?_eq_some platform site args hfind
  refine ⟨log', (congrFun hfound w).trans (hcall.trans ?_)⟩
  dsimp only
  rw [hquiet, hadmits.outside]

theorem call_of_open (op : Operation κ η) {active : String}
    (hfind : (builtIn config).find? op.name = some op) (harity : args.length = op.arity)
    (hsupported : op.policy ≠ .unsupported) (hspan : w.span = some active)
    : (builtIn config).call platform site op.name args w =
        (.error (.reentrant op.name active),
          platform.wrote (config.refusalLines site args (.reentrant op.name active)) w) := by
  have hmem := ((builtIn config).find?_eq_some_iff.mp hfind).1
  exact call_of_refused (.found hmem rfl (.reentrant harity hsupported hspan))

end Registry

namespace Table

theorem find?_memset (config : BindingConfig)
    : (Registry.builtIn config : Registry κ η).find? "memset" = some memset := by
  rfl

theorem dispatch_memset (platform : Platform κ η) (p : Pointer) (b n : Int64) (w : World κ η)
    : dispatch "memset" memset.arms platform [.pointer p, .int b, .int n] w =
        match CallPath.filled ⟨"memset", [.pointer p, .int b, .int n]⟩ b.toUInt64.toUInt8
          w.memory with
        | .ok after => (.ok (.value (.ok (.pointer p))), { w with memory := after })
        | .error e => (.error e, w) := by
  refine Dispatch.dispatch_of_final rfl (CallPath.memset_eq platform rfl rfl w) ?_
  split <;> nofun

end Table

namespace Registry

variable (config : BindingConfig) (platform : Platform κ η) (site : String) {w : World κ η}
  {p : Pointer} {b n : Int64}

theorem memset_gives_of_ok (hspan : w.span = none) {after : Memory}
    (h : CallPath.filled ⟨"memset", [.pointer p, .int b, .int n]⟩ b.toUInt64.toUInt8 w.memory =
      .ok after)
    : Gives config platform site "memset" [.pointer p, .int b, .int n] w (.ok (.pointer p))
        after := by
  refine gives_of_dispatch Table.memset (.ok (.value (.ok (.pointer p))))
    (Table.find?_memset config) rfl ⟨rfl, nofun, hspan⟩ rfl ?_
  intro log span
  exact (Table.dispatch_memset platform p b n _).trans (by rw [h])

theorem memset_gives_of_error (hspan : w.span = none) {e : CallError}
    (h : CallPath.filled ⟨"memset", [.pointer p, .int b, .int n]⟩ b.toUInt64.toUInt8 w.memory =
      .error e)
    : Gives config platform site "memset" [.pointer p, .int b, .int n] w (.error e) w.memory := by
  refine gives_of_dispatch Table.memset (.error e) (Table.find?_memset config) rfl
    ⟨rfl, nofun, hspan⟩ rfl ?_
  intro log span
  exact (Table.dispatch_memset platform p b n _).trans (by rw [h])

theorem exists_memset_gives (hspan : w.span = none) (p : Pointer) (b n : Int64)
    : ∃ result after, p.Fills b n w.memory result after ∧
        Gives config platform site "memset" [.pointer p, .int b, .int n] w result after := by
  by_cases hp : p.address = 0
  . exact ⟨_, _, .null hp, memset_gives_of_error config platform site hspan
      (CallPath.filled_of_null _ _ rfl hp)⟩
  by_cases hn : 0 ≤ n.toInt
  . by_cases hfits : ∀ length, p.length = some length → n.toInt ≤ length.toNat
    . refine ⟨_, _, .filled hp hn hfits ?_, memset_gives_of_ok config platform site hspan
        (CallPath.filled_of_fits _ _ rfl hp rfl hn hfits)⟩
      rw [toUInt8_toUInt64]
      apply Memory.stored_write
    . simp only [not_forall, Int.not_le] at hfits
      have ⟨length, hlength, hshort⟩ := hfits
      exact ⟨_, _, .tooLong hp hn hlength hshort, memset_gives_of_error config platform site hspan
        (CallPath.filled_of_short _ _ rfl hp rfl hn hlength hshort)⟩
  . rw [Int.not_le] at hn
    exact ⟨_, _, .negative hp hn, memset_gives_of_error config platform site hspan
      (CallPath.filled_of_negative _ _ rfl hp rfl hn)⟩

/-- Memory is filled from the pointer on with the low eight bits of the byte, as far as asked and no
further, or it is left alone. In a region of known length the size alone decides. -/
theorem memset_fills (w : World κ η) (p : Pointer) (b n : Int64)
    : let args : List Variant := [.pointer p, .int b, .int n]
      (w.span = none →
        (∃ result after, p.Fills b n w.memory result after ∧
          Gives config platform site "memset" args w result after) ∧
        ∀ length, p.address ≠ 0 → p.length = some length →
          ((∃ v, ((builtIn config).call platform site "memset" args w).1 = .ok v) ↔
            0 ≤ n.toInt ∧ n.toInt ≤ length.toNat)) ∧
      ∀ active, w.span = some active →
        (builtIn config).call platform site "memset" args w =
          (.error (.reentrant "memset" active),
            platform.wrote (config.refusalLines site args (.reentrant "memset" active)) w) := by
  intro args
  refine ⟨?_, ?_⟩
  . intro hspan
    have ⟨result, after, hfills, hgives⟩ :=
      exists_memset_gives config platform site hspan p b n
    refine ⟨⟨result, after, hfills, hgives⟩, ?_⟩
    intro length hp hlength
    have ⟨log, hcall⟩ := hgives
    rw [hcall]
    exact hfills.ok_iff hp hlength
  . intro active hspan
    exact call_of_open Table.memset (Table.find?_memset config) rfl nofun hspan

/-- A pointer into the middle of a region, and a byte of which only the low eight bits count. -/
theorem memset_fills_middle
    : let platform : Platform Posix TrackedDirectory :=
        ⟨Posix.kernel, .tracking Posix.kernel, .undisturbing⟩
      let w : World Posix TrackedDirectory :=
        ⟨⟨⟨[⟨16, #[1, 2, 3, 4]⟩], 64⟩, ⟨0⟩, .initial⟩, none, #[], ⟨Path.root⟩⟩
      let p : Pointer := ⟨17, some 3⟩
      ∃ after, Gives {} platform "here" "memset" [.pointer p, .int 0x1FF, .int 2] w
          (.ok (.pointer p)) after ∧
        (List.range' 16 4).map after.byte? = [some 1, some 0xFF, some 0xFF, some 4] := by
  intro platform w p
  have ⟨⟨result, after, hfills, hgives⟩, _⟩ := (memset_fills {} platform "here" w p 0x1FF 2).1 rfl
  cases hfills with
  | null hp => exact absurd hp (by decide)
  | negative _ hn => exact absurd hn (by decide)
  | tooLong _ _ hlength h =>
    cases hlength
    exact absurd h (by decide)
  | filled _ _ _ hstored =>
    refine ⟨after, hgives, ?_⟩
    rw [funext hstored]
    decide

end Registry

end NativeCall
