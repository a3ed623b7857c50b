import NativeCall.Host.Reentrant
import NativeCall.Posix.Kernel
import NativeCall.Proofs.Exchange
import NativeCall.Proofs.Lockstep
import NativeCall.Proofs.Reentry

/-!
This module contains that spans are neither nested nor left open, whatever the host does when it is
asked or told.
-/

namespace NativeCall

variable {κ η α β : Type}

namespace Action.KeepsSpan

theorem bind {x : Action κ η α} {f : α → Action κ η β} (hx : x.KeepsSpan)
    (hf : ∀ a, (f a).KeepsSpan) : (x >>= f).KeepsSpan := by
  intro w
  rw [Action.run_bind, hf, hx]

theorem withHost {θ : Type} {x : Action κ θ α} (h : x.KeepsSpan) (start : θ)
    : (Action.withHost start x : Action κ η (α × θ)).KeepsSpan := by
  intro w
  exact h { w with host := start }

end Action.KeepsSpan

/-- Code outside the library: steps of its own, which cannot reach the span, and calls on any host,
through tables whose hooks are such code too. -/
inductive Foreign : {η α : Type} → Action κ η α → Prop where
  | step {η α : Type} {x : Action κ η α} (h : x.KeepsSpan) : Foreign x
  | bind {η α β : Type} {x : Action κ η α} {f : α → Action κ η β} (hx : Foreign x)
      (hf : ∀ a, Foreign (f a)) : Foreign (x >>= f)
  | call {η θ : Type} (start : θ) (r : Registry κ θ) (platform : Platform κ θ)
      (site name : String) (args : List Variant)
      (hhook : ∀ op hook, r.find? name = some op → op.onSuccess = some hook →
        Foreign (hook platform args))
      : Foreign (Action.withHost start (r.call platform site name args) :
          Action κ η (Except CallError Variant × θ))

theorem Foreign.keepsSpan {x : Action κ η α} (h : Foreign x) : x.KeepsSpan := by
  induction h with
  | step h => exact h
  | bind _ _ ihx ihf => exact ihx.bind ihf
  | call start r platform site name args _ ih =>
    exact (Registry.call_keepsSpan ih site).withHost start

/-- Inside the span of `active`, `y` does what `x` does, except that it makes none of the calls that
`x` makes: it goes on with the refusal, and with what the refusal leaves in the log. -/
inductive Declines (active : String) : {α : Type} → Action κ η α → Action κ η α → Prop where
  | step {α : Type} {x : Action κ η α} (h : ∀ w, w.span = some active → (x w).2.span = some active)
      : Declines active x x
  | bind {α β : Type} {x y : Action κ η α} {f g : α → Action κ η β} (hx : Declines active x y)
      (hf : ∀ a, Declines active (f a) (g a)) : Declines active (x >>= f) (y >>= g)
  | call {θ : Type} (start : θ) (r : Registry κ θ) (platform : Platform κ θ)
      (site name : String) (args : List Variant)
      : Declines active (Action.withHost start (r.call platform site name args))
          (Action.withHost start (r.refuse platform site name args active))

def World.Inside (active : String) (v w : World κ η) : Prop :=
  v = w ∧ v.span = some active

theorem Declines.lockstep {active : String} {x y : Action κ η α} (h : Declines active x y)
    : Lockstep (World.Inside active) x y := by
  induction h with
  | step h =>
    rintro v _ ⟨rfl, hspan⟩
    exact ⟨rfl, rfl, h v hspan⟩
  | bind _ _ ihx ihf => exact Lockstep.bind ihx ihf
  | call start r platform site name args =>
    rintro v _ ⟨rfl, hspan⟩
    have hrefused : (Action.withHost start (r.call platform site name args)) v =
        (Action.withHost start (r.refuse platform site name args active)) v := by
      unfold Action.withHost
      rw [r.call_eq_refuse platform site name args hspan]
    have hspan' : (Action.withHost start (r.refuse platform site name args active) v).2.span =
        some active := by
      exact (r.span_refuse platform site name args active { v with host := start }).trans hspan
    rw [hrefused]
    exact ⟨rfl, rfl, hspan'⟩

/-- Inside the span of `active` the hosts answer alike, and leave the span open. -/
structure Host.AlikeInside (active : String) (host other : Host κ η) : Prop where
  currentDirectory : Lockstep (World.Inside active) host.currentDirectory other.currentDirectory
  socketConstant : ∀ name,
    Lockstep (World.Inside active) (host.socketConstant name) (other.socketConstant name)

/-- Asked inside the span of `active`, `other` answers as `host` does, but makes none of the calls
that `host` makes. -/
structure Host.Declines (active : String) (host other : Host κ η) : Prop where
  currentDirectory : NativeCall.Declines active host.currentDirectory other.currentDirectory
  socketConstant : ∀ name,
    NativeCall.Declines active (host.socketConstant name) (other.socketConstant name)

theorem Host.Declines.alikeInside {active : String} {host other : Host κ η}
    (h : host.Declines active other) : host.AlikeInside active other := by
  constructor
  . exact h.currentDirectory.lockstep
  . intro name
    exact (h.socketConstant name).lockstep

namespace CallRequest

variable {κ : Type} (kernel : Kernel κ) (logger : Logger) (site active : String)

/-- What comes of the call inside the span of `active`, without making it. -/
def refused (request : CallRequest) : Action κ η (Except CallError Variant) := do
  let platform : Platform κ TrackedDirectory := ⟨kernel, Host.tracking kernel, logger⟩
  let registry : Registry κ TrackedDirectory := Registry.builtIn {}
  let (result, _) ← Action.withHost ⟨Path.root⟩
    (registry.refuse platform site request.op request.args active)
  return result

theorem run_declines (request : CallRequest)
    : Declines active (request.run kernel logger site : Action κ η (Except CallError Variant))
        (request.refused kernel logger site active) := by
  apply Declines.bind (.call _ _ _ _ _ _)
  intro answer
  exact .step fun _ hspan => hspan

end CallRequest

/-- The host that makes no call when it is asked inside the span of `active`, and answers with the
text of the refusal. -/
def Host.refused {κ : Type} (kernel : Kernel κ) (logger : Logger) (site active : String)
    : Host κ CallRequest where
  currentDirectory := do
    return CallRequest.describe (← (← get).host.refused kernel logger site active)
  setCurrentDirectory := (reentrant kernel logger site).setCurrentDirectory
  socketConstant := (reentrant kernel logger site).socketConstant

theorem Host.reentrant_declines {κ : Type} (kernel : Kernel κ) (logger : Logger)
    (site active : String)
    : (reentrant kernel logger site).Declines active (refused kernel logger site active) := by
  constructor
  . apply NativeCall.Declines.bind (.step fun _ hspan => hspan)
    intro w
    apply NativeCall.Declines.bind (w.host.run_declines kernel logger site active)
    intro result
    exact .step fun _ hspan => hspan
  . intro name
    exact .step fun _ hspan => hspan

/-- Inside their span the arms of the operation leave it open, and of their host they see no more
than its answers. -/
def Operation.Confined (op : Operation κ η) : Prop :=
  ∀ (platform : Platform κ η) (other : Host κ η), platform.host.AlikeInside op.name other →
    ∀ arm ∈ op.arms, ∀ inv,
      Lockstep (World.Inside op.name) (arm.path platform inv)
        (arm.path { platform with host := other } inv)

theorem Table.builtIn_confined {op : Operation κ η} (hop : op ∈ builtIn) : op.Confined := by
  intro platform other h arm harm inv
  have sim : Simulation (World.Inside op.name) platform { platform with host := other } := by
    constructor
    case currentDirectory => exact h.currentDirectory
    case socketConstant => exact h.socketConstant
    case run =>
      rintro reply request v _ ⟨rfl, hspan⟩
      exact ⟨rfl, rfl, hspan⟩
    case memory =>
      rintro v _ ⟨rfl, _⟩
      rfl
    case errno =>
      rintro v _ ⟨rfl, _⟩
      rfl
    case setMemory =>
      rintro v _ ⟨rfl, hspan⟩ memory
      exact ⟨rfl, hspan⟩
    case setErrno =>
      rintro v _ ⟨rfl, hspan⟩ e
      exact ⟨rfl, hspan⟩
  exact (List.forall₂_same.mp (arms_inStep sim hop) arm harm).path inv

namespace Registry

theorem call_eq_of_declines {r : Registry κ η} {platform : Platform κ η} {name : String}
    {args : List Variant} {op : Operation κ η} (hfind : r.find? name = some op)
    (hop : op.Confined) {other : Host κ η} (hother : platform.host.Declines op.name other)
    (htell : ∀ hook, op.onSuccess = some hook → ∀ w, w.span = none →
      hook platform args w = hook { platform with host := other } args w)
    (site : String) (w : World κ η)
    : r.call platform site name args w = r.call { platform with host := other } site name args w := by
  have harms : List.Forall₂ (Arm.InStep (World.Inside op.name) platform
      { platform with host := other }) op.arms op.arms := by
    apply List.forall₂_same.mpr
    intro arm harm
    exact ⟨rfl, hop platform other hother.alikeInside arm harm⟩
  refine r.call_eq_of_alike (by rfl) site name args ?_
  intro op' hfind'
  rw [hfind] at hfind'
  cases hfind'
  apply BoundOperation.alike_of_platforms (by rfl) _ htell
  intro v hspan
  have ⟨hresult, hworld, _⟩ := dispatch_lockstep harms op.name args v v ⟨rfl, hspan⟩
  exact Prod.ext hresult hworld

theorem call_eq_of_hook {r : Registry κ η} {platform : Platform κ η} {name : String}
    {args : List Variant} {op : Operation κ η} (hfind : r.find? name = some op)
    {hook other : SuccessHook κ η} (hhook : op.onSuccess = some hook)
    (hother : ∀ w, w.span = none → hook platform args w = other platform args w) (site : String)
    (w : World κ η)
    : r.call platform site name args w =
        (⟨{ op with onSuccess := some other }, r.config⟩ : BoundOperation κ η).call platform site
          args w := by
  rw [r.call_of_find?_eq_some platform site args hfind]
  apply BoundOperation.Alike.call
  refine ⟨rfl, rfl, rfl, rfl, rfl, fun _ _ => rfl, ?_⟩
  dsimp only
  rw [hhook]
  exact .some hother

/-- A call leaves the span of its thread as it finds it, and while one is open every call is refused, those
of a host that is asked and of a hook included. -/
theorem calls_never_nest (r : Registry κ η) (platform : Platform κ η) (site name : String)
    (args : List Variant)
    (hforeign : ∀ op hook, r.find? name = some op → op.onSuccess = some hook →
      Foreign (hook platform args)) (w : World κ η)
    : (r.call platform site name args w).2.span = w.span ∧
      (∀ active, w.span = some active →
        r.call platform site name args w = r.refuse platform site name args active w ∧
          (r.refuse platform site name args active w).1 =
            .error (r.refusal name args.length active) ∧
          platform.Logged w (r.refuse platform site name args active w).2) ∧
      (∀ op, r.find? name = some op → ∀ other : Host κ η,
        platform.host.Declines op.name other →
        platform.host.AlikeInside op.name other ∧
          (op.Confined →
            (∀ hook, op.onSuccess = some hook → ∀ v, v.span = none →
              hook platform args v = hook { platform with host := other } args v) →
            r.call platform site name args w =
              r.call { platform with host := other } site name args w)) ∧
      ∀ op hook other, r.find? name = some op → op.onSuccess = some hook →
        (∀ v, v.span = none → hook platform args v = other platform args v) →
        r.call platform site name args w =
          (⟨{ op with onSuccess := some other }, r.config⟩ : BoundOperation κ η).call platform site
            args w := by
  refine ⟨?span, ?refused, ?asked, ?hooked⟩
  case span =>
    apply call_keepsSpan
    intro op hook hfind hhook
    exact (hforeign op hook hfind hhook).keepsSpan
  case refused =>
    intro active hspan
    have ⟨w', hrefuse, hlogged⟩ := r.refuse_eq platform site name args active w
    refine ⟨r.call_eq_refuse platform site name args hspan, ?_, ?_⟩
    . rw [hrefuse]
    . rw [hrefuse]
      exact hlogged
  case asked =>
    intro op hfind other hother
    refine ⟨hother.alikeInside, ?_⟩
    intro hop htell
    exact call_eq_of_declines hfind hop hother htell site w
  case hooked =>
    intro op hook other hfind hhook hother
    exact call_eq_of_hook hfind hhook hother site w

theorem calls_never_nest_getcwd
    : let r : Registry Posix CallRequest := builtIn {}
      let platform : Platform Posix CallRequest :=
        ⟨Posix.kernel, .reentrant Posix.kernel .undisturbing "here", .undisturbing⟩
      let other : Host Posix CallRequest := .refused Posix.kernel .undisturbing "here" "getcwd"
      let args : List Variant := [.str "", .int 0]
      let w : World Posix CallRequest := ⟨⟨.fresh, ⟨0⟩, .initial⟩, none, #[], ⟨"getpid", []⟩⟩
      let run := r.call platform "here" "getcwd" args w
      run.1 = .ok (.str "getpid called while getcwd is still inside a native span") ∧
        run.2.span = none ∧
        run = r.call { platform with host := other } "here" "getcwd" args w := by
  intro r platform other args w run
  have hfind : r.find? "getcwd" = some Table.getcwd := by
    rfl
  have hforeign : ∀ op hook, r.find? "getcwd" = some op → op.onSuccess = some hook →
      Foreign (hook platform args) := by
    intro op hook hop hhook
    rw [hfind] at hop
    cases hop
    cases hhook
  have hresult : run.1 = .ok (.str "getpid called while getcwd is still inside a native span") := by
    rfl
  have ⟨hspan, _, hasked, _⟩ := calls_never_nest r platform "here" "getcwd" args hforeign w
  have ⟨_, hcall⟩ := hasked _ hfind other (Host.reentrant_declines _ _ _ _)
  refine ⟨hresult, hspan, ?_⟩
  apply hcall (Table.builtIn_confined (List.mem_of_find?_eq_some hfind))
  intro hook hhook
  cases hhook

end Registry

end NativeCall
