import NativeCall.Proofs.Erasure
import NativeCall.Proofs.Plans
import NativeCall.Proofs.Precedence

/-!
This module contains the calls that come down to one decoded request: what they give and leave
depends on the request and on the machine that it is carried out on, and on nothing else.
-/

namespace NativeCall

variable {κ η : Type}

namespace Kernel

def carryOut (kernel : Kernel κ) (m : Machine κ)
    : Except CallError Plan → Except CallError Outcome × Machine κ
  | .error e => (.error e, m)
  | .ok plan =>
    let (answer, after) := kernel.run plan.primitive m
    (.ok (plan.conclude answer after.errno), after)

/-- What the system is asked for when a decoded request is carried out on a machine. -/
def asked (kernel : Kernel κ) (m : Machine κ) : Except CallError Plan → List Event
  | .error _ => []
  | .ok plan =>
    let (answer, after) := kernel.run plan.primitive m
    [.request plan.primitive m.memory answer after.errno]

theorem asked_filter (kernel : Kernel κ) (m : Machine κ) (decoded : Except CallError Plan)
    : (kernel.asked m decoded).filter Event.isRequest = kernel.asked m decoded := by
  cases decoded <;> rfl

end Kernel

def Plan.Final (plan : Plan) : Prop :=
  ∀ answer register substituted, plan.conclude answer register ≠ .redispatch substituted

theorem Plan.Sound.final {policy : Policy} {memory : Memory} {args : List Variant} {plan : Plan}
    (h : plan.Sound policy memory args) : plan.Final := by
  intro answer register substituted
  rw [h.conclude]
  apply Outcome.ofAnswer_ne_redispatch

theorem Kernel.carryOut_ne_redispatch {decoded : Except CallError Plan}
    (h : ∀ plan, decoded = .ok plan → plan.Final) (kernel : Kernel κ) (m : Machine κ)
    (substituted : List Variant)
    : (kernel.carryOut m decoded).1 ≠ .ok (.redispatch substituted) := by
  cases decoded with
  | error e => nofun
  | ok plan =>
    intro hredispatch
    exact h plan rfl _ _ substituted (Except.ok.inj hredispatch)

def Machine.traced (m : Machine κ) (events : List Event) : Machine (Traced κ) :=
  { m with os := ⟨m.os, events⟩ }

theorem Kernel.traced_carryOut (kernel : Kernel κ) (m : Machine κ) (events : List Event)
    (decoded : Except CallError Plan)
    : kernel.traced.carryOut (m.traced events) decoded =
        ((kernel.carryOut m decoded).1,
          (kernel.carryOut m decoded).2.traced (events ++ kernel.asked m decoded)) := by
  cases decoded with
  | error e =>
    unfold carryOut asked
    rw [List.append_nil]
  | ok plan => rfl

namespace CallPath

theorem native_eq (decode : Invocation → Except CallError Plan) (platform : Platform κ η)
    (inv : Invocation) (w : World κ η)
    : native decode platform inv w =
        ((platform.kernel.carryOut w.toMachine (decode inv)).1,
          { w with toMachine := (platform.kernel.carryOut w.toMachine (decode inv)).2 }) := by
  unfold native
  rw [Call.run_bind, Call.run_liftExcept]
  cases decode inv <;> rfl

theorem nativeIn_eq (decode : Memory → Invocation → Except CallError Plan)
    (platform : Platform κ η) (inv : Invocation) (w : World κ η)
    : nativeIn decode platform inv w =
        ((platform.kernel.carryOut w.toMachine (decode w.memory inv)).1,
          { w with
            toMachine := (platform.kernel.carryOut w.toMachine (decode w.memory inv)).2 }) := by
  unfold nativeIn
  rw [Call.run_bind, Call.run_get]
  dsimp only
  rw [Call.run_bind, Call.run_liftExcept]
  cases decode w.memory inv <;> rfl

end CallPath

namespace Dispatch

variable {op : String} {arms : List (Arm (CallPath κ η))} {platform : Platform κ η}
  {args substituted : List Variant} {arm : Arm (CallPath κ η)} {w : World κ η}
  {run : Except CallError Outcome × World κ η}

theorem dispatch_of_final (hselect : select op arms args = .ok arm)
    (hrun : arm.path platform ⟨op, args⟩ w = run)
    (hfinal : ∀ substituted, run.1 ≠ .ok (.redispatch substituted))
    : dispatch op arms platform args w = run := by
  rw [dispatch_eq, hselect]
  dsimp only
  rw [hrun]
  split
  . next substituted w' =>
    exact absurd rfl (hfinal substituted)
  . rfl

theorem again_of_final (hselect : select op arms substituted = .ok arm)
    (hrun : arm.path platform ⟨op, substituted⟩ w = run)
    (hfinal : ∀ twice, run.1 ≠ .ok (.redispatch twice))
    : again op arms platform args substituted w = run := by
  rw [again_eq, hselect]
  dsimp only
  rw [hrun]
  split
  . next twice w' =>
    exact absurd rfl (hfinal twice)
  . rfl

end Dispatch

theorem BoundOperation.call_of_unhooked {b : BoundOperation κ η}
    (hhook : b.operation.onSuccess = none) (platform : Platform κ η) (site : String)
    {args : List Variant} {w : World κ η} (h : b.Admits args w)
    {outcome : Except CallError Outcome} {after : World κ η}
    (hrun : dispatch b.operation.name b.operation.arms platform args
      (b.entered platform site args w) = (outcome, after))
    : ∃ log, b.call platform site args w =
        (b.settle site outcome,
          { after with
            span := none, log := log, errno := registerAfter after.errno outcome }) := by
  have ⟨log, hcall⟩ := b.call_eq platform site args h hrun
  refine ⟨log, ?_⟩
  rw [hcall]
  unfold resumed afterHook
  cases outcome <;> simp only [hhook, ite_self]

/-- What the logger does to the register does not depend on what is logged. -/
def Logger.Blind (logger : Logger) : Prop :=
  ∀ log log' line line' e, logger log line e = logger log' line' e

theorem Logger.Blind.through {logger : Logger} (h : logger.Blind) {lines lines' : List LogLine}
    (hlength : lines.length = lines'.length) (log log' : Array LogLine) (e : Errno)
    : logger.through log lines e = logger.through log' lines' e := by
  induction lines generalizing lines' log log' e with
  | nil =>
    rw [List.length_eq_zero_iff.mp hlength.symm]
    rfl
  | cons line lines ih =>
    cases lines' with
    | nil => cases hlength
    | cons line' lines' =>
      unfold Logger.through
      rw [h log log' line line' e]
      exact ih (Nat.succ.inj hlength) _ _ _

theorem BindingConfig.refusalLines_length (config : BindingConfig) (site : String)
    (args args' : List Variant) (e : CallError)
    : (config.refusalLines site args e).length = (config.refusalLines site args' e).length := by
  unfold refusalLines callLines
  cases e with
  | reentrant =>
    cases config.traceCalls <;> rfl
  | _ => rfl

namespace Registry

variable (config : BindingConfig) (platform : Platform κ η) (site name : String)

def requests (args : List Variant) (w : World κ η) : List Event :=
  (events config platform site name args w).filter Event.isRequest

/-- The call of the operation `op` comes down to carrying out a decoded request on the machine
`m`. -/
structure ComesDownTo (op : Operation (Traced κ) η) (args : List Variant) (w : World κ η)
    (m : Machine κ) (decoded : Except CallError Plan) : Prop where
  result : ((builtIn config).call platform site op.name args w).1 =
    (⟨op, config⟩ : BoundOperation (Traced κ) η).settle site (platform.kernel.carryOut m decoded).1
  requests : requests config platform site op.name args w = platform.kernel.asked m decoded
  machine : ((builtIn config).call platform site op.name args w).2.toMachine =
    { (platform.kernel.carryOut m decoded).2 with
      errno := BoundOperation.registerAfter (platform.kernel.carryOut m decoded).2.errno
        (platform.kernel.carryOut m decoded).1 }

/-- The two calls have the same result, ask the system for the same, and leave memory, the register
and the system alike. -/
structure SameCall (args : List Variant) (w : World κ η) (args' : List Variant) (w' : World κ η)
    : Prop where
  result : ((builtIn config).call platform site name args w).1 =
    ((builtIn config).call platform site name args' w').1
  requests : requests config platform site name args w =
    requests config platform site name args' w'
  machine : ((builtIn config).call platform site name args w).2.toMachine =
    ((builtIn config).call platform site name args' w').2.toMachine

/-- The call is refused before an arm is chosen. -/
structure TurnedDown (args : List Variant) (w : World κ η) (e : CallError) : Prop where
  call : (builtIn config).call platform site name args w =
    (.error e, platform.wrote (config.refusalLines site args e) w)
  requests : requests config platform site name args w = []

/-- The call fails, asks the system for nothing, and leaves the machine `m`. -/
structure GivesUp (args : List Variant) (w : World κ η) (e : CallError) (m : Machine κ) : Prop where
  result : ((builtIn config).call platform site name args w).1 = .error e
  requests : requests config platform site name args w = []
  machine : ((builtIn config).call platform site name args w).2.toMachine = m

variable {config platform site name}

theorem turnedDown_of_refused {args : List Variant} {w : World κ η} {e : CallError}
    (h : (builtIn config : Registry (Traced κ) η).Refused name args.length w.span e)
    : TurnedDown config platform site name args w e := by
  have hcall : tracedCall config platform site name args w =
      (.error e, platform.traced.wrote (config.refusalLines site args e) (w.traced [])) := by
    exact call_of_refused h
  constructor
  . rw [call_eq_tracedCall, hcall]
    rfl
  . unfold requests events
    rw [hcall]
    rfl

theorem turnedDown_of_open {op : Operation (Traced κ) η} {args : List Variant} {w : World κ η}
    {active : String} (hfind : (builtIn config).find? name = some op)
    (harity : args.length = op.arity) (hsupported : op.policy ≠ .unsupported)
    (hspan : w.span = some active)
    : TurnedDown config platform site name args w (.reentrant name active) := by
  have ⟨hmem, hname⟩ := (builtIn config).find?_eq_some_iff.mp hfind
  subst hname
  exact turnedDown_of_refused (.found hmem rfl (.reentrant harity hsupported hspan))

theorem TurnedDown.sameCall {args args' : List Variant} {w : World κ η} {e : CallError}
    (h : TurnedDown config platform site name args w e)
    (h' : TurnedDown config platform site name args' w e)
    (hblind : platform.logger.Blind)
    : SameCall config platform site name args w args' w := by
  -- The lines differ, since they show the arguments, but there are as many.
  have hthrough := hblind.through (config.refusalLines_length site args args' e) w.log w.log w.errno
  constructor
  . rw [h.call, h'.call]
  . rw [h.requests, h'.requests]
  . rw [h.call, h'.call]
    unfold Platform.wrote
    rw [hthrough]

theorem ComesDownTo.sameCall {op : Operation (Traced κ) η} {args args' : List Variant}
    {w w' : World κ η} {m : Machine κ} {decoded : Except CallError Plan}
    (h : ComesDownTo config platform site op args w m decoded)
    (h' : ComesDownTo config platform site op args' w' m decoded)
    : SameCall config platform site op.name args w args' w' := by
  constructor
  . rw [h.result, h'.result]
  . rw [h.requests, h'.requests]
  . rw [h.machine, h'.machine]

theorem ComesDownTo.givesUp {op : Operation (Traced κ) η} {args : List Variant} {w : World κ η}
    {m : Machine κ} {e : CallError} (h : ComesDownTo config platform site op args w m (.error e))
    : GivesUp config platform site op.name args w e m := by
  constructor
  . exact h.result
  . exact h.requests
  . exact h.machine

/-- If it is not for a failure to be raised, the answer to a request is given back as it is, and the
machine is left as the system leaves it. -/
theorem ComesDownTo.passes {op : Operation (Traced κ) η} {args : List Variant} {w : World κ η}
    {m : Machine κ} {p : Primitive .number}
    (h : ComesDownTo config platform site op args w m (.ok (.status p)))
    (hname : op.name = name) (hpolicy : op.policy ≠ .raise)
    : ((builtIn config).call platform site name args w).1 =
          .ok (.int (platform.kernel.run p m).1) ∧
        ((builtIn config).call platform site name args w).2.toMachine =
          (platform.kernel.run p m).2 := by
  subst hname
  have hcarried : platform.kernel.carryOut m (.ok (.status p)) =
      (.ok (.status (sentinel (platform.kernel.run p m).1 (platform.kernel.run p m).2.errno)),
        (platform.kernel.run p m).2) := by
    rfl
  rw [h.result, h.machine, hcarried]
  rcases platform.kernel.run p m with ⟨answer, after⟩
  unfold sentinel
  dsimp only
  split
  . next hfailed =>
    subst hfailed
    exact ⟨if_neg hpolicy, rfl⟩
  . exact ⟨rfl, rfl⟩

theorem ComesDownTo.tells {op : Operation (Traced κ) η} {args : List Variant} {w : World κ η}
    {m : Machine κ} {reply : Reply} {p : Primitive reply} {make : reply.Value → Variant}
    (h : ComesDownTo config platform site op args w m (.ok (.value p make)))
    (hname : op.name = name)
    : ((builtIn config).call platform site name args w).1 =
          .ok (make (platform.kernel.run p m).1) ∧
        ((builtIn config).call platform site name args w).2.toMachine =
          (platform.kernel.run p m).2 := by
  subst hname
  have hcarried : platform.kernel.carryOut m (.ok (.value p make)) =
      (.ok (.value (.ok (make (platform.kernel.run p m).1))), (platform.kernel.run p m).2) := by
    rfl
  rw [h.result, h.machine, hcarried]
  exact ⟨rfl, rfl⟩

/-- The world in which the arm of a call starts, written out: only the log and the span are new. -/
def inside (config : BindingConfig) (site name : String) (args : List Variant) (w : World κ η)
    : World κ η :=
  { w with log := w.log ++ config.callLines site name args, span := some name }

theorem comesDownTo_of_dispatch {op : Operation (Traced κ) η} {args : List Variant} {w : World κ η}
    {m : Machine κ} {decoded : Except CallError Plan} {asked : List Event} {v : World (Traced κ) η}
    (hfind : (builtIn config).find? op.name = some op) (hhook : op.onSuccess = none)
    (hadmits : (⟨op, config⟩ : BoundOperation (Traced κ) η).Admits args (w.traced []))
    (hasked : asked.filter Event.isRequest = [])
    (hrun : dispatch op.name op.arms platform.traced args
      ((inside config site op.name args w).traced []) =
        ((platform.traced.kernel.carryOut (m.traced asked) decoded).1,
          { v with toMachine := (platform.traced.kernel.carryOut (m.traced asked) decoded).2 }))
    : ComesDownTo config platform site op args w m decoded := by
  have hentered : BoundOperation.entered ⟨op, config⟩ platform.traced site args (w.traced []) =
      (inside config site op.name args w).traced [] := by
    apply BoundOperation.entered_eq_wrote
  have hcarried : platform.traced.kernel.carryOut (m.traced asked) decoded = _ :=
    platform.kernel.traced_carryOut m asked decoded
  rw [← hentered, hcarried] at hrun
  have ⟨log, hbound⟩ := BoundOperation.call_of_unhooked hhook platform.traced site hadmits hrun
  -- What the host was asked before the request stays in the trace and is no request itself.
  have hfound := (builtIn config).call_of_find?_eq_some platform.traced site args hfind
  have hcall := (congrFun hfound (w.traced [])).trans hbound
  change tracedCall config platform site op.name args w = _ at hcall
  constructor
  . rw [call_eq_tracedCall, hcall]
  . unfold requests events
    rw [hcall]
    change (asked ++ platform.kernel.asked m decoded).filter Event.isRequest = _
    rw [List.filter_append, hasked, Kernel.asked_filter, List.nil_append]
  . rw [call_eq_tracedCall, hcall]
    rfl

theorem comesDownTo_of_native {op : Operation (Traced κ) η} {args : List Variant} {w : World κ η}
    {guard : Guard} {decode : Invocation → Except CallError Plan}
    (hfind : (builtIn config).find? op.name = some op) (hhook : op.onSuccess = none)
    (hadmits : (⟨op, config⟩ : BoundOperation (Traced κ) η).Admits args (w.traced []))
    (hselect : Dispatch.select op.name op.arms args = .ok (Table.arm guard decode))
    (hfinal : ∀ plan, decode ⟨op.name, args⟩ = .ok plan → plan.Final)
    : ComesDownTo config platform site op args w w.toMachine (decode ⟨op.name, args⟩) := by
  have hrun := Dispatch.dispatch_of_final hselect
    (CallPath.native_eq decode platform.traced ⟨op.name, args⟩
      ((inside config site op.name args w).traced []))
    (platform.traced.kernel.carryOut_ne_redispatch hfinal _)
  exact comesDownTo_of_dispatch hfind hhook hadmits rfl hrun

theorem comesDownTo_of_single {arity : Nat} {policy : Policy} {guard : Guard}
    {decode : Invocation → Except CallError Plan} {args : List Variant} {w : World κ η}
    {decoded : Except CallError Plan}
    (hfind : (builtIn config : Registry (Traced κ) η).find? name =
      some ⟨name, arity, policy, [Table.arm guard decode], none⟩)
    (hlength : args.length = arity) (hsupported : policy ≠ .unsupported) (hspan : w.span = none)
    (haccepts : guard.accepts args) (hdecode : decode ⟨name, args⟩ = decoded)
    (hfinal : ∀ plan, decoded = .ok plan → plan.Final)
    : ComesDownTo config platform site ⟨name, arity, policy, [Table.arm guard decode], none⟩ args w
        w.toMachine decoded := by
  subst hdecode
  have hfound : [(Table.arm guard decode : Arm (CallPath (Traced κ) η))].find? (·.accepts args) =
      some (Table.arm guard decode) := by
    exact List.find?_cons_of_pos haccepts
  have hselect : Dispatch.select name [(Table.arm guard decode : Arm (CallPath (Traced κ) η))]
      args = .ok (Table.arm guard decode) := by
    unfold Dispatch.select
    rw [hfound]
  exact comesDownTo_of_native hfind rfl ⟨hlength, hsupported, hspan⟩ hselect hfinal

theorem givesUp_of_unmatched {op : Operation (Traced κ) η} {args : List Variant} {w : World κ η}
    (hfind : (builtIn config).find? op.name = some op) (hhook : op.onSuccess = none)
    (hadmits : (⟨op, config⟩ : BoundOperation (Traced κ) η).Admits args (w.traced []))
    (hselect : Dispatch.select op.name op.arms args = .error (Dispatch.noMatch op.name args))
    : GivesUp config platform site op.name args w (Dispatch.noMatch op.name args) w.toMachine := by
  have hrun : dispatch op.name op.arms platform.traced args
      ((inside config site op.name args w).traced []) =
        (.error (Dispatch.noMatch op.name args),
          (inside config site op.name args w).traced []) := by
    rw [dispatch_eq, hselect]
  have hcomes : ComesDownTo config platform site op args w w.toMachine
      (.error (Dispatch.noMatch op.name args)) := by
    exact comesDownTo_of_dispatch (v := (inside config site op.name args w).traced []) hfind hhook
      hadmits rfl hrun
  exact hcomes.givesUp

end Registry

end NativeCall
