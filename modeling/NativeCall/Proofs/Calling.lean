import NativeCall.Proofs.Dispatching

/-!
This module contains what making a call comes to: which calls get as far as an arm, the world in
which the arm starts, and what becomes of the outcome.
-/

namespace NativeCall

variable {κ η : Type}

namespace Platform

theorem note_eq (platform : Platform κ η) (level : LogLevel) (text : String) (w : World κ η)
    : ∃ log e, (platform.note level text w).2 = { w with log := log, errno := e } := by
  exact ⟨_, _, rfl⟩

/-- The world `w'` is reached from `w` by writing to the log. -/
inductive Logged (platform : Platform κ η) (w : World κ η) : World κ η → Prop where
  | nothing : Logged platform w w
  | note {w' : World κ η} (h : Logged platform w w') (level : LogLevel) (text : String)
      : Logged platform w (platform.note level text w').2

theorem Logged.eq {platform : Platform κ η} {w w' : World κ η} (h : platform.Logged w w')
    : ∃ log e, w' = { w with log := log, errno := e } := by
  induction h with
  | nothing => exact ⟨w.log, w.errno, rfl⟩
  | note _ level text ih =>
    have ⟨log, e, hw⟩ := ih
    rw [hw]
    apply note_eq

theorem Logged.os_eq {platform : Platform κ η} {w w' : World κ η} (h : platform.Logged w w')
    : w'.os = w.os := by
  have ⟨log, e, hw⟩ := h.eq
  rw [hw]

theorem Logged.span_eq {platform : Platform κ η} {w w' : World κ η} (h : platform.Logged w w')
    : w'.span = w.span := by
  have ⟨log, e, hw⟩ := h.eq
  rw [hw]

end Platform

/-- The code with which the native call failed, if it did. -/
def Outcome.failure? : Outcome → Option Errno
  | status (.error e) => some e
  | value (.error e) => some e
  | _ => none

theorem Outcome.ne_redispatch_of_failure {outcome : Outcome} {e : Errno}
    (h : outcome.failure? = some e) (substituted : List Variant)
    : outcome ≠ .redispatch substituted := by
  intro heq
  rw [heq] at h
  cases h

namespace BoundOperation

variable (b : BoundOperation κ η) (platform : Platform κ η) (site : String) (args : List Variant)

/-- The arguments pass the checks that are made before an arm is chosen. -/
structure Admits (w : World κ η) : Prop where
  arity : args.length = b.operation.arity
  supported : b.operation.policy ≠ .unsupported
  outside : w.span = none

/-- The world in which the arm of a call starts. -/
def entered (w : World κ η) : World κ η :=
  { (b.noteCall platform site args w).2 with errno := w.errno, span := some b.operation.name }

theorem noteCall_logged (w : World κ η)
    : platform.Logged w (b.noteCall platform site args w).2 := by
  unfold noteCall
  split
  . exact .note .nothing _ _
  . exact .nothing

theorem entered_eq (w : World κ η)
    : ∃ log, b.entered platform site args w =
        { w with log := log, span := some b.operation.name } := by
  have ⟨log, e, h⟩ := (b.noteCall_logged platform site args w).eq
  unfold entered
  rw [h]
  exact ⟨log, rfl⟩

theorem call_of_admits {w : World κ η} (h : b.Admits args w) {outcome : Except CallError Outcome}
    {after : World κ η}
    (hrun : dispatch b.operation.name b.operation.arms platform args
      (b.entered platform site args w) = (outcome, after))
    : b.call platform site args w =
        b.conclude platform site args after.errno outcome { after with span := none } := by
  have ⟨log, e, hnote⟩ := (b.noteCall_logged platform site args w).eq
  have henter : Span.enter b.operation.name (b.noteCall platform site args w).2 =
      (.ok (), { (b.noteCall platform site args w).2 with span := some b.operation.name }) := by
    unfold Span.enter
    simp only [Call.run_bind, Call.run_get, Call.run_liftExcept, Call.run_modify]
    rw [hnote]
    simp only [h.outside, Span.enterSlot]
  unfold call
  simp only [ne_eq, h.arity, not_true_eq_false, ↓reduceIte, h.supported, Action.run_bind,
    Action.run_errno]
  rw [henter]
  simp only [runArm, Action.run_bind, Action.run_setErrno, Action.run_pure, Action.run_errno]
  unfold entered at hrun
  rw [hrun]
  rfl

theorem call_of_arity (h : args.length ≠ b.operation.arity)
    : b.call platform site args =
        platform.refuse (.arityMismatch b.operation.name b.operation.arity args.length) := by
  unfold call
  simp only [ne_eq, h, not_false_eq_true, ↓reduceIte]

theorem call_of_unsupported (harity : args.length = b.operation.arity)
    (h : b.operation.policy = .unsupported)
    : b.call platform site args = do
        platform.noteUnsupported b.operation.name
        return .error (.unsupported b.operation.name) := by
  unfold call
  simp only [ne_eq, harity, not_true_eq_false, ↓reduceIte, h]

theorem call_of_span {w : World κ η} {active : String} (harity : args.length = b.operation.arity)
    (hsupported : b.operation.policy ≠ .unsupported) (h : w.span = some active)
    : b.call platform site args w =
        platform.refuse (.reentrant b.operation.name active)
          (b.noteCall platform site args w).2 := by
  have ⟨log, e, hnote⟩ := (b.noteCall_logged platform site args w).eq
  have henter : Span.enter b.operation.name (b.noteCall platform site args w).2 =
      (.error (.reentrant b.operation.name active), (b.noteCall platform site args w).2) := by
    unfold Span.enter
    simp only [Call.run_bind, Call.run_get, Call.run_liftExcept]
    rw [hnote]
    simp only [h, Span.enterSlot]
  unfold call
  simp only [ne_eq, harity, not_true_eq_false, ↓reduceIte, hsupported, Action.run_bind,
    Action.run_errno]
  rw [henter]

theorem call_of_not_admits {w : World κ η} (h : ¬ b.Admits args w)
    : ∃ e w', b.call platform site args w = (.error e, w') ∧ platform.Logged w w' ∧
        (e.isMisuse ∨ e.isUnsupported) := by
  by_cases harity : args.length = b.operation.arity
  . by_cases hsupported : b.operation.policy = .unsupported
    . rw [b.call_of_unsupported platform site args harity hsupported]
      exact ⟨_, _, rfl, .note .nothing _ _, Or.inr rfl⟩
    . cases hspan : w.span with
      | none => exact absurd ⟨harity, hsupported, hspan⟩ h
      | some active =>
        rw [b.call_of_span platform site args harity hsupported hspan]
        have hlogged := b.noteCall_logged platform site args w
        exact ⟨_, _, rfl, hlogged.note _ _, Or.inl rfl⟩
  . rw [b.call_of_arity platform site args harity]
    exact ⟨_, _, rfl, .note .nothing _ _, Or.inl rfl⟩

def afterHook (w : World κ η) : World κ η :=
  match b.operation.onSuccess with
  | some hook => (hook platform args w).2
  | none => w

theorem succeed_eq (register : Errno) (result : Variant) (w : World κ η)
    : ∃ log, b.succeed platform args register result w =
        (.ok result, { b.afterHook platform args w with log := log, errno := register }) := by
  unfold succeed afterHook
  cases b.operation.onSuccess <;> cases b.config.traceCalls <;> exact ⟨_, rfl⟩

theorem fail_eq (e : Errno) (result : Variant) (w : World κ η)
    : ∃ log, b.fail platform site e result w =
        (if b.operation.policy = .raise then .error (.os b.operation.name e site) else .ok result,
          { w with log := log, errno := e }) := by
  unfold fail
  by_cases h : b.operation.policy = .raise
  . simp only [h, ↓reduceIte]
    cases b.config.logOsErrors <;> exact ⟨_, rfl⟩
  . simp only [h, ↓reduceIte]
    cases b.config.logOsErrors <;> exact ⟨_, rfl⟩

theorem giveUp_eq (register : Errno) (e : CallError) (w : World κ η)
    : ∃ log, b.giveUp platform register e w =
        (.error e, { w with log := log, errno := register }) := by
  unfold giveUp
  cases e.isUnsupported <;> exact ⟨_, rfl⟩

def settle : Except CallError Outcome → Except CallError Variant
  | .error e => .error e
  | .ok (.info v) => .ok (.int v)
  | .ok (.status (.ok v)) => .ok (.int v)
  | .ok (.value (.ok v)) => .ok v
  | .ok (.status (.error e)) =>
    if b.operation.policy = .raise then .error (.os b.operation.name e site) else .ok (.int (-1))
  | .ok (.value (.error e)) =>
    if b.operation.policy = .raise then .error (.os b.operation.name e site) else .ok .nil
  | .ok (.redispatch _) =>
    .error (.invalidTable s!"{b.operation.name}: substitution escaped dispatch")

theorem settle_eq_error {b : BoundOperation κ η} {site : String} {outcome : Outcome}
    {e : CallError} (hfinal : ∀ substituted, outcome ≠ .redispatch substituted)
    (h : b.settle site (.ok outcome) = .error e)
    : ∃ code, e = .os b.operation.name code site := by
  unfold settle at h
  split at h
  . next heq => cases heq
  . cases h
  . cases h
  . cases h
  . split at h
    . cases h
      exact ⟨_, rfl⟩
    . cases h
  . split at h
    . cases h
      exact ⟨_, rfl⟩
    . cases h
  . next substituted heq =>
    cases heq
    exact absurd rfl (hfinal substituted)

theorem conclude_error (register : Errno) (e : CallError) (w : World κ η)
    : ∃ log, b.conclude platform site args register (.error e) w =
        (.error e, { w with log := log, errno := register }) := by
  apply giveUp_eq

theorem conclude_failure {outcome : Outcome} {e : Errno} (h : outcome.failure? = some e)
    (register : Errno) (w : World κ η)
    : ∃ log, b.conclude platform site args register (.ok outcome) w =
        (b.settle site (.ok outcome), { w with log := log, errno := e }) := by
  unfold Outcome.failure? at h
  split at h
  . cases h
    apply fail_eq
  . cases h
    apply fail_eq
  . cases h

theorem conclude_success {outcome : Outcome} (h : outcome.failure? = none)
    (hne : ∀ substituted, outcome ≠ .redispatch substituted) (register : Errno) (w : World κ η)
    : ∃ log, b.conclude platform site args register (.ok outcome) w =
        (b.settle site (.ok outcome),
          { b.afterHook platform args w with log := log, errno := register }) := by
  cases outcome with
  | redispatch substituted => exact absurd rfl (hne substituted)
  | info v => apply succeed_eq
  | status result =>
    cases result with
    | error e => cases h
    | ok v => apply succeed_eq
  | value result =>
    cases result with
    | error e => cases h
    | ok v => apply succeed_eq

/-- The register that a call leaves whose path came to an outcome and left `register`. -/
def registerAfter (register : Errno) : Except CallError Outcome → Errno
  | .ok outcome => outcome.failure?.getD register
  | .error _ => register

/-- The world that a call leaves, up to the log and the register: after a success it is the one that
the hook leaves. -/
def resumed (outcome : Except CallError Outcome) (w : World κ η) : World κ η :=
  match outcome with
  | .ok outcome => if outcome.failure? = none then b.afterHook platform args w else w
  | .error _ => w

theorem resumed_of_error (e : CallError) (w : World κ η)
    : b.resumed platform args (.error e) w = w := by
  rfl

theorem resumed_of_failure {outcome : Outcome} {e : Errno} (h : outcome.failure? = some e)
    (w : World κ η) : b.resumed platform args (.ok outcome) w = w := by
  unfold resumed
  simp only [h, reduceCtorEq, ↓reduceIte]

theorem resumed_of_success {outcome : Outcome} (h : outcome.failure? = none) (w : World κ η)
    : b.resumed platform args (.ok outcome) w = b.afterHook platform args w := by
  unfold resumed
  simp only [h, ↓reduceIte]

theorem conclude_eq {outcome : Except CallError Outcome}
    (hfinal : ∀ substituted, outcome ≠ .ok (.redispatch substituted)) (register : Errno)
    (w : World κ η)
    : ∃ log, b.conclude platform site args register outcome w =
        (b.settle site outcome,
          { b.resumed platform args outcome w with
            log := log, errno := registerAfter register outcome }) := by
  unfold registerAfter
  cases outcome with
  | error e => apply conclude_error
  | ok outcome =>
    dsimp only
    cases hfailure : outcome.failure? with
    | some e =>
      rw [b.resumed_of_failure platform args hfailure, Option.getD_some]
      apply b.conclude_failure platform site args hfailure
    | none =>
      rw [b.resumed_of_success platform args hfailure, Option.getD_none]
      apply b.conclude_success platform site args hfailure
      intro substituted heq
      exact hfinal substituted (congrArg Except.ok heq)

theorem call_eq {w : World κ η} (h : b.Admits args w) {outcome : Except CallError Outcome}
    {after : World κ η}
    (hrun : dispatch b.operation.name b.operation.arms platform args
      (b.entered platform site args w) = (outcome, after))
    : ∃ log, b.call platform site args w =
        (b.settle site outcome,
          { b.resumed platform args outcome { after with span := none } with
            log := log, errno := registerAfter after.errno outcome }) := by
  rw [b.call_of_admits platform site args h hrun]
  apply b.conclude_eq
  intro substituted heq
  apply dispatch_ne_redispatch b.operation.name b.operation.arms platform args substituted
  rw [hrun]
  exact heq

end BoundOperation

namespace Registry

variable (r : Registry κ η) (platform : Platform κ η) (site : String) (args : List Variant)

theorem call_of_find?_eq_none {name : String} (h : r.find? name = none)
    : r.call platform site name args = platform.refuse (.unknownOperation name) := by
  unfold call bind
  rw [h]
  rfl

theorem call_of_find?_eq_some {name : String} {op : Operation κ η} (h : r.find? name = some op)
    : r.call platform site name args =
        (⟨op, r.config⟩ : BoundOperation κ η).call platform site args := by
  unfold call bind
  rw [h]
  dsimp only
  by_cases harity : op.arity = args.length
  . simp only [harity, ne_eq, not_true_eq_false, ↓reduceIte]
    rfl
  -- the lookup has already refused as the call would have
  . have : args.length ≠ op.arity := fun hlength => harity hlength.symm
    simp only [harity, ne_eq, not_false_eq_true, ↓reduceIte]
    unfold BoundOperation.call
    simp only [this, ne_eq, not_false_eq_true, ↓reduceIte]
    rfl

end Registry

end NativeCall
