import NativeCall.Proofs.Calling
import NativeCall.Proofs.Choice
import NativeCall.Proofs.Validation

/-!
This module contains the order of the checks that a call has to pass: for which one of them it is
refused, what is left of it then, and that looking an operation up first makes no difference.
-/

namespace NativeCall

variable {κ η : Type}

/-- What becomes of the register while these lines are written behind those of `log`. -/
def Logger.through (logger : Logger) (log : Array LogLine) : List LogLine → Errno → Errno
  | [], e => e
  | line :: lines, e => logger.through (log.push line) lines (logger log line e)

theorem Logger.through_append (logger : Logger) (log : Array LogLine) (lines more : List LogLine)
    (e : Errno)
    : logger.through log (lines ++ more) e =
        logger.through (log ++ lines) more (logger.through log lines e) := by
  induction lines generalizing log e with
  | nil => simp [through]
  | cons line lines ih =>
    rw [List.cons_append, through, through, ih]
    simp

namespace Platform

/-- The world in which these lines have been written, and which is as before otherwise. -/
def wrote (platform : Platform κ η) (lines : List LogLine) (w : World κ η) : World κ η :=
  { w with log := w.log ++ lines, errno := platform.logger.through w.log lines w.errno }

theorem wrote_nil (platform : Platform κ η) (w : World κ η) : platform.wrote [] w = w := by
  simp [wrote, Logger.through]

theorem note_wrote (platform : Platform κ η) (lines : List LogLine) (level : LogLevel)
    (text : String) (w : World κ η)
    : (platform.note level text (platform.wrote lines w)).2 =
        platform.wrote (lines ++ [⟨level, .registry, text⟩]) w := by
  have hlog : w.log ++ (lines ++ [⟨level, .registry, text⟩]) =
      (w.log ++ lines).push ⟨level, .registry, text⟩ := by
    apply Array.ext'
    simp
  unfold wrote
  rw [Logger.through_append, hlog]
  rfl

theorem note_eq_wrote (platform : Platform κ η) (level : LogLevel) (text : String) (w : World κ η)
    : (platform.note level text w).2 = platform.wrote [⟨level, .registry, text⟩] w := by
  have hnote := platform.note_wrote [] level text w
  rw [wrote_nil] at hnote
  exact hnote

end Platform

/-- Why a call of the operation with `count` arguments is refused, on a thread that is inside of the
native call `span`, if of one. -/
inductive Operation.Refused (op : Operation κ η) (count : Nat) (span : Option String)
    : CallError → Prop where
  | miscounted (h : count ≠ op.arity)
      : Refused op count span (.arityMismatch op.name op.arity count)
  | unsupported (harity : count = op.arity) (h : op.policy = .unsupported)
      : Refused op count span (.unsupported op.name)
  | reentrant {active : String} (harity : count = op.arity) (hsupported : op.policy ≠ .unsupported)
      (h : span = some active) : Refused op count span (.reentrant op.name active)

namespace BindingConfig

/-- The line that is written before an operation is called. -/
def callLines (config : BindingConfig) (site op : String) (args : List Variant) : List LogLine :=
  if config.traceCalls then
    let shown := ", ".intercalate (args.map Variant.display)
    [⟨.trace, .registry, s!"{op}({shown}) at {site}"⟩]
  else []

/-- The lines that are written when a call is refused. -/
def refusalLines (config : BindingConfig) (site : String) (args : List Variant)
    : CallError → List LogLine
  | .unsupported op => [⟨.warn, .registry, s!"{op}: not supported"⟩]
  | .reentrant op active =>
    let e := CallError.reentrant op active
    config.callLines site op args ++ [⟨.error, .registry, s!"binding misuse: {e.message}"⟩]
  | e => [⟨.error, .registry, s!"binding misuse: {e.message}"⟩]

end BindingConfig

namespace BoundOperation

variable (b : BoundOperation κ η) (platform : Platform κ η) (site : String) (args : List Variant)

theorem noteCall_eq_wrote (w : World κ η)
    : (b.noteCall platform site args w).2 =
        platform.wrote (b.config.callLines site b.operation.name args) w := by
  unfold noteCall BindingConfig.callLines
  split
  . apply platform.note_eq_wrote
  . rw [platform.wrote_nil]
    rfl

theorem entered_eq_wrote (w : World κ η)
    : b.entered platform site args w =
        { w with
          log := w.log ++ b.config.callLines site b.operation.name args
          span := some b.operation.name } := by
  unfold entered
  rw [noteCall_eq_wrote]
  rfl

theorem call_of_refused {w : World κ η} {e : CallError}
    (h : b.operation.Refused args.length w.span e)
    : b.call platform site args w =
        (.error e, platform.wrote (b.config.refusalLines site args e) w) := by
  cases h with
  | miscounted h =>
    rw [b.call_of_arity platform site args h]
    exact congrArg (Prod.mk _) (platform.note_eq_wrote _ _ w)
  | unsupported harity h =>
    rw [b.call_of_unsupported platform site args harity h]
    exact congrArg (Prod.mk _) (platform.note_eq_wrote _ _ w)
  | reentrant harity hsupported h =>
    rw [b.call_of_span platform site args harity hsupported h, b.noteCall_eq_wrote]
    exact congrArg (Prod.mk _) (platform.note_wrote _ _ _ w)

/-- The call passes the checks, and the arms that it is made with come to the error. -/
structure FailsInArms (w : World κ η) (e : CallError) : Prop where
  admits : b.Admits args w
  settled : b.settle site
    (dispatch b.operation.name b.operation.arms platform args
      (b.entered platform site args w)).1 = .error e

theorem exists_refused_of_not_admits {b : BoundOperation κ η} {args : List Variant} {w : World κ η}
    (h : ¬ b.Admits args w) : ∃ e, b.operation.Refused args.length w.span e := by
  by_cases harity : args.length = b.operation.arity
  . by_cases hsupported : b.operation.policy = .unsupported
    . exact ⟨_, .unsupported harity hsupported⟩
    . cases hspan : w.span with
      | none => exact absurd ⟨harity, hsupported, hspan⟩ h
      | some active => exact ⟨_, .reentrant harity hsupported rfl⟩
  . exact ⟨_, .miscounted harity⟩

end BoundOperation

namespace Registry

variable (r : Registry κ η) (platform : Platform κ η) (site name : String) (args : List Variant)

/-- Why a call by a name is refused before an arm is chosen. -/
inductive Refused (count : Nat) (span : Option String) : CallError → Prop where
  | unknown (h : ∀ op ∈ r.table, op.name ≠ name) : Refused count span (.unknownOperation name)
  | found {op : Operation κ η} {e : CallError} (hmem : op ∈ r.table) (hname : op.name = name)
      (h : op.Refused count span e) : Refused count span e

/-- How a call goes from the world `w`: the arms that are tried, by their places and with the
arguments that they are tried on, and what the call comes to. -/
inductive Course (w : World κ η)
    : List (Nat × List Variant) → Except CallError Variant × World κ η → Prop where
  | refused {e : CallError} (h : r.Refused name args.length w.span e)
      : Course w [] (.error e, platform.wrote (r.config.refusalLines site args e) w)
  | started {op : Operation κ η} {ran : List (Nat × List Variant)}
      {outcome : Except CallError Outcome} {after : World κ η} (hmem : op ∈ r.table)
      (hname : op.name = name) (harity : args.length = op.arity)
      (hsupported : op.policy ≠ .unsupported) (hspan : w.span = none)
      (h : Dispatch.Dispatched op.name op.arms platform args
        { w with
          log := w.log ++ r.config.callLines site name args
          span := some name } ran (outcome, after))
      : Course w ran
          ((⟨op, r.config⟩ : BoundOperation κ η).conclude platform site args after.errno outcome
            { after with span := none })

theorem exists_course (w : World κ η) : ∃ ran run, r.Course platform site name args w ran run := by
  by_cases hknown : ∃ op ∈ r.table, op.name = name
  . have ⟨op, hmem, hname⟩ := hknown
    by_cases hadmits : (⟨op, r.config⟩ : BoundOperation κ η).Admits args w
    . have ⟨ran, run, h⟩ := Dispatch.exists_dispatched op.name op.arms platform args
        { w with
          log := w.log ++ r.config.callLines site name args
          span := some name }
      exact ⟨_, _, .started hmem hname hadmits.arity hadmits.supported hadmits.outside h⟩
    . have ⟨e, h⟩ := BoundOperation.exists_refused_of_not_admits hadmits
      exact ⟨_, _, .refused (.found hmem hname h)⟩
  . refine ⟨_, _, .refused (.unknown ?_)⟩
    intro op hmem hname
    exact hknown ⟨op, hmem, hname⟩

variable {r platform site name args}

theorem call_of_refused {w : World κ η} {e : CallError} (h : r.Refused name args.length w.span e)
    : r.call platform site name args w =
        (.error e, platform.wrote (r.config.refusalLines site args e) w) := by
  cases h with
  | unknown h =>
    rw [r.call_of_find?_eq_none platform site args (r.find?_eq_none_iff.mpr h)]
    exact congrArg (Prod.mk _) (platform.note_eq_wrote _ _ w)
  | found hmem hname h =>
    rw [r.call_of_find?_eq_some platform site args (r.find?_eq_some_iff.mpr ⟨hmem, hname⟩)]
    exact BoundOperation.call_of_refused _ platform site args h

theorem Course.eq_call {w : World κ η} {ran : List (Nat × List Variant)}
    {run : Except CallError Variant × World κ η} (h : r.Course platform site name args w ran run)
    : run = r.call platform site name args w := by
  cases h with
  | refused h => rw [call_of_refused h]
  | started hmem hname harity hsupported hspan h =>
    subst hname
    rw [r.call_of_find?_eq_some platform site args (r.find?_eq_some_iff.mpr ⟨hmem, rfl⟩)]
    rw [BoundOperation.call_of_admits _ platform site args ⟨harity, hsupported, hspan⟩]
    rw [BoundOperation.entered_eq_wrote]
    exact h.eq_dispatch.symm

theorem bind_eq_ok {k : Nat} {w w' : World κ η} {b : BoundOperation κ η}
    (h : r.bind platform name k w = (.ok b, w'))
    : r.find? name = some b.operation ∧ b.config = r.config ∧ w' = w := by
  unfold bind at h
  cases hfind : r.find? name with
  | none =>
    rw [hfind] at h
    cases h
  | some op =>
    rw [hfind] at h
    dsimp only at h
    split at h
    . cases h
    . cases h
      exact ⟨rfl, rfl, rfl⟩

theorem call_of_admits {op : Operation κ η} {w : World κ η} (hmem : op ∈ r.table)
    (hname : op.name = name) (h : (⟨op, r.config⟩ : BoundOperation κ η).Admits args w)
    : (r.call platform site name args w).1 =
        (⟨op, r.config⟩ : BoundOperation κ η).settle site
          (dispatch op.name op.arms platform args
            ((⟨op, r.config⟩ : BoundOperation κ η).entered platform site args w)).1 := by
  rw [r.call_of_find?_eq_some platform site args (r.find?_eq_some_iff.mpr ⟨hmem, hname⟩)]
  rcases hrun : dispatch op.name op.arms platform args
    (BoundOperation.entered _ platform site args w) with ⟨outcome, after⟩
  have ⟨_, hcall⟩ := BoundOperation.call_eq _ platform site args h hrun
  rw [hcall]

/-- A call is refused with an error, or the arms that it is made with come to it. -/
theorem call_eq_error_iff {w : World κ η} {e : CallError}
    : (r.call platform site name args w).1 = .error e ↔
        r.Refused name args.length w.span e ∨
          ∃ op ∈ r.table, op.name = name ∧
            BoundOperation.FailsInArms ⟨op, r.config⟩ platform site args w e := by
  constructor
  . intro h
    have ⟨ran, run, hcourse⟩ := r.exists_course platform site name args w
    cases hcourse with
    | refused hrefused =>
      rw [call_of_refused hrefused] at h
      cases h
      exact Or.inl hrefused
    | @started op _ _ _ hmem hname harity hsupported hspan _ =>
      have hadmits : (⟨op, r.config⟩ : BoundOperation κ η).Admits args w := by
        exact ⟨harity, hsupported, hspan⟩
      rw [call_of_admits hmem hname hadmits] at h
      exact Or.inr ⟨op, hmem, hname, hadmits, h⟩
  . intro h
    rcases h with hrefused | ⟨op, hmem, hname, hfails⟩
    . rw [call_of_refused hrefused]
    . rw [call_of_admits hmem hname hfails.admits, hfails.settled]

/-- A call is refused for the first of the checks that it fails, in the order of `Refused`, and only one
that passes all of them gets to an arm. -/
theorem call_precedence (r : Registry κ η) (platform : Platform κ η) (site name : String)
    (args : List Variant) (w : World κ η)
    : (∀ run, run = r.call platform site name args w ↔
        ∃ ran, r.Course platform site name args w ran run) ∧
      (∀ e, (r.call platform site name args w).1 = .error e ↔
        r.Refused name args.length w.span e ∨
          ∃ op ∈ r.table, op.name = name ∧
            BoundOperation.FailsInArms ⟨op, r.config⟩ platform site args w e) ∧
      ∀ k b w', r.bind platform name k w = (.ok b, w') →
        w' = w ∧ ∀ site args, b.call platform site args = r.call platform site name args := by
  refine ⟨?_, ?_, ?_⟩
  . intro run
    constructor
    . intro hrun
      have ⟨ran, run', h⟩ := r.exists_course platform site name args w
      rw [hrun, ← h.eq_call]
      exact ⟨ran, h⟩
    . intro h
      have ⟨ran, h⟩ := h
      exact h.eq_call
  . intro e
    apply call_eq_error_iff
  . intro k b w' h
    have ⟨hfind, hconfig, hworld⟩ := bind_eq_ok h
    refine ⟨hworld, ?_⟩
    intro site args
    rw [r.call_of_find?_eq_some platform site args hfind, ← hconfig]

end Registry

end NativeCall
