import NativeCall.Host.Tracking
import NativeCall.Proofs.Narrowing
import NativeCall.Proofs.Notices
import NativeCall.Proofs.Reentry
import NativeCall.Proofs.Verdict

/-!
This module contains that the register keeps what it is set to over any run of calls that their
callers get wrong, whatever is logged meanwhile.
-/

namespace NativeCall

variable {κ η : Type}

def Host.KeepsErrno (host : Host κ η) (symbol : String) : Prop :=
  ∀ w, (host.socketConstant symbol w).2.errno = w.errno

theorem Asked.errno_eq {platform : Platform κ η} {w w' : World (Traced κ) η}
    (h : Asked platform w w')
    (hkeep : ∀ symbol answer, .constant symbol answer ∈ w'.os.events →
      platform.host.KeepsErrno symbol)
    : w'.errno = w.errno := by
  induction h with
  | nothing => rfl
  | @constant w' _ symbol ih =>
    have hsymbol : platform.host.KeepsErrno symbol := by
      apply hkeep symbol (platform.host.socketConstant symbol w'.untraced).1
      exact List.mem_append_right _ (List.mem_singleton_self _)
    have hasked := ih fun earlier answer hmem => hkeep earlier answer (List.mem_append_left _ hmem)
    exact (hsymbol w'.untraced).trans hasked

/-- A call that passes the checks and fails by the caller's fault leaves the world as the dispatch has
left it, the span and the log apart. -/
theorem BoundOperation.call_of_misuse {b : BoundOperation κ η} {platform : Platform κ η}
    {site : String} {args : List Variant} {w : World κ η} (h : b.Admits args w) {e : CallError}
    (hmisuse : e.isMisuse) (hresult : (b.call platform site args w).1 = .error e)
    : ∃ log after,
        dispatch b.operation.name b.operation.arms platform args (b.entered platform site args w) =
          (.error e, after) ∧
        b.call platform site args w = (.error e, { after with span := none, log := log }) := by
  rcases hrun : dispatch b.operation.name b.operation.arms platform args
    (b.entered platform site args w) with ⟨outcome, after⟩
  have ⟨log, hcall⟩ := b.call_eq platform site args h hrun
  rw [hcall] at hresult
  cases outcome with
  | error e' =>
    cases hresult
    exact ⟨log, after, rfl, hcall⟩
  | ok outcome =>
    have hfinal (substituted : List Variant) : outcome ≠ .redispatch substituted := by
      rintro rfl
      have hne := dispatch_ne_redispatch b.operation.name b.operation.arms platform args substituted
      exact hne _ (congrArg Prod.fst hrun)
    obtain ⟨code, rfl⟩ := settle_eq_error hfinal hresult
    cases hmisuse

namespace Registry

variable {config : BindingConfig} {platform : Platform κ η} {site : String} {args : List Variant}
  {w : World κ η}

theorem exists_carried_of_misuse {op : Operation κ η} (hop : op ∈ Table.builtIn) {e : CallError}
    (hmisuse : e.isMisuse) (h : BoundOperation.FailsInArms ⟨op, config⟩ platform site args w e)
    : ∃ entered log after,
        Carried platform op.name op.policy args
          { w.traced [] with log := entered, span := some op.name } (.error e, after) ∧
        tracedCall config platform site op.name args w =
          (.error e, { after with span := none, log := log }) := by
  have ⟨traced, hmem, hstep⟩ := Table.exists_traced platform hop
  let b : BoundOperation (Traced κ) η := ⟨traced, config⟩
  have hadmits : b.Admits args (w.traced []) := by
    constructor
    . exact h.admits.arity.trans hstep.arity.symm
    . exact fun hpolicy => h.admits.supported (hstep.policy.symm.trans hpolicy)
    . exact h.admits.outside
  have hcall : tracedCall config platform site op.name args w =
      b.call platform.traced site args (w.traced []) := by
    have hfind := (builtIn config).find?_eq_some_iff.mpr ⟨hmem, hstep.name⟩
    exact congrFun (call_of_find?_eq_some _ platform.traced site args hfind) _
  have hresult : (b.call platform.traced site args (w.traced [])).1 = .error e := by
    rw [← hcall]
    have herror := (call_eq_error_iff (r := builtIn config)).mpr (Or.inr ⟨op, hop, rfl, h⟩)
    rwa [call_eq_tracedCall] at herror
  have ⟨log, after, hrun, hbound⟩ := BoundOperation.call_of_misuse hadmits hmisuse hresult
  have ⟨entered, hentered⟩ := b.entered_eq platform.traced site args (w.traced [])
  have hcarried := dispatch_carried (Table.builtIn_carry platform traced hmem) args
    { w.traced [] with log := entered, span := some traced.name }
  rw [hentered] at hrun
  rw [hrun, hstep.name, hstep.policy] at hcarried
  exact ⟨entered, log, after, hcarried, hcall.trans hbound⟩

/-- A call that fails by the caller's fault leaves the register as it was, unless the groups have been
asked for, and ends outside of every span. -/
theorem errno_of_misuse {op : Operation κ η} (hop : op ∈ Table.builtIn) {e : CallError}
    (hmisuse : e.isMisuse) (h : BoundOperation.FailsInArms ⟨op, config⟩ platform site args w e)
    (hgroups : op.name = "getgroups" → requests config platform site op.name args w = [])
    (hkeep : ∀ symbol answer,
      .constant symbol answer ∈ events config platform site op.name args w →
        platform.host.KeepsErrno symbol)
    : ((builtIn config).call platform site op.name args w).2.errno = w.errno ∧
        ((builtIn config).call platform site op.name args w).2.span = none := by
  have ⟨entered, log, after, hcarried, hcall⟩ := exists_carried_of_misuse hop hmisuse h
  have hevents : events config platform site op.name args w = after.os.events := by
    unfold events
    rw [hcall]
  rw [call_eq_tracedCall, hcall]
  refine ⟨?_, rfl⟩
  rw [hevents] at hkeep
  cases hcarried with
  | refused hasked => exact hasked.errno_eq hkeep
  | overrun hname hlisted =>
    -- the groups take requests, which the call has not made
    have ⟨listing, hlisting, hgroups'⟩ := hlisted.events
    have hnone := hgroups hname
    unfold requests at hnone
    rw [hevents, hlisting, World.traced, List.nil_append, hgroups'.filter_isRequest] at hnone
    subst hnone
    cases hgroups'

end Registry

namespace Turn

variable (platform : Platform κ η)

/-- The call of the turn passes the checks and fails by the caller's fault. -/
structure Misused (turn : Turn κ η) (w : World κ η) : Prop where
  meanwhile : (turn.meanwhile w).errno = w.errno
  fails : ∃ op ∈ Table.builtIn, op.name = turn.name ∧ ∃ e : CallError, e.isMisuse ∧
    BoundOperation.FailsInArms ⟨op, turn.config⟩ platform turn.site turn.args (turn.meanwhile w) e
  groups : turn.name = "getgroups" → (turn.events platform w).filter Event.isRequest = []
  host : ∀ symbol answer, .constant symbol answer ∈ turn.events platform w →
    platform.host.KeepsErrno symbol

def Misuses : List (Turn κ η) → World κ η → Prop
  | [], _ => True
  | turn :: rest, w => turn.Misused platform w ∧ Misuses rest (turn.call platform w).2

variable {platform}

theorem Misused.undisturbed {turn : Turn κ η} {w : World κ η} (h : turn.Misused platform w)
    : (turn.call platform w).2.errno = w.errno ∧ (turn.call platform w).2.span = none := by
  have ⟨op, hop, hname, e, hmisuse, hfails⟩ := h.fails
  have hgroups := h.groups
  have hhost := h.host
  unfold events at hgroups hhost
  rw [← hname] at hgroups hhost
  have ⟨herrno, hspan⟩ := Registry.errno_of_misuse hop hmisuse hfails hgroups hhost
  rw [call_eq, ← hname]
  exact ⟨herrno.trans h.meanwhile, hspan⟩

theorem Misuses.undisturbed {turns : List (Turn κ η)} {w : World κ η}
    (h : Misuses platform turns w) (hspan : w.span = none)
    : (run platform turns w).2.errno = w.errno ∧ (run platform turns w).2.span = none := by
  induction turns generalizing w with
  | nil => exact ⟨rfl, hspan⟩
  | cons turn rest ih =>
    have ⟨hturn, hrest⟩ := h
    have ⟨herrno, hspan'⟩ := hturn.undisturbed
    have ⟨hkept, hopen⟩ := ih hrest hspan'
    rw [run_cons]
    exact ⟨hkept.trans herrno, hopen⟩

end Turn

namespace Registry

variable (config : BindingConfig) (platform : Platform κ η) (site : String)

theorem span_setErrno {w : World κ η} (hspan : w.span = none) (args : List Variant)
    : ((builtIn config).call platform site "errno=" args w).2.span = none := by
  rw [call_keepsSpan_of_unhooked (Table.find?_setErrno config) rfl platform site args w]
  exact hspan

theorem errno_after_misuses {turns : List (Turn κ η)} {w : World κ η} (hspan : w.span = none)
    (h : Turn.Misuses platform turns w)
    : ((builtIn config).call platform site "errno" [] (Turn.run platform turns w).2).1 =
        .ok (.int w.errno.code.toInt64) := by
  have ⟨herrno, hspan'⟩ := h.undisturbed hspan
  rw [errno_call config platform site hspan', herrno]

/-- The register is what it has last been set to, however many calls go wrong by their caller's fault in
between. -/
theorem errno_set_and_read {w : World κ η} (hspan : w.span = none) (v : Int64)
    : let set := (builtIn config).call platform site "errno=" [.int v] w
      (-2 ^ 31 ≤ v.toInt ∧ v.toInt < 2 ^ 31 →
        set.1 = .ok (.int 0) ∧
        ∀ turns, Turn.Misuses platform turns set.2 → ∀ config' site',
          ((builtIn config').call platform site' "errno" [] (Turn.run platform turns set.2).2).1 =
            .ok (.int v)) ∧
      (¬ (-2 ^ 31 ≤ v.toInt ∧ v.toInt < 2 ^ 31) →
        set.1 = .error (.outOfRange "errno=" 0 v) ∧
        ∀ turns, Turn.Misuses platform turns set.2 → ∀ config' site',
          ((builtIn config').call platform site' "errno" [] (Turn.run platform turns set.2).2).1 =
            ((builtIn config').call platform site' "errno" [] w).1) := by
  intro set
  have hset : set = (builtIn config).call platform site "errno=" [.int v] w := by rfl
  clear_value set
  have hspan' := span_setErrno config platform site hspan [.int v]
  rw [← hset] at hspan'
  constructor
  . intro hv
    have hkeeps := setErrno_keeps config platform site hspan hv
    rw [← hset] at hkeeps
    refine ⟨hkeeps.1, ?_⟩
    intro turns hturns config' site'
    have heq : set.2.errno.code.toInt64 = v := by
      rw [← Int64.toInt_inj, Int32.toInt_toInt64]
      exact hkeeps.2
    rw [errno_after_misuses config' platform site' hspan' hturns, heq]
  . intro hv
    have ⟨log, hgives⟩ := setErrno_gives config platform site hspan hv
    rw [← hset] at hgives
    subst hgives
    refine ⟨rfl, ?_⟩
    intro turns hturns config' site'
    rw [errno_after_misuses config' platform site' hspan' hturns,
      errno_call config' platform site' hspan]

/-- The logger sets the register to 99 whenever a line is written, and there are many. -/
theorem errno_set_and_read_minus_seven
    : let platform : Platform Posix TrackedDirectory :=
        ⟨Posix.kernel, .tracking Posix.kernel, fun _ _ _ => ⟨99⟩⟩
      let config : BindingConfig := { traceCalls := true, logOsErrors := true }
      let w : World Posix TrackedDirectory := ⟨⟨.fresh, ⟨5⟩, .initial⟩, none, #[], ⟨Path.root⟩⟩
      let set := (builtIn config).call platform "here" "errno=" [.int (-7)] w
      let turns : List (Turn Posix TrackedDirectory) :=
        [⟨id, config, "here", "close", [.str "5"]⟩,
          ⟨id, config, "here", "umask", [.int 0x100000000]⟩,
          ⟨id, config, "here", "_getsockopt",
            [.int 3, .symbol "SOCKET", .symbol "NONE", .pointer .null, .pointer .null]⟩]
      set.1 = .ok (.int 0) ∧ Turn.Misuses platform turns set.2 ∧
        ((builtIn config).call platform "here" "errno" [] (Turn.run platform turns set.2).2).1 =
          .ok (.int (-7)) := by
  intro platform config w set turns
  have hmisused (name : String) (args : List Variant) {op : Operation Posix TrackedDirectory}
      (hfind : (builtIn config).find? name = some op) (e : CallError) (hmisuse : e.isMisuse)
      (hchecks : args.length = op.arity ∧ op.policy ≠ .unsupported ∧ name ≠ "getgroups")
      (hrun : ∀ w, (dispatch op.name op.arms platform args w).1 = .error e)
      (w : World Posix TrackedDirectory) (hspan : w.span = none)
      : Turn.Misused platform ⟨id, config, "here", name, args⟩ w := by
    have ⟨harity, hsupported, hgroups⟩ := hchecks
    have ⟨hop, hname⟩ := (builtIn config).find?_eq_some_iff.mp hfind
    refine ⟨rfl, ⟨op, hop, hname, e, hmisuse, ⟨harity, hsupported, hspan⟩, ?_⟩,
      fun h => absurd h hgroups, fun _ _ _ _ => rfl⟩
    rw [hrun]
    rfl
  have hclose := hmisused "close" [.str "5"] rfl
    (.noMatchingArm "close" "string") rfl (by decide) fun _ => rfl
  have humask := hmisused "umask" [.int 0x100000000] rfl
    (.outOfRange "umask" 0 0x100000000) rfl (by decide) fun _ => rfl
  have hoption := hmisused "_getsockopt"
    [.int 3, .symbol "SOCKET", .symbol "NONE", .pointer .null, .pointer .null] rfl
    (.unknownConstant "SO_NONE") rfl (by decide) fun _ => rfl
  have hfirst := hclose set.2 (span_setErrno config platform "here" rfl _)
  have hsecond := humask _ hfirst.undisturbed.2
  have hturns : Turn.Misuses platform turns set.2 := by
    exact ⟨hfirst, hsecond, hoption _ hsecond.undisturbed.2, trivial⟩
  have hcalls := errno_set_and_read config platform "here" (w := w) rfl (-7)
  have ⟨hset, hread⟩ := hcalls.1 (by decide)
  exact ⟨hset, hturns, hread turns hturns config "here"⟩

end Registry

end NativeCall
