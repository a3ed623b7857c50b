import NativeCall.Host.Tracking
import NativeCall.Posix.Kernel
import NativeCall.Proofs.Calling
import NativeCall.Proofs.Lockstep
import NativeCall.Proofs.Trace

/-!
This module contains that nobody can tell from a call what is logged, and how.
-/

namespace NativeCall

variable {κ η : Type}

namespace World

def SameButLog (v w : World κ η) : Prop :=
  ∃ log, v = { w with log := log }

def SameButRegister (v w : World κ η) : Prop :=
  ∃ log e, v = { w with log := log, errno := e }

theorem SameButLog.sameButRegister {v w : World κ η} (h : v.SameButLog w)
    : v.SameButRegister w := by
  have ⟨log, h⟩ := h
  subst h
  exact ⟨log, w.errno, rfl⟩

theorem SameButLog.errno_eq {v w : World κ η} (h : v.SameButLog w) : v.errno = w.errno := by
  have ⟨log, h⟩ := h
  rw [h]

theorem SameButLog.withSpan {v w : World κ η} (h : v.SameButLog w) (span : Option String)
    : SameButLog { v with span := span } { w with span := span } := by
  have ⟨log, h⟩ := h
  subst h
  exact ⟨log, rfl⟩

theorem SameButRegister.restored {v w : World κ η} (h : v.SameButRegister w)
    (log log' : Array LogLine) (e : Errno)
    : SameButLog { v with log := log, errno := e } { w with log := log', errno := e } := by
  have ⟨_, _, h⟩ := h
  subst h
  exact ⟨log, rfl⟩

end World

/-- The host does not look at the log. Its queries leave all else alike; after it has been told of a
directory the error register may be another too. -/
structure Host.IgnoresLog (host : Host κ η) : Prop where
  currentDirectory : Lockstep World.SameButLog host.currentDirectory host.currentDirectory
  socketConstant : ∀ name,
    Lockstep World.SameButLog (host.socketConstant name) (host.socketConstant name)
  setCurrentDirectory : ∀ path v w, World.SameButLog v w →
    World.SameButRegister (host.setCurrentDirectory path v).2 (host.setCurrentDirectory path w).2

theorem Host.tracking_ignoresLog (kernel : Kernel κ) : (tracking kernel).IgnoresLog := by
  constructor
  case currentDirectory =>
    rintro _ w ⟨log, rfl⟩
    exact ⟨rfl, log, rfl⟩
  case socketConstant =>
    rintro name _ w ⟨log, rfl⟩
    exact ⟨rfl, log, rfl⟩
  case setCurrentDirectory =>
    rintro path _ w ⟨log, rfl⟩
    exact ⟨log, w.errno, rfl⟩

theorem Lockstep.traced {α : Type} {x : Action κ η α} (h : Lockstep World.SameButLog x x)
    (event : α → Event) : Lockstep World.SameButLog (x.traced event) (x.traced event) := by
  rintro _ w ⟨log, rfl⟩
  have ⟨hresult, log', hworld⟩ := h { w.untraced with log := log } w.untraced ⟨log, rfl⟩
  refine ⟨hresult, log', ?_⟩
  show (x { w.untraced with log := log }).2.traced
    (w.os.events ++ [event (x { w.untraced with log := log }).1]) = _
  rw [hworld, hresult]
  rfl

theorem Host.IgnoresLog.traced {host : Host κ η} (h : host.IgnoresLog) : host.traced.IgnoresLog := by
  constructor
  case currentDirectory => exact h.currentDirectory.traced _
  case socketConstant =>
    intro name
    exact (h.socketConstant name).traced _
  case setCurrentDirectory =>
    rintro path _ w ⟨log, rfl⟩
    have ⟨log', e, hworld⟩ := h.setCurrentDirectory path { w.untraced with log := log } w.untraced
      ⟨log, rfl⟩
    refine ⟨log', e, ?_⟩
    show (host.setCurrentDirectory path { w.untraced with log := log }).2.traced _ = _
    rw [hworld]
    rfl

/-- If the host does not look at the log, then neither do the paths of the operation, whatever the
logger does, and they write nothing to it. -/
def Operation.IgnoresLog (op : Operation κ η) : Prop :=
  ∀ (kernel : Kernel κ) (host : Host κ η) (logger logger' : Logger), host.IgnoresLog →
    op.InStep World.SameButLog World.SameButRegister ⟨kernel, host, logger⟩
      ⟨kernel, host, logger'⟩ op

theorem Host.IgnoresLog.simulation {host : Host κ η} (h : host.IgnoresLog) (kernel : Kernel κ)
    (logger logger' : Logger)
    : Simulation World.SameButLog ⟨kernel, host, logger⟩ ⟨kernel, host, logger'⟩ := by
  constructor
  case memory =>
    rintro _ w ⟨log, rfl⟩
    rfl
  case errno =>
    rintro _ w ⟨log, rfl⟩
    rfl
  case setMemory =>
    rintro _ w ⟨log, rfl⟩ memory
    exact ⟨log, rfl⟩
  case setErrno =>
    rintro _ w ⟨log, rfl⟩ e
    exact ⟨log, rfl⟩
  case run =>
    rintro reply request _ w ⟨log, rfl⟩
    exact ⟨rfl, log, rfl⟩
  case currentDirectory => exact h.currentDirectory
  case socketConstant => exact h.socketConstant

theorem Table.builtIn_ignoresLog : ∀ op ∈ (builtIn : List (Operation κ η)), op.IgnoresLog := by
  intro op hop kernel host logger logger' hhost
  have htable := builtIn_inStep (hhost.simulation kernel logger logger')
    hhost.setCurrentDirectory fun v w h => h.sameButRegister
  exact List.forall₂_same.mp htable op hop

namespace BoundOperation

variable {platform silent : Platform κ η} {op : Operation κ η}

theorem afterHook_sameButRegister
    (hop : op.InStep World.SameButLog World.SameButRegister platform silent op)
    (config config' : BindingConfig) (args : List Variant) {v w : World κ η}
    (h : v.SameButLog w)
    : World.SameButRegister ((⟨op, config⟩ : BoundOperation κ η).afterHook platform args v)
        ((⟨op, config'⟩ : BoundOperation κ η).afterHook silent args w) := by
  have hhooks := hop.onSuccess
  unfold afterHook
  dsimp only
  generalize op.onSuccess = f at hhooks
  cases hhooks with
  | none => exact h.sameButRegister
  | some hhook => exact hhook args v w h

theorem resumed_sameButRegister
    (hop : op.InStep World.SameButLog World.SameButRegister platform silent op)
    (config config' : BindingConfig) (args : List Variant) (outcome : Except CallError Outcome)
    {v w : World κ η} (h : v.SameButLog w)
    : World.SameButRegister ((⟨op, config⟩ : BoundOperation κ η).resumed platform args outcome v)
        ((⟨op, config'⟩ : BoundOperation κ η).resumed silent args outcome w) := by
  unfold resumed
  cases outcome with
  | error e => exact h.sameButRegister
  | ok outcome =>
    dsimp only
    split
    . exact afterHook_sameButRegister hop config config' args h
    . exact h.sameButRegister

/-- Two admitted calls from the same world on platforms that differ in the logger only. -/
theorem call_sameButLog {kernel : Kernel κ} {host : Host κ η} {logger logger' : Logger}
    (hop : op.InStep World.SameButLog World.SameButRegister ⟨kernel, host, logger⟩
      ⟨kernel, host, logger'⟩ op)
    (config config' : BindingConfig) (site : String) {args : List Variant} {w : World κ η}
    (hadmits : (⟨op, config⟩ : BoundOperation κ η).Admits args w)
    : let loud := (⟨op, config⟩ : BoundOperation κ η).call ⟨kernel, host, logger⟩ site args w
      let quiet := (⟨op, config'⟩ : BoundOperation κ η).call ⟨kernel, host, logger'⟩ site args w
      loud.1 = quiet.1 ∧ loud.2.SameButLog quiet.2 := by
  have hadmits' : (⟨op, config'⟩ : BoundOperation κ η).Admits args w := by
    exact ⟨hadmits.arity, hadmits.supported, hadmits.outside⟩
  have ⟨log, hstart⟩ := entered_eq ⟨op, config⟩ ⟨kernel, host, logger⟩ site args w
  have ⟨log', hstart'⟩ := entered_eq ⟨op, config'⟩ ⟨kernel, host, logger'⟩ site args w
  have hstarts : World.SameButLog
      ((⟨op, config⟩ : BoundOperation κ η).entered ⟨kernel, host, logger⟩ site args w)
      ((⟨op, config'⟩ : BoundOperation κ η).entered ⟨kernel, host, logger'⟩ site args w) := by
    rw [hstart, hstart']
    exact ⟨log, rfl⟩
  have ⟨houtcome, hafter⟩ := dispatch_lockstep hop.arms op.name args _ _ hstarts
  rcases hrun : dispatch op.name op.arms ⟨kernel, host, logger⟩ args
    ((⟨op, config⟩ : BoundOperation κ η).entered ⟨kernel, host, logger⟩ site args w)
    with ⟨outcome, after⟩
  rcases hrun' : dispatch op.name op.arms ⟨kernel, host, logger'⟩ args
    ((⟨op, config'⟩ : BoundOperation κ η).entered ⟨kernel, host, logger'⟩ site args w)
    with ⟨outcome', after'⟩
  rw [hrun, hrun'] at houtcome hafter
  cases houtcome
  have ⟨left, hcall⟩ := call_eq ⟨op, config⟩ ⟨kernel, host, logger⟩ site args hadmits hrun
  have ⟨right, hcall'⟩ := call_eq ⟨op, config'⟩ ⟨kernel, host, logger'⟩ site args hadmits' hrun'
  have hresumed := resumed_sameButRegister hop config config' args outcome (hafter.withSpan none)
  dsimp only
  rw [hcall, hcall', hafter.errno_eq]
  exact ⟨rfl, hresumed.restored left right (registerAfter after'.errno outcome)⟩

/-- An admitted call comes to the same with any logger and any switches as with a silent one, the log apart,
and leaves the register as its path does or with the code of its failure. -/
theorem call_ignores_logging {op : Operation κ η} (hop : op.IgnoresLog) {host : Host κ η}
    (hhost : host.IgnoresLog) (kernel : Kernel κ) (logger : Logger) (config : BindingConfig)
    (site : String) {args : List Variant} {w : World κ η}
    (hadmits : (⟨op, config⟩ : BoundOperation κ η).Admits args w)
    : let quietly : BindingConfig := { config with traceCalls := false, logOsErrors := false }
      let b : BoundOperation κ η := ⟨op, config⟩
      let loud := b.call ⟨kernel, host, logger⟩ site args w
      let quiet := (⟨op, quietly⟩ : BoundOperation κ η).call ⟨kernel, host, .undisturbing⟩ site
        args w
      loud.1 = quiet.1 ∧ loud.2.SameButLog quiet.2 ∧
        ∃ start outcome after, start.errno = w.errno ∧
          start.SameButLog { w with span := some op.name } ∧
          dispatch op.name op.arms ⟨kernel, host, logger⟩ args start = (outcome, after) ∧
          loud.1 = b.settle site outcome ∧
          loud.2.SameButLog
            { b.resumed ⟨kernel, host, logger⟩ args outcome { after with span := none } with
              errno := registerAfter after.errno outcome } := by
  intro quietly b loud quiet
  have ⟨hresult, hworld⟩ := call_sameButLog (hop kernel host logger .undisturbing hhost) config
    quietly site hadmits
  refine ⟨hresult, hworld, ?_⟩
  have ⟨log, hstart⟩ := b.entered_eq ⟨kernel, host, logger⟩ site args w
  rcases hrun : dispatch op.name op.arms ⟨kernel, host, logger⟩ args
    (b.entered ⟨kernel, host, logger⟩ site args w) with ⟨outcome, after⟩
  have ⟨log', hcall⟩ := b.call_eq ⟨kernel, host, logger⟩ site args hadmits hrun
  refine ⟨b.entered ⟨kernel, host, logger⟩ site args w, outcome, after, rfl, ⟨log, hstart⟩, hrun, ?_,
    log', ?_⟩
  . exact congrArg Prod.fst hcall
  . exact congrArg Prod.snd hcall

theorem chdir_ignores_logging
    : let kernel := Posix.kernel.traced
      let host := (Host.tracking Posix.kernel).traced
      let w : World (Traced Posix) TrackedDirectory :=
        ⟨⟨.fresh, ⟨5⟩, .initial, []⟩, none, #[], ⟨Path.root⟩⟩
      let op : Operation (Traced Posix) TrackedDirectory := Table.chdir
      let loud := (⟨op, { traceCalls := true, logOsErrors := true }⟩ : BoundOperation _ _).call
        ⟨kernel, host, fun _ _ _ => ⟨99⟩⟩ "here" [.str "/tmp"] w
      let quiet := (⟨op, { traceCalls := false, logOsErrors := false }⟩ : BoundOperation _ _).call
        ⟨kernel, host, .undisturbing⟩ "here" [.str "/tmp"] w
      loud.1 = quiet.1 ∧ loud.2.errno = quiet.2.errno ∧ loud.2.os.events = quiet.2.os.events := by
  intro kernel host w op loud quiet
  have hop : op.IgnoresLog := by
    apply Table.builtIn_ignoresLog
    exact List.mem_of_find?_eq_some (show Table.builtIn.find? (·.name == "chdir") = some op from rfl)
  have hhost : host.IgnoresLog := (Host.tracking_ignoresLog Posix.kernel).traced
  have hadmits : (⟨op, { traceCalls := true, logOsErrors := true }⟩ :
      BoundOperation _ _).Admits [.str "/tmp"] w := by
    exact ⟨rfl, nofun, rfl⟩
  have ⟨hresult, ⟨log, hworld⟩, _⟩ :=
    call_ignores_logging hop hhost kernel (fun _ _ _ => ⟨99⟩) _ "here" hadmits
  refine ⟨hresult, ?_, ?_⟩
  . exact congrArg (fun w => w.errno) hworld
  . exact congrArg (fun w => w.os.events) hworld

end BoundOperation

end NativeCall
