import NativeCall.Proofs.Events

/-!
This module contains what a call tells the host: nothing, unless the system has just changed the
directory for it.
-/

namespace NativeCall

variable {κ η : Type}

namespace Event

def notice? : Event → Option String
  | notice path => some path
  | _ => none

def isChange : Event → Bool
  | @request .number (.chdir _) _ answer _ => answer != -1
  | _ => false

theorem Asking.notice?_eq_none {events : List Event} (h : Asking events)
    : ∀ event ∈ events, event.notice? = none := by
  intro event hmem
  have := (h event hmem).1
  cases event with
  | notice path => cases this
  | request | directory | constant => rfl

end Event

theorem Answered.notice?_eq_none {name : String} {policy : Policy} {args : List Variant}
    {entry register : Errno} {result : Except CallError Outcome} {answered : List Event}
    (h : Answered name policy args entry result register answered)
    : ∀ event ∈ answered, event.notice? = none := by
  cases h with
  | refused | substituted | computed => apply List.forall_mem_nil
  | told | requested => exact List.forall_mem_singleton.mpr rfl
  | overrun _ hlisting | listed _ _ hlisting =>
    exact hlisting.forall_mem (P := (·.notice? = none)) fun _ _ _ _ => rfl

namespace Table

theorem onSuccess_eq_none {op : Operation κ η} (hop : op ∈ builtIn) (hname : op.name ≠ "chdir")
    : op.onSuccess = none := by
  have hall : ∀ op ∈ (builtIn : List (Operation κ η)), op.name = "chdir" ∨ op.onSuccess = none := by
    refine List.forall_iff_forall_mem.mp ?_
    repeat' apply And.intro
    all_goals first
      | exact Or.inr rfl
      | exact Or.inl rfl
  exact (hall op hop).resolve_left hname

theorem find?_chdir (config : BindingConfig)
    : (Registry.builtIn config : Registry κ η).find? "chdir" = some chdir := by
  rfl

end Table

namespace BoundOperation

variable (platform : Platform κ η) (site : String) (args : List Variant)

theorem call_events_of_not_admits {b : BoundOperation (Traced κ) η} {w : World (Traced κ) η}
    (h : ¬ b.Admits args w)
    : (b.call platform.traced site args w).2.os.events = w.os.events := by
  have ⟨e, w', hcall, hlogged, _⟩ := b.call_of_not_admits platform.traced site args h
  rw [hcall, hlogged.os_eq]

theorem call_events_of_admits {b : BoundOperation (Traced κ) η} {w : World (Traced κ) η}
    (h : b.Admits args w) {outcome : Except CallError Outcome} {after : World (Traced κ) η}
    (hrun : dispatch b.operation.name b.operation.arms platform.traced args
      (b.entered platform.traced site args w) = (outcome, after))
    : (b.call platform.traced site args w).2.os.events =
        (b.resumed platform.traced args outcome { after with span := none }).os.events := by
  have ⟨log, hcall⟩ := b.call_eq platform.traced site args h hrun
  rw [hcall]

theorem call_events_of_onSuccess_eq_none {op : Operation (Traced κ) η} (hop : op ∈ Table.builtIn)
    (hhook : op.onSuccess = none) (config : BindingConfig) (w : World (Traced κ) η)
    : ∃ added, ((⟨op, config⟩ : BoundOperation (Traced κ) η).call platform.traced site args
        w).2.os.events = w.os.events ++ added ∧ ∀ event ∈ added, event.notice? = none := by
  by_cases hadmits : (⟨op, config⟩ : BoundOperation (Traced κ) η).Admits args w
  . have ⟨log, hentered⟩ := entered_eq ⟨op, config⟩ platform.traced site args w
    have hcarried := dispatch_carried (Table.builtIn_carry platform op hop) args
      { w with log := log, span := some op.name }
    rw [← hentered] at hcarried
    rcases hrun : dispatch op.name op.arms platform.traced args
      (entered ⟨op, config⟩ platform.traced site args w) with ⟨outcome, after⟩
    rw [hrun] at hcarried
    have ⟨asked, answered, hevents, hasking, hanswered⟩ := hcarried.events
    refine ⟨asked ++ answered, ?_, ?_⟩
    . have hresumed : (resumed ⟨op, config⟩ platform.traced args outcome
          { after with span := none }).os = after.os := by
        unfold resumed afterHook
        cases outcome <;> simp only [hhook, ite_self]
      rw [call_events_of_admits platform site args hadmits hrun, hresumed, hevents, hentered,
        List.append_assoc]
    . exact List.forall_mem_append.mpr ⟨hasking.notice?_eq_none, hanswered.notice?_eq_none⟩
  . exact ⟨[], by simp [call_events_of_not_admits platform site args hadmits],
      List.forall_mem_nil _⟩

end BoundOperation

/-- What a call to `chdir` deals with. -/
inductive Changing (args : List Variant) : List Event → Prop where
  | untried : Changing args []
  | failed (target : CString) (memory : Memory) (register : Errno)
      : Changing args [@Event.request .number (.chdir target) memory (-1) register]
  | changed {path : String} {target : CString} {answer : Int64} (memory : Memory)
      (register : Errno) (hargs : args = [.str path]) (htarget : CString.ofText? path = some target)
      (hanswer : answer ≠ -1)
      : Changing args
          [@Event.request .number (.chdir target) memory answer register, .notice path]

theorem Request.chdir_eq (op path : String)
    : Request.chdir ⟨op, [.str path]⟩ =
        match CString.ofText? path with
        | some target => .ok (.status (.chdir target))
        | none => .error (.interiorNul op 0) := by
  have htarget : Invocation.cString ⟨op, [.str path]⟩ 0 =
      match CString.ofText? path with
      | some target => .ok target
      | none => .error (.interiorNul op 0) := by
    rfl
  unfold chdir
  rw [htarget]
  cases CString.ofText? path <;> rfl

namespace BoundOperation

variable (platform : Platform κ η) (config : BindingConfig) (site : String)

theorem chdir_dispatch (path : String) (w : World κ η)
    : dispatch "chdir" Table.chdir.arms platform [.str path] w =
        match CString.ofText? path with
        | some target =>
          let (answer, after) := platform.run (.chdir target) w
          (.ok (.status (sentinel answer after.errno)), after)
        | none => (.error (.interiorNul "chdir" 0), w) := by
  have hselect : Dispatch.select "chdir" (Table.chdir.arms : List (Arm (CallPath κ η)))
      [.str path] = .ok (Table.arm [.str] Request.chdir) := by
    rfl
  have hrun : (Table.arm [.str] Request.chdir : Arm (CallPath κ η)).path platform
      ⟨"chdir", [.str path]⟩ w =
      (do CallPath.carryOut platform (← Request.chdir ⟨"chdir", [.str path]⟩) :
        Call κ η Outcome) w := by
    rfl
  rw [Request.chdir_eq] at hrun
  rw [dispatch_eq, hselect]
  dsimp only
  rw [hrun]
  cases CString.ofText? path <;> rfl

theorem chdir_events_of_str {path : String} {w : World (Traced κ) η} (hstart : w.os.events = [])
    (hadmits : (⟨Table.chdir, config⟩ : BoundOperation (Traced κ) η).Admits [.str path] w)
    : Changing [.str path]
        ((⟨Table.chdir, config⟩ : BoundOperation (Traced κ) η).call platform.traced site [.str path]
          w).2.os.events := by
  have ⟨log, hentered⟩ := entered_eq ⟨Table.chdir, config⟩ platform.traced site [.str path] w
  have hrun := chdir_dispatch platform.traced path
    (entered ⟨Table.chdir, config⟩ platform.traced site [.str path] w)
  cases htarget : CString.ofText? path with
  | none =>
    rw [htarget] at hrun
    rw [call_events_of_admits platform site _ hadmits hrun, resumed_of_error, hentered]
    dsimp only
    rw [hstart]
    exact .untried
  | some target =>
    rcases hafter : platform.traced.run (.chdir target)
      (entered ⟨Table.chdir, config⟩ platform.traced site [.str path] w) with ⟨answer, after⟩
    have hevents := platform.traced_run_events (.chdir target)
      (entered ⟨Table.chdir, config⟩ platform.traced site [.str path] w)
    rw [hafter, hentered] at hevents
    dsimp only at hevents
    rw [hstart, List.nil_append] at hevents
    simp only [htarget, hafter] at hrun
    rw [call_events_of_admits platform site _ hadmits hrun]
    by_cases hanswer : answer = -1
    . subst hanswer
      rw [sentinel_eq_error_iff.mpr ⟨rfl, rfl⟩, resumed_of_failure _ _ _ rfl]
      dsimp only
      rw [hevents]
      exact .failed target w.memory after.errno
    . have hsuccess : sentinel answer after.errno = .ok answer := by
        unfold sentinel
        simp only [hanswer, ↓reduceIte]
      have htold : (resumed ⟨Table.chdir, config⟩ platform.traced [.str path]
          (.ok (.status (.ok answer))) { after with span := none }).os.events =
          after.os.events ++ [.notice path] := by
        rw [resumed_of_success _ _ _ rfl]
        rfl
      rw [hsuccess, htold, hevents]
      exact .changed w.memory after.errno rfl htarget hanswer

theorem chdir_events {args : List Variant} {w : World (Traced κ) η} (hstart : w.os.events = [])
    : Changing args
        ((⟨Table.chdir, config⟩ : BoundOperation (Traced κ) η).call platform.traced site args
          w).2.os.events := by
  by_cases hadmits : (⟨Table.chdir, config⟩ : BoundOperation (Traced κ) η).Admits args w
  . have ⟨log, hentered⟩ := entered_eq ⟨Table.chdir, config⟩ platform.traced site args w
    have ⟨v, hargs⟩ := List.length_eq_one_iff.mp hadmits.arity
    subst hargs
    cases v with
    | str path => exact chdir_events_of_str platform config site hstart hadmits
    | nil | bool | int | float | symbol | pointer =>
      rw [call_events_of_admits platform site _ hadmits (dispatch_eq _ _ _ _ _), hentered]
      show Changing _ w.os.events
      rw [hstart]
      exact .untried
  . rw [call_events_of_not_admits platform site args hadmits, hstart]
    exact .untried

end BoundOperation

namespace Registry

variable (config : BindingConfig) (platform : Platform κ η) (site : String) (args : List Variant)
  (w : World κ η)

theorem events_of_name_ne {name : String} (hname : name ≠ "chdir")
    : ∀ event ∈ events config platform site name args w, event.notice? = none := by
  unfold events tracedCall
  cases hfind : (builtIn config : Registry (Traced κ) η).find? name with
  | none =>
    rw [call_of_find?_eq_none _ _ _ _ hfind]
    apply List.forall_mem_nil
  | some op =>
    rw [call_of_find?_eq_some _ _ _ _ hfind]
    have hop : op ∈ Table.builtIn := List.mem_of_find?_eq_some hfind
    have hne : op.name ≠ "chdir" := by
      have hnamed : op.name = name := by simpa using List.find?_some hfind
      rw [hnamed]
      exact hname
    have ⟨added, hevents, hadded⟩ := BoundOperation.call_events_of_onSuccess_eq_none platform site
      args hop (Table.onSuccess_eq_none hop hne) config (w.traced [])
    show ∀ event ∈ (BoundOperation.call ⟨op, config⟩ platform.traced site args
      (w.traced [])).2.os.events, _
    rw [hevents]
    exact hadded

theorem events_chdir : Changing args (events config platform site "chdir" args w) := by
  unfold events tracedCall
  rw [call_of_find?_eq_some _ _ _ _ (Table.find?_chdir config)]
  exact BoundOperation.chdir_events platform config site rfl

end Registry

end NativeCall
