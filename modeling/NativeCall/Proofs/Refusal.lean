import NativeCall.Host.Recording
import NativeCall.Posix.Kernel
import NativeCall.Proofs.Events

/-!
This module contains that a refused call changes nothing, and that no call asks the system for the
same thing twice.
-/

namespace NativeCall

variable {κ η : Type}

namespace Platform

/-- What a refused call may do, asking the host for constants and the system for the groups, and
writing to the log, keeps a property of the machine. -/
structure QueriesKeep (platform : Platform κ η) (P : Machine κ → Prop) : Prop where
  constant : ∀ name w, P w.toMachine → P (platform.host.socketConstant name w).2.toMachine
  groups : ∀ size m, (platform.kernel.run (.getgroups size) m).1.count ≠ -1 → P m →
    P (platform.kernel.run (.getgroups size) m).2
  log : ∀ m log line, P m → P { m with errno := platform.logger log line m.errno }

/-- Asking the host for constants and the system for the groups changes nothing in the machine. -/
structure QueriesRead (platform : Platform κ η) : Prop where
  constant : ∀ name w, (platform.host.socketConstant name w).2.toMachine = w.toMachine
  groups : ∀ size m, (platform.kernel.run (.getgroups size) m).1.count ≠ -1 →
    (platform.kernel.run (.getgroups size) m).2 = m

theorem QueriesRead.keep_state {platform : Platform κ η} (h : platform.QueriesRead)
    (memory : Memory) (os : κ)
    : platform.QueriesKeep fun m => m.memory = memory ∧ m.os = os := by
  constructor
  . intro name w hw
    rw [h.constant name w]
    exact hw
  . intro size m hcount hm
    rw [h.groups size m hcount]
    exact hm
  . intro m log line hm
    exact hm

theorem QueriesRead.keep_errno {platform : Platform κ η} (h : platform.QueriesRead)
    (hquiet : ∀ log line e, platform.logger log line e = e) (e : Errno)
    : platform.QueriesKeep fun m => m.errno = e := by
  constructor
  . intro name w hw
    rw [h.constant name w]
    exact hw
  . intro size m hcount hm
    rw [h.groups size m hcount]
    exact hm
  . intro m log line hm
    rw [← hm]
    apply hquiet

variable {platform : Platform κ η} {P : Machine κ → Prop} (hkeep : platform.QueriesKeep P)
include hkeep

theorem QueriesKeep.asked {w w' : World (Traced κ) η} (h : Asked platform w w')
    (hw : P w.untraced.toMachine) : P w'.untraced.toMachine := by
  induction h with
  | nothing => exact hw
  | constant _ name ih => exact hkeep.constant name _ ih

theorem QueriesKeep.logged {w w' : World (Traced κ) η} (h : platform.traced.Logged w w')
    (hw : P w.untraced.toMachine) : P w'.untraced.toMachine := by
  induction h with
  | nothing => exact hw
  | note _ level text ih => exact hkeep.log _ _ _ ih

theorem QueriesKeep.rejected {name : String} {policy : Policy} {args : List Variant}
    {w after : World (Traced κ) η} {e : CallError}
    (h : Carried platform name policy args w (.error e, after)) (hw : P w.untraced.toMachine)
    : P after.untraced.toMachine := by
  cases h with
  | refused hasked he => exact hkeep.asked hasked hw
  | overrun _ hlisted =>
    refine hlisted.keep (P := fun w => P w.untraced.toMachine) ?_ hw
    intro size w hcount
    exact hkeep.groups size w.untraced.toMachine hcount

end Platform

/-- A refused call has not got beyond the choice and the decoding of a path. -/
theorem Called.of_refused {platform : Platform κ η} {config : BindingConfig} {site name : String}
    {args : List Variant} {w : World (Traced κ) η}
    {run : Except CallError Variant × World (Traced κ) η}
    (h : Called platform config site name args w run) {e : CallError} (hrun : run.1 = .error e)
    (he : e.isMisuse ∨ e.isUnsupported)
    : platform.traced.Logged w run.2 ∨
      ∃ op after log, Reached platform name args w op (.error e) after ∧
        run.2 = { after with span := none, log := log } := by
  have hnot : ∀ {op : Operation (Traced κ) η} {outcome : Outcome},
      (∀ substituted, outcome ≠ .redispatch substituted) →
      (⟨op, config⟩ : BoundOperation (Traced κ) η).settle site (.ok outcome) ≠ .error e := by
    intro op outcome hfinal hsettle
    have ⟨code, hcode⟩ := BoundOperation.settle_eq_error hfinal hsettle
    subst hcode
    cases he <;> contradiction
  cases h with
  | turnedAway hlogged => exact Or.inl hlogged
  | rejected log hreached =>
    cases hrun
    exact Or.inr ⟨_, _, _, hreached, rfl⟩
  | succeeded log hreached hfailure hfinal => exact absurd hrun (hnot hfinal)
  | failed log hreached hfailure =>
    exact absurd hrun (hnot (Outcome.ne_redispatch_of_failure hfailure))

theorem Platform.QueriesKeep.refused {platform : Platform κ η} {P : Machine κ → Prop}
    (hkeep : platform.QueriesKeep P) {config : BindingConfig} {site name : String}
    {args : List Variant} {w : World (Traced κ) η}
    {run : Except CallError Variant × World (Traced κ) η}
    (h : Called platform config site name args w run) {e : CallError} (hrun : run.1 = .error e)
    (he : e.isMisuse ∨ e.isUnsupported) (hw : P w.untraced.toMachine)
    : P run.2.untraced.toMachine := by
  cases h.of_refused hrun he with
  | inl hlogged => exact hkeep.logged hlogged hw
  | inr hrejected =>
    have ⟨op, after, log, hreached, hafter⟩ := hrejected
    have ⟨log', hcarried⟩ := hreached.carried
    have hkept : P after.untraced.toMachine := hkeep.rejected hcarried hw
    rw [hafter]
    exact hkept

theorem Answered.isQuery_of_error {name : String} {policy : Policy} {args : List Variant}
    {entry register : Errno} {e : CallError} {answered : List Event}
    (h : Answered name policy args entry (.error e) register answered)
    : ∀ event ∈ answered, event.isQuery := by
  cases h with
  | refused => apply List.forall_mem_nil
  | overrun _ hlisting => exact hlisting.forall_mem (P := (·.isQuery)) fun _ _ _ _ => rfl

theorem Called.isQuery_of_refused {platform : Platform κ η} {config : BindingConfig}
    {site name : String} {args : List Variant} {w : World (Traced κ) η}
    {run : Except CallError Variant × World (Traced κ) η}
    (h : Called platform config site name args w run) {e : CallError} (hrun : run.1 = .error e)
    (he : e.isMisuse ∨ e.isUnsupported)
    : ∃ events, run.2.os.events = w.os.events ++ events ∧ ∀ event ∈ events, event.isQuery := by
  cases h.of_refused hrun he with
  | inl hlogged =>
    refine ⟨[], ?_, List.forall_mem_nil _⟩
    rw [List.append_nil, hlogged.os_eq]
  | inr hrejected =>
    have ⟨op, after, log, hreached, hafter⟩ := hrejected
    have ⟨asked, answered, hevents, hasking, hanswered⟩ := hreached.events
    refine ⟨asked ++ answered, ?_, ?_⟩
    . rw [hafter, ← List.append_assoc]
      exact hevents
    . refine List.forall_mem_append.mpr ⟨?_, hanswered.isQuery_of_error⟩
      intro event hevent
      exact (hasking event hevent).1

theorem Event.Asking.filter_isRequest {events : List Event} (h : Asking events)
    : events.filter isRequest = [] := by
  rw [List.filter_eq_nil_iff]
  intro event hevent
  simp [(h event hevent).2]

theorem Event.Telling.filter_isRequest {events : List Event} (h : Telling events)
    : events.filter isRequest = [] := by
  rw [List.filter_eq_nil_iff]
  intro event hevent
  simp [h event hevent]

namespace Registry

variable (config : BindingConfig) (platform : Platform κ η) (site name : String)
  (args : List Variant) (w : World κ η)

/-- No call makes two requests, but for the two that list the groups, and one that is refused keeps what
its questions to the host and for the groups keep. -/
theorem refused_changes_nothing
    : (((events config platform site name args w).filter Event.isRequest).length ≤ 1 ∨
        name = "getgroups" ∧ ∃ groups register,
          Event.Listing groups register
            ((events config platform site name args w).filter Event.isRequest)) ∧
      ∀ e, ((builtIn config).call platform site name args w).1 = .error e →
        e.isMisuse ∨ e.isUnsupported →
        let after := ((builtIn config).call platform site name args w).2
        (∀ event ∈ events config platform site name args w, event.isQuery) ∧
        (∀ P, platform.QueriesKeep P → P w.toMachine → P after.toMachine) ∧
        (platform.QueriesRead → after.memory = w.memory ∧ after.os = w.os ∧
          ((∀ log line register, platform.logger log line register = register) →
            after.errno = w.errno)) := by
  have hcalled := tracedCall_called config platform site name args w
  constructor
  . have ⟨asked, answered, notices, hevents, hasking, htelling, _, _, register, hanswered⟩ :=
      hcalled.events
    unfold events
    rw [hevents, World.traced, List.nil_append, List.filter_append, List.filter_append,
      hasking.filter_isRequest, htelling.filter_isRequest, List.append_nil, List.nil_append]
    rcases hanswered.requests with hle | ⟨hname, groups, hlisting⟩
    . exact Or.inl hle
    . exact Or.inr ⟨hname, groups, register, hlisting⟩
  . intro e hrun he
    rw [call_eq_tracedCall] at hrun ⊢
    have hkeep : ∀ P, platform.QueriesKeep P → P w.toMachine →
        P (tracedCall config platform site name args w).2.untraced.toMachine := by
      intro P hkeep hw
      exact hkeep.refused hcalled hrun he hw
    refine ⟨?_, hkeep, ?_⟩
    . have ⟨events', hevents, hquery⟩ := hcalled.isQuery_of_refused hrun he
      unfold events
      rw [hevents]
      exact hquery
    . intro hread
      have ⟨hmemory, hos⟩ := hkeep _ (hread.keep_state w.memory w.os) ⟨rfl, rfl⟩
      refine ⟨hmemory, hos, ?_⟩
      intro hquiet
      exact hkeep _ (hread.keep_errno hquiet w.errno) rfl

theorem getgroups_refused_changes_nothing
    : let platform : Platform Posix Recording := ⟨Posix.kernel, .recording, .undisturbing⟩
      let w : World Posix Recording :=
        ⟨⟨.fresh, ⟨5⟩, .initial⟩, none, #[], ⟨"/", none, []⟩⟩
      let run := (builtIn {}).call platform "here" "getgroups" [.int 1, .pointer ⟨16, some 2⟩] w
      run.1 = .error (.memory "getgroups" 1 (.outOfBounds 4 2)) ∧
        run.2.memory = w.memory ∧ run.2.os = w.os ∧ run.2.errno = w.errno := by
  intro platform w run
  have hread : platform.QueriesRead := ⟨fun _ _ => rfl, Posix.keeps_of_getgroups⟩
  have hrun : run.1 = .error (.memory "getgroups" 1 (.outOfBounds 4 2)) := by
    rfl
  have ⟨_, hrefused⟩ := refused_changes_nothing {} platform "here" "getgroups"
    [.int 1, .pointer ⟨16, some 2⟩] w
  have heq : (builtIn {}).call platform "here" "getgroups" [.int 1, .pointer ⟨16, some 2⟩] w =
      run := by
    rfl
  -- the call is not to be made again in each comparison
  rw [heq] at hrefused
  clear_value run
  have ⟨_, _, hchanges⟩ := hrefused _ hrun (Or.inl rfl)
  have ⟨hmemory, hos, herrno⟩ := hchanges hread
  exact ⟨hrun, hmemory, hos, herrno fun _ _ _ => rfl⟩

end Registry

end NativeCall
