import NativeCall.Proofs.Calls

/-!
This module contains the traces that calls to the operations of the library leave.
-/

namespace NativeCall

variable {κ η : Type}

/-- The events that a path leaves once it has asked the host for all constants, together with its
result and the register after it. -/
inductive Answered (name : String) (policy : Policy) (args : List Variant) (entry : Errno)
    : Except CallError Outcome → Errno → List Event → Prop where
  | refused {e : CallError} {register : Errno}
      : Answered name policy args entry (.error e) register []
  | overrun {e : CallError} {ids : List UInt32} {register : Errno} {answered : List Event}
      (hname : name = "getgroups") (hlisting : Event.Listing (.ok ids) register answered)
      : Answered name policy args entry (.error e) register answered
  | substituted {register : Errno}
      : Answered name policy args entry
          (.ok (.redispatch (args.set 0 (.str Request.wildcardHost)))) register []
  | computed {outcome : Outcome} {v : Variant} {register : Errno}
      (hpolicy : policy = .informational) (h : Computed args entry name v) (hraw : outcome.Raw v)
      : Answered name policy args entry (.ok outcome) register []
  | told {register : Errno} (path : String) (hname : name = "getcwd")
      (hpolicy : policy = .passThrough)
      : Answered name policy args entry (.ok (.value (.ok (.str path)))) register
          [.directory path]
  | requested {reply : Reply} (p : Primitive reply) (memory : Memory) (answer : reply.Value)
      (register : Errno) (hhandovers : ∀ handover ∈ p.handovers memory, handover.Sound args)
      (hreply : reply ≠ .ids ∧ (policy = .informational → reply ≠ .flag))
      : Answered name policy args entry
          (.ok (Outcome.ofAnswer policy args reply answer register)) register
          [.request p memory answer register]
  | listed {groups : Except Errno (List UInt32)} {register : Errno} {answered : List Event}
      (hname : name = "getgroups") (hpolicy : policy = .passThrough)
      (hlisting : Event.Listing groups register answered)
      : Answered name policy args entry
          (.ok (.status (groups.map fun ids => Int64.ofNat ids.length))) register answered

def Event.Asking (events : List Event) : Prop :=
  ∀ event ∈ events, event.isQuery ∧ event.isRequest = false

def Event.Telling (events : List Event) : Prop :=
  ∀ event ∈ events, event.isRequest = false

theorem Asked.events {platform : Platform κ η} {w w' : World (Traced κ) η}
    (h : Asked platform w w')
    : ∃ asked, w'.os.events = w.os.events ++ asked ∧ Event.Asking asked := by
  induction h with
  | nothing =>
    refine ⟨[], (List.append_nil _).symm, ?_⟩
    apply List.forall_mem_nil
  | @constant w' _ name ih =>
    have ⟨asked, hevents, hasking⟩ := ih
    refine ⟨asked ++ [.constant name (platform.host.socketConstant name w'.untraced).1], ?_, ?_⟩
    . rw [← List.append_assoc, ← hevents]
      rfl
    . exact List.forall_mem_append.mpr ⟨hasking, List.forall_mem_singleton.mpr ⟨rfl, rfl⟩⟩

theorem Told.events {platform : Platform κ η} {w w' : World (Traced κ) η}
    (h : Told platform w w')
    : ∃ notices, w'.os.events = w.os.events ++ notices ∧ Event.Telling notices := by
  cases h with
  | nothing =>
    refine ⟨[], (List.append_nil _).symm, ?_⟩
    apply List.forall_mem_nil
  | directory path => exact ⟨[.notice path], rfl, List.forall_mem_singleton.mpr rfl⟩

theorem Carried.events {platform : Platform κ η} {name : String} {policy : Policy}
    {args : List Variant} {w : World (Traced κ) η}
    {run : Except CallError Outcome × World (Traced κ) η}
    (h : Carried platform name policy args w run)
    : ∃ asked answered, run.2.os.events = w.os.events ++ asked ++ answered ∧
        Event.Asking asked ∧
        Answered name policy args w.errno run.1 run.2.errno answered := by
  cases h with
  | refused hasked he =>
    have ⟨asked, hevents, hasking⟩ := hasked.events
    exact ⟨asked, [], by simp [hevents], hasking, .refused⟩
  | substituted => exact ⟨[], [], by simp, List.forall_mem_nil _, .substituted⟩
  | computed hos hpolicy h hraw =>
    exact ⟨[], [], by simp [hos], List.forall_mem_nil _, .computed hpolicy h hraw⟩
  | told hname hpolicy =>
    refine ⟨[], [.directory _], ?_, List.forall_mem_nil _, .told _ hname hpolicy⟩
    rw [List.append_nil]
    rfl
  | @requested w' reply p hasked hhandovers hreply =>
    have ⟨asked, hevents, hasking⟩ := hasked.events
    refine ⟨asked, [.request p w'.memory _ _], ?_, hasking,
      .requested p w'.memory _ _ hhandovers hreply⟩
    rw [← hevents]
    rfl
  | overrun hname hlisted he =>
    have ⟨events, hevents, hlisting⟩ := hlisted.events
    refine ⟨[], events, ?_, List.forall_mem_nil _, .overrun hname hlisting⟩
    rw [List.append_nil, ← hevents]
  | listed hname hpolicy hlisted memory =>
    have ⟨events, hevents, hlisting⟩ := hlisted.events
    refine ⟨[], events, ?_, List.forall_mem_nil _, .listed hname hpolicy hlisting⟩
    rw [List.append_nil, ← hevents]

theorem Reached.events {platform : Platform κ η} {name : String} {args : List Variant}
    {w after : World (Traced κ) η} {op : Operation (Traced κ) η}
    {result : Except CallError Outcome} (h : Reached platform name args w op result after)
    : ∃ asked answered, after.os.events = w.os.events ++ asked ++ answered ∧
        Event.Asking asked ∧
        Answered name op.policy args w.errno result after.errno answered := by
  have ⟨log, hcarried⟩ := h.carried
  exact hcarried.events

theorem Called.events {platform : Platform κ η} {config : BindingConfig} {site name : String}
    {args : List Variant} {w : World (Traced κ) η}
    {run : Except CallError Variant × World (Traced κ) η}
    (h : Called platform config site name args w run)
    : ∃ asked answered notices,
        run.2.os.events = w.os.events ++ (asked ++ (answered ++ notices)) ∧
        Event.Asking asked ∧ Event.Telling notices ∧
        ∃ policy result register, Answered name policy args w.errno result register answered := by
  cases h with
  | @turnedAway e w' hlogged he =>
    refine ⟨[], [], [], ?_, List.forall_mem_nil _, List.forall_mem_nil _, .raise, .error e,
      w.errno, .refused⟩
    simp [hlogged.os_eq]
  | rejected log hreached =>
    have ⟨asked, answered, hevents, hasking, hanswered⟩ := hreached.events
    refine ⟨asked, answered, [], ?_, hasking, List.forall_mem_nil _, _, _, _, hanswered⟩
    simp [hevents]
  | failed log hreached hfailure =>
    have ⟨asked, answered, hevents, hasking, hanswered⟩ := hreached.events
    refine ⟨asked, answered, [], ?_, hasking, List.forall_mem_nil _, _, _, _, hanswered⟩
    simp [hevents]
  | succeeded log hreached hfailure hfinal htold =>
    have ⟨asked, answered, hevents, hasking, hanswered⟩ := hreached.events
    have ⟨notices, hnotices, htelling⟩ := htold.events
    refine ⟨asked, answered, notices, ?_, hasking, htelling, _, _, _, hanswered⟩
    simp [hnotices, hevents]

theorem Event.Listing.filter_isRequest {groups : Except Errno (List UInt32)} {register : Errno}
    {events : List Event} (h : Listing groups register events)
    : events.filter isRequest = events := by
  exact List.filter_eq_self.mpr (h.forall_mem (P := (·.isRequest)) fun _ _ _ _ => rfl)

theorem Event.Listing.handovers_eq_nil {groups : Except Errno (List UInt32)} {register : Errno}
    {events : List Event} (h : Listing groups register events) {reply : Reply} {p : Primitive reply}
    {memory : Memory} {answer : reply.Value} {after : Errno}
    (hmem : .request p memory answer after ∈ events) : p.handovers memory = [] := by
  cases h with
  | uncounted =>
    cases List.mem_singleton.mp hmem
    rfl
  | unlisted | listed =>
    rcases List.mem_pair.mp hmem with heq | heq
    all_goals
      cases heq
      rfl

theorem Answered.requests {name : String} {policy : Policy} {args : List Variant}
    {entry register : Errno} {result : Except CallError Outcome} {answered : List Event}
    (h : Answered name policy args entry result register answered)
    : (answered.filter Event.isRequest).length ≤ 1 ∨ name = "getgroups" ∧
        ∃ groups, Event.Listing groups register (answered.filter Event.isRequest) := by
  cases h with
  | refused | substituted | computed | told => exact Or.inl (Nat.zero_le 1)
  | requested => exact Or.inl (Nat.le_refl 1)
  | overrun hname hlisting | listed hname _ hlisting =>
    rw [hlisting.filter_isRequest]
    exact Or.inr ⟨hname, _, hlisting⟩

theorem Answered.handovers_sound {name : String} {policy : Policy} {args : List Variant}
    {entry register : Errno} {result : Except CallError Outcome} {answered : List Event}
    (h : Answered name policy args entry result register answered) {reply : Reply}
    {p : Primitive reply} {memory : Memory} {answer : reply.Value} {after : Errno}
    (hmem : .request p memory answer after ∈ answered)
    : ∀ handover ∈ p.handovers memory, handover.Sound args := by
  cases h with
  | refused | substituted | computed => cases hmem
  | told => cases List.mem_singleton.mp hmem
  | requested p memory answer register hhandovers =>
    cases List.mem_singleton.mp hmem
    exact hhandovers
  | overrun _ hlisting | listed _ _ hlisting =>
    rw [hlisting.handovers_eq_nil hmem]
    apply List.forall_mem_nil

end NativeCall
