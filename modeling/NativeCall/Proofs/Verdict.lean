import NativeCall.Host.Recording
import NativeCall.Posix.Kernel
import NativeCall.Proofs.Events

/-!
This module contains the law of policies: what a call that is not refused makes of the native result,
and that the code of a failure can be asked for afterwards.
-/

namespace NativeCall

variable {κ η : Type}

namespace Reply

def result (args : List Variant) : (reply : Reply) → reply.Value → Variant
  | number, n => .int n
  | flag, _ => args.headD .nil
  | text, bytes => Variant.ofOption (fun s => .str (Text.decodeLossy s)) bytes
  | ids, answer => .int answer.count.toInt64
  | address, place => .pointer ⟨place, none⟩
  | done, _ => .nil

def failure : Reply → Variant
  | flag => .nil
  | _ => .int (-1)

end Reply

/-- What a policy makes of an answer of the system. -/
def Policy.verdict (policy : Policy) (op site : String) (args : List Variant) (reply : Reply)
    (answer : reply.Value) (register : Errno) : Except CallError Variant :=
  match policy with
  | raise =>
    if reply.failed answer then .error (.os op register site) else .ok (reply.result args answer)
  | passThrough =>
    if reply.failed answer then .ok reply.failure else .ok (reply.result args answer)
  | informational => .ok (reply.result args answer)
  | unsupported => .error (.unsupported op)

def Table.policies : List (String × Policy) :=
  (builtIn : List (Operation Unit Unit)).map fun op => (op.name, op.policy)

theorem Table.mem_policies {op : Operation κ η} (h : op ∈ builtIn)
    : (op.name, op.policy) ∈ policies := by
  have : policies = (builtIn : List (Operation κ η)).map fun op => (op.name, op.policy) := by
    rfl
  rw [this]
  exact List.mem_map_of_mem h

theorem Table.raise_iff {name : String} {policy : Policy} (h : (name, policy) ∈ policies)
    : policy = .raise ↔ name ∈ ["readlink", "utimes", "getrlimit", "setrlimit"] := by
  have hall : ∀ entry ∈ policies,
      entry.2 = .raise ↔ entry.1 ∈ ["readlink", "utimes", "getrlimit", "setrlimit"] := by
    decide
  exact hall (name, policy) h

namespace BoundOperation

variable (b : BoundOperation κ η) (site : String) (args : List Variant) {reply : Reply}

theorem settle_of_failed (hids : reply ≠ .ids) (hpolicy : b.operation.policy ≠ .informational)
    {answer : reply.Value} (h : reply.failed answer) (register : Errno)
    : b.settle site (.ok (.ofAnswer b.operation.policy args reply answer register)) =
        if b.operation.policy = .raise then .error (.os b.operation.name register site)
        else .ok reply.failure := by
  cases reply with
  | text | address | done => cases h
  | number =>
    have hanswer : answer = -1 := by
      simpa [Reply.failed] using h
    simp [Outcome.ofAnswer, sentinel, settle, Reply.failure, hpolicy, hanswer]
  | flag =>
    cases answer with
    | true => cases h
    | false => simp [Outcome.ofAnswer, settle, Reply.failure]
  | ids => exact absurd rfl hids

theorem settle_of_not_failed (hids : reply ≠ .ids) {answer : reply.Value} (h : ¬ reply.failed answer)
    (register : Errno)
    : b.settle site (.ok (.ofAnswer b.operation.policy args reply answer register)) =
        .ok (reply.result args answer) := by
  cases reply with
  | text | address | done => rfl
  | number =>
    have hanswer : answer ≠ -1 := by
      simpa [Reply.failed] using h
    simp only [Outcome.ofAnswer, sentinel, hanswer, ↓reduceIte]
    split <;> rfl
  | flag =>
    cases answer with
    | true => rfl
    | false => exact absurd rfl h
  | ids => exact absurd rfl hids

theorem settle_of_informational (hpolicy : b.operation.policy = .informational)
    (hreply : reply ≠ .ids ∧ reply ≠ .flag) (answer : reply.Value) (register : Errno)
    : b.settle site (.ok (.ofAnswer b.operation.policy args reply answer register)) =
        .ok (reply.result args answer) := by
  rw [hpolicy]
  cases reply with
  | number | text | address | done => rfl
  | flag => exact absurd rfl hreply.2
  | ids => exact absurd rfl hreply.1

theorem settle_ofAnswer (hsupported : b.operation.policy ≠ .unsupported)
    (hreply : reply ≠ .ids ∧ (b.operation.policy = .informational → reply ≠ .flag))
    (answer : reply.Value) (register : Errno)
    : b.settle site (.ok (.ofAnswer b.operation.policy args reply answer register)) =
        b.operation.policy.verdict b.operation.name site args reply answer register := by
  by_cases hpolicy : b.operation.policy = .informational
  . rw [b.settle_of_informational site args hpolicy ⟨hreply.1, hreply.2 hpolicy⟩, hpolicy]
    rfl
  . by_cases hfailed : reply.failed answer
    . rw [b.settle_of_failed site args hreply.1 hpolicy hfailed]
      unfold Policy.verdict
      cases hcase : b.operation.policy with
      | raise | passThrough => simp [hfailed]
      | informational | unsupported => contradiction
    . rw [b.settle_of_not_failed site args hreply.1 hfailed]
      unfold Policy.verdict
      cases hcase : b.operation.policy with
      | raise | passThrough => simp [hfailed]
      | informational | unsupported => contradiction

end BoundOperation

theorem Registry.errno_call (config : BindingConfig) (platform : Platform κ η) (site : String)
    {w : World κ η} (hspan : w.span = none)
    : ((builtIn config).call platform site "errno" [] w).1 = .ok (.int w.errno.code.toInt64) := by
  have hfind : (builtIn config : Registry κ η).find? "errno" = some Table.lastErrno := by
    rfl
  let b : BoundOperation κ η := ⟨Table.lastErrno, config⟩
  have hadmits : b.Admits [] w := by
    exact ⟨rfl, nofun, hspan⟩
  rw [call_of_find?_eq_some _ _ _ _ hfind]
  have hfailure : (Outcome.info w.errno.code.toInt64).failure? = none := by
    rfl
  have ⟨log, hconclude⟩ := b.conclude_success platform site [] hfailure nofun w.errno
    { b.entered platform site [] w with span := none }
  show (b.call platform site [] w).1 = _
  rw [b.call_of_admits platform site [] hadmits rfl]
  exact congrArg Prod.fst hconclude

/-- What an accepted call gives, from its events: the verdict on the one answer of the system, the
number of groups that the system has listed, the directory that the host answered with, or what needs
neither. -/
inductive Accepted (name site : String) (policy : Policy) (args : List Variant) (entry : Errno)
    : Except CallError Variant → Errno → List Event → Prop where
  | requested {reply : Reply} (p : Primitive reply) (memory : Memory) (answer : reply.Value)
      (register : Errno) (hreply : reply ≠ .ids)
      : Accepted name site policy args entry
          (policy.verdict name site args reply answer register) register
          [.request p memory answer register]
  | listed {ids : List UInt32} {register : Errno} {answered : List Event}
      (hname : name = "getgroups") (hpolicy : policy = .passThrough)
      (hlisting : Event.Listing (.ok ids) register answered)
      : Accepted name site policy args entry (.ok (.int (Int64.ofNat ids.length))) register answered
  | unlisted {e register : Errno} {answered : List Event} (hname : name = "getgroups")
      (hpolicy : policy = .passThrough) (hlisting : Event.Listing (.error e) register answered)
      : Accepted name site policy args entry (.ok (.int (-1))) register answered
  | told {register : Errno} (path : String) (hname : name = "getcwd")
      (hpolicy : policy = .passThrough)
      : Accepted name site policy args entry (.ok (.str path)) register [.directory path]
  | computed {v : Variant} {register : Errno} (hpolicy : policy = .informational)
      (h : Computed args entry name v)
      : Accepted name site policy args entry (.ok v) register []

theorem Answered.accepted {config : BindingConfig} {site name : String} {args : List Variant}
    {entry register : Errno} {op : Operation κ η} {outcome : Outcome} {answered : List Event}
    (h : Answered name op.policy args entry (.ok outcome) register answered)
    (hname : op.name = name) (hsupported : op.policy ≠ .unsupported)
    (hfinal : ∀ substituted, outcome ≠ .redispatch substituted)
    : Accepted name site op.policy args entry
        ((⟨op, config⟩ : BoundOperation κ η).settle site (.ok outcome)) register answered := by
  generalize hresult : Except.ok outcome = result at h
  cases h with
  | refused | overrun => cases hresult
  | substituted =>
    cases hresult
    exact absurd rfl (hfinal _)
  | computed hpolicy h hraw =>
    cases hresult
    cases hraw with
    | info => exact .computed hpolicy h
    | value => exact .computed hpolicy h
  | told path hname hpolicy =>
    cases hresult
    exact .told path hname hpolicy
  | requested p memory answer register hhandovers hreply =>
    cases hresult
    rw [BoundOperation.settle_ofAnswer ⟨op, config⟩ site args hsupported hreply]
    subst hname
    exact .requested p memory answer register hreply.1
  | @listed groups _ _ hname hpolicy hlisting =>
    cases hresult
    cases groups with
    | error e =>
      have hsettle : (⟨op, config⟩ : BoundOperation κ η).settle site (.ok (.status (.error e))) =
          .ok (.int (-1)) := by
        simp [BoundOperation.settle, hpolicy]
      exact hsettle ▸ .unlisted hname hpolicy hlisting
    | ok ids => exact .listed hname hpolicy hlisting

/-- The code of the failure that a request has met with, where the policy takes answers for
failures. -/
def Event.failure? (policy : Policy) : Event → Option Errno
  | @request reply _ _ answer register =>
    if policy ≠ .informational ∧ reply.failed answer then some register else none
  | _ => none

theorem Event.register_of_failure? {policy : Policy} {reply : Reply} {p : Primitive reply}
    {memory : Memory} {answer : reply.Value} {register e : Errno}
    (h : (request p memory answer register).failure? policy = some e) : register = e := by
  simp only [failure?] at h
  split at h
  . exact Option.some.inj h
  . cases h

theorem Event.Listing.failure?_eq_none {ids : List UInt32} {register : Errno} {events : List Event}
    (h : Listing (.ok ids) register events) (policy : Policy)
    : ∀ event ∈ events, event.failure? policy = none := by
  cases h with
  | listed _ _ _ h h' => simp [Event.failure?, Reply.failed, h, h']

theorem Event.Listing.register_eq {groups : Except Errno (List UInt32)} {register : Errno}
    {events : List Event} (h : Listing groups register events) {event : Event} (hmem : event ∈ events)
    {policy : Policy} {e : Errno} (hevent : event.failure? policy = some e) : register = e := by
  cases h with
  | uncounted memory h =>
    cases List.mem_singleton.mp hmem
    exact register_of_failure? hevent
  | unlisted memory memory' register h h' =>
    rcases List.mem_pair.mp hmem with heq | heq
    . subst heq
      simp [Event.failure?, Reply.failed, h] at hevent
    . subst heq
      exact register_of_failure? hevent
  | listed memory memory' register h h' =>
    rw [(Listing.listed memory memory' register h h').failure?_eq_none policy event hmem] at hevent
    cases hevent

theorem Answered.failure?_eq_none {name : String} {policy : Policy} {args : List Variant}
    {entry register : Errno} {outcome : Outcome} {answered : List Event}
    (h : Answered name policy args entry (.ok outcome) register answered)
    (hfailure : outcome.failure? = none) : ∀ event ∈ answered, event.failure? policy = none := by
  generalize hresult : Except.ok outcome = result at h
  cases h with
  | refused | substituted | computed => apply List.forall_mem_nil
  | overrun => cases hresult
  | told => exact List.forall_mem_singleton.mpr rfl
  | requested p memory answer register hhandovers hreply =>
    cases hresult
    rw [Outcome.failure?_ofAnswer args hreply] at hfailure
    exact List.forall_mem_singleton.mpr hfailure
  | @listed groups _ _ _ _ hlisting =>
    cases hresult
    cases groups with
    | error e => cases hfailure
    | ok ids => exact hlisting.failure?_eq_none policy

theorem Answered.failure?_eq_some {name : String} {policy : Policy} {args : List Variant}
    {entry register e : Errno} {result : Except CallError Outcome} {answered : List Event}
    (h : Answered name policy args entry result register answered) {event : Event}
    (hmem : event ∈ answered) (hevent : event.failure? policy = some e) : register = e := by
  cases h with
  | refused | substituted | computed => cases hmem
  | told =>
    cases List.mem_singleton.mp hmem
    cases hevent
  | requested =>
    cases List.mem_singleton.mp hmem
    exact Event.register_of_failure? hevent
  | overrun _ hlisting | listed _ _ hlisting => exact hlisting.register_eq hmem hevent

theorem Carried.refused_of_error {platform : Platform κ η} {name : String} {policy : Policy}
    {args : List Variant} {w after : World (Traced κ) η} {e : CallError}
    (h : Carried platform name policy args w (.error e, after)) : e.isMisuse ∨ e.isUnsupported := by
  cases h with
  | refused _ he => exact he
  | overrun _ _ he => exact Or.inl he

theorem Reached.refused {platform : Platform κ η} {name : String} {args : List Variant}
    {w after : World (Traced κ) η} {op : Operation (Traced κ) η} {e : CallError}
    (h : Reached platform name args w op (.error e) after) : e.isMisuse ∨ e.isUnsupported := by
  have ⟨log, hcarried⟩ := h.carried
  exact hcarried.refused_of_error

theorem Reached.mem_policies {platform : Platform κ η} {name : String} {args : List Variant}
    {w after : World (Traced κ) η} {op : Operation (Traced κ) η}
    {result : Except CallError Outcome} (h : Reached platform name args w op result after)
    : (name, op.policy) ∈ Table.policies := by
  have := Table.mem_policies h.listed
  rw [h.named] at this
  exact this

theorem Called.verdict {platform : Platform κ η} {config : BindingConfig} {site name : String}
    {args : List Variant} {w : World (Traced κ) η}
    {run : Except CallError Variant × World (Traced κ) η}
    (h : Called platform config site name args w run)
    (haccepted : ∀ e, run.1 = .error e → ¬ (e.isMisuse ∨ e.isUnsupported))
    : ∃ policy asked answered notices, (name, policy) ∈ Table.policies ∧
        run.2.os.events = w.os.events ++ (asked ++ (answered ++ notices)) ∧
        Event.Asking asked ∧ Event.Telling notices ∧
        Accepted name site policy args w.errno run.1 run.2.errno answered ∧
        ∀ event ∈ answered, ∀ e, event.failure? policy = some e →
          run.2.errno = e ∧ run.2.span = none := by
  cases h with
  | turnedAway hlogged he => exact absurd he (haccepted _ rfl)
  | rejected log hreached => exact absurd hreached.refused (haccepted _ rfl)
  | failed log hreached hfailure =>
    have ⟨asked, answered, hevents, hasking, hanswered⟩ := hreached.events
    refine ⟨_, asked, answered, [], hreached.mem_policies, ?_, hasking, List.forall_mem_nil _,
      hanswered.accepted hreached.named hreached.supported
        (Outcome.ne_redispatch_of_failure hfailure), ?_⟩
    . simp [hevents]
    . intro event hmem e hevent
      exact ⟨hanswered.failure?_eq_some hmem hevent, rfl⟩
  | succeeded log hreached hfailure hfinal htold =>
    have ⟨asked, answered, hevents, hasking, hanswered⟩ := hreached.events
    have ⟨notices, hnotices, htelling⟩ := htold.events
    refine ⟨_, asked, answered, notices, hreached.mem_policies, ?_, hasking, htelling,
      hanswered.accepted hreached.named hreached.supported hfinal, ?_⟩
    . simp [hnotices, hevents]
    . intro event hmem e hevent
      rw [hanswered.failure?_eq_none hfailure event hmem] at hevent
      cases hevent

namespace Registry

/-- The policy decides what an admitted call makes of the answer of the system. -/
theorem policy_decides_result (config : BindingConfig) (platform : Platform κ η) (site name : String)
    (args : List Variant) (w : World κ η)
    (haccepted : ∀ e, ((builtIn config).call platform site name args w).1 = .error e →
      ¬ (e.isMisuse ∨ e.isUnsupported))
    : let result := ((builtIn config).call platform site name args w).1
      let after := ((builtIn config).call platform site name args w).2
      ∃ policy asked answered notices, (name, policy) ∈ Table.policies ∧
        (policy = .raise ↔ name ∈ ["readlink", "utimes", "getrlimit", "setrlimit"]) ∧
        events config platform site name args w = asked ++ (answered ++ notices) ∧
        Event.Asking asked ∧ Event.Telling notices ∧
        Accepted name site policy args w.errno result after.errno answered ∧
        ∀ event ∈ answered, ∀ e, event.failure? policy = some e →
          after.errno = e ∧ ∀ config' platform' site',
            ((builtIn config').call platform' site' "errno" [] after).1 =
              .ok (.int e.code.toInt64) := by
  rw [call_eq_tracedCall] at haccepted ⊢
  have hcalled := tracedCall_called config platform site name args w
  have ⟨policy, asked, answered, notices, hpolicy, hevents, hasking, htelling, hverdict,
    hfailure⟩ := hcalled.verdict haccepted
  refine ⟨policy, asked, answered, notices, hpolicy, Table.raise_iff hpolicy, hevents, hasking,
    htelling, hverdict, ?_⟩
  intro event hmem e hevent
  have ⟨herrno, hspan⟩ := hfailure event hmem e hevent
  refine ⟨herrno, ?_⟩
  intro config' platform' site'
  subst herrno
  exact errno_call config' platform' site' hspan

theorem policy_decides_result_getrlimit
    : let platform : Platform Posix Recording := ⟨Posix.kernel, .recording, .undisturbing⟩
      let w : World Posix Recording :=
        ⟨⟨.fresh, ⟨5⟩, .initial⟩, none, #[], ⟨"/", none, []⟩⟩
      let run := (builtIn {}).call platform "here" "getrlimit"
        [.int 99, .pointer ⟨16, some 16⟩] w
      run.1 = .error (.os "getrlimit" .einval "here") ∧
        ∃ policy answered, ("getrlimit", policy) ∈ Table.policies ∧ policy = .raise ∧
          Accepted "getrlimit" "here" policy [.int 99, .pointer ⟨16, some 16⟩] w.errno run.1
            run.2.errno answered := by
  intro platform w run
  have hrun : run.1 = .error (.os "getrlimit" .einval "here") := by
    rfl
  have haccepted : ∀ e, run.1 = .error e → ¬ (e.isMisuse ∨ e.isUnsupported) := by
    intro e he
    rw [hrun] at he
    cases he
    decide
  have ⟨policy, _, answered, _, hpolicy, hraise, _, _, _, hverdict, _⟩ :=
    policy_decides_result {} platform "here" "getrlimit" [.int 99, .pointer ⟨16, some 16⟩] w haccepted
  exact ⟨hrun, policy, answered, hpolicy, hraise.mpr (by decide), hverdict⟩

end Registry

end NativeCall
