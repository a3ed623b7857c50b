import NativeCall.Host.Tracking
import NativeCall.Posix.Kernel
import NativeCall.Proofs.Precedence
import NativeCall.Proofs.Verdict

/-!
This module contains the lines that are logged of a call, which are determined by whether it gets
past the checks, by its result and by whether its native call failed.
-/

namespace NativeCall

variable {κ η : Type}

/-- The host writes nothing to the log. -/
structure Host.KeepsLog (host : Host κ η) : Prop where
  currentDirectory : ∀ w, (host.currentDirectory w).2.log = w.log
  setCurrentDirectory : ∀ path w, (host.setCurrentDirectory path w).2.log = w.log
  socketConstant : ∀ name w, (host.socketConstant name w).2.log = w.log

theorem Host.KeepsLog.traced {host : Host κ η} (h : host.KeepsLog) : host.traced.KeepsLog := by
  constructor
  . intro w
    exact h.currentDirectory w.untraced
  . intro path w
    exact h.setCurrentDirectory path w.untraced
  . intro name w
    exact h.socketConstant name w.untraced

def World.SameWithLog (log : Array LogLine) (v w : World κ η) : Prop :=
  v = w ∧ v.log = log

theorem Host.KeepsLog.simulation {platform : Platform κ η} (h : platform.host.KeepsLog)
    (log : Array LogLine) : Simulation (World.SameWithLog log) platform platform := by
  constructor
  case currentDirectory =>
    rintro v _ ⟨rfl, hlog⟩
    exact ⟨rfl, rfl, (h.currentDirectory v).trans hlog⟩
  case socketConstant =>
    rintro name v _ ⟨rfl, hlog⟩
    exact ⟨rfl, rfl, (h.socketConstant name v).trans hlog⟩
  case run =>
    rintro reply request v _ ⟨rfl, hlog⟩
    exact ⟨rfl, rfl, hlog⟩
  case memory =>
    rintro v _ ⟨rfl, _⟩
    rfl
  case errno =>
    rintro v _ ⟨rfl, _⟩
    rfl
  case setMemory =>
    rintro v _ ⟨rfl, hlog⟩ memory
    exact ⟨rfl, hlog⟩
  case setErrno =>
    rintro v _ ⟨rfl, hlog⟩ e
    exact ⟨rfl, hlog⟩

theorem Table.dispatch_log (platform : Platform κ η) (h : platform.host.KeepsLog)
    {op : Operation κ η} (hop : op ∈ builtIn) (args : List Variant) (w : World κ η)
    : (dispatch op.name op.arms platform args w).2.log = w.log := by
  have hsame : World.SameWithLog w.log w w := by
    exact ⟨rfl, rfl⟩
  have harms := arms_inStep (h.simulation w.log) hop
  have ⟨_, _, hlog⟩ := dispatch_lockstep harms op.name args w w hsame
  exact hlog

theorem Platform.note_log (platform : Platform κ η) (level : LogLevel) (text : String)
    (w : World κ η)
    : (platform.note level text w).2.log =
        w.log ++ ([⟨level, .registry, text⟩] : List LogLine) := by
  rw [note_eq_wrote]
  rfl

/-- The code with which the native call failed that a path made, if it did. -/
def BoundOperation.failed? : Except CallError Outcome → Option Errno
  | .ok outcome => outcome.failure?
  | .error _ => none

def CallError.misuseLine (e : CallError) : LogLine :=
  ⟨.error, .registry, s!"binding misuse: {e.message}"⟩

theorem CallError.isMisuse_of_isUnsupported {e : CallError} (h : e.isUnsupported)
    : e.isMisuse = false := by
  cases e <;> simp_all [isUnsupported, isMisuse]

namespace BindingConfig

variable (config : BindingConfig) (op : String)

def failureLines : Option Errno → List LogLine
  | some e => if config.logOsErrors then [⟨.debug, .registry, s!"{op}: {e.message}"⟩] else []
  | none => []

/-- The line with which the result of a call is noted, whose native call may have failed. -/
def resultLines (failure : Option Errno) : Except CallError Variant → List LogLine
  | .error e =>
    if e.isMisuse then [e.misuseLine]
    else if e.isUnsupported then [⟨.warn, .registry, s!"{op}: not supported"⟩]
    else []
  | .ok v =>
    if config.traceCalls ∧ failure = none then [⟨.trace, .registry, s!"{op} -> {v.display}"⟩]
    else []

def endLines (failure : Option Errno) (result : Except CallError Variant) : List LogLine :=
  config.resultLines op failure result ++ config.failureLines op failure

theorem resultLines_of_misuse {e : CallError} (h : e.isMisuse) (failure : Option Errno)
    : config.resultLines op failure (.error e) = [e.misuseLine] := by
  exact if_pos h

theorem resultLines_of_unsupported {e : CallError} (h : e.isUnsupported) (failure : Option Errno)
    : config.resultLines op failure (.error e) =
        [⟨.warn, .registry, s!"{op}: not supported"⟩] := by
  unfold resultLines
  dsimp only
  rw [CallError.isMisuse_of_isUnsupported h, if_neg Bool.false_ne_true, if_pos h]

theorem resultLines_of_failed (code : Errno) {result : Except CallError Variant}
    (h : ∀ e, result = .error e → ¬ (e.isMisuse ∨ e.isUnsupported))
    : config.resultLines op (some code) result = [] := by
  unfold resultLines
  cases result with
  | error e =>
    have ⟨hmisuse, hunsupported⟩ := not_or.mp (h e rfl)
    dsimp only
    rw [if_neg hmisuse, if_neg hunsupported]
  | ok v =>
    dsimp only
    rw [if_neg (fun hfailure => nomatch hfailure.2)]

theorem resultLines_length_le (failure : Option Errno) (result : Except CallError Variant)
    : (config.resultLines op failure result).length ≤ 1 := by
  unfold resultLines
  split
  . split
    . exact Nat.le_refl 1
    . split
      . exact Nat.le_refl 1
      . exact Nat.zero_le 1
  . split
    . exact Nat.le_refl 1
    . exact Nat.zero_le 1

theorem failureLines_length_le (failure : Option Errno)
    : (config.failureLines op failure).length ≤ 1 := by
  unfold failureLines
  split
  . split
    . exact Nat.le_refl 1
    . exact Nat.zero_le 1
  . exact Nat.zero_le 1

theorem endLines_length_le {failure : Option Errno} {result : Except CallError Variant}
    (h : ∀ e, result = .error e → failure ≠ none → ¬ (e.isMisuse ∨ e.isUnsupported))
    : (config.endLines op failure result).length ≤ 1 := by
  unfold endLines
  cases failure with
  | none =>
    unfold failureLines
    rw [List.append_nil]
    apply resultLines_length_le
  | some code =>
    -- A failed native call has no line for its result, whether it raises or gives the sentinel.
    rw [config.resultLines_of_failed op code fun e he => h e he nofun, List.nil_append]
    apply failureLines_length_le

theorem filter_failureLines (failure : Option Errno)
    : (config.failureLines op failure).filter (·.level = .error) = [] := by
  cases failure with
  | none => rfl
  | some code =>
    unfold failureLines
    dsimp only
    split <;> rfl

theorem filter_endLines (failure : Option Errno) (result : Except CallError Variant)
    : (config.endLines op failure result).filter (·.level = .error) =
        match result with
        | .error e =>
          if e.isMisuse then [e.misuseLine] else []
        | .ok _ => [] := by
  unfold endLines
  rw [List.filter_append, filter_failureLines, List.append_nil]
  cases result with
  | error e =>
    unfold resultLines
    dsimp only
    split
    . rfl
    . split <;> rfl
  | ok v =>
    unfold resultLines
    dsimp only
    split <;> rfl

theorem filter_callLines (site : String) (args : List Variant)
    : (config.callLines site op args).filter (·.level = .error) = [] := by
  unfold callLines
  split <;> rfl

end BindingConfig

namespace BoundOperation

variable (b : BoundOperation κ η) (platform : Platform κ η) (site : String) (args : List Variant)

theorem giveUp_log (register : Errno) {e : CallError} (he : e.isMisuse ∨ e.isUnsupported)
    (w : World κ η)
    : (b.giveUp platform register e w).2.log =
        w.log ++ b.config.endLines b.operation.name none (.error e) := by
  unfold giveUp BindingConfig.endLines BindingConfig.failureLines
  rw [List.append_nil]
  cases hunsupported : e.isUnsupported with
  | true =>
    rw [b.config.resultLines_of_unsupported _ hunsupported]
    exact platform.note_log _ _ w
  | false =>
    rw [hunsupported] at he
    rw [b.config.resultLines_of_misuse _ (he.resolve_right nofun)]
    exact platform.note_log _ _ w

theorem fail_log (code : Errno) (result : Variant) (w : World κ η)
    : (b.fail platform site code result w).2.log =
        w.log ++ b.config.failureLines b.operation.name (some code) := by
  unfold fail BindingConfig.failureLines
  cases b.config.logOsErrors with
  | true =>
    by_cases hpolicy : b.operation.policy = .raise
    . simp only [hpolicy, ↓reduceIte]
      exact platform.note_log _ _ w
    . simp only [hpolicy, ↓reduceIte]
      exact platform.note_log _ _ w
  | false =>
    by_cases hpolicy : b.operation.policy = .raise
    . simp only [hpolicy, ↓reduceIte]
      exact Array.appendList_nil.symm
    . simp only [hpolicy, ↓reduceIte]
      exact Array.appendList_nil.symm

theorem succeed_log (hhook : ∀ w, (b.afterHook platform args w).log = w.log) (register : Errno)
    (result : Variant) (w : World κ η)
    : (b.succeed platform args register result w).2.log =
        w.log ++ b.config.resultLines b.operation.name none (.ok result) := by
  have hlines : (b.succeed platform args register result w).2.log =
      (b.afterHook platform args w).log ++
        b.config.resultLines b.operation.name none (.ok result) := by
    unfold succeed afterHook BindingConfig.resultLines
    cases b.config.traceCalls with
    | true =>
      cases b.operation.onSuccess with
      | none => exact platform.note_log _ _ w
      | some hook => exact platform.note_log _ _ (hook platform args w).2
    | false =>
      cases b.operation.onSuccess with
      | none => exact Array.appendList_nil.symm
      | some hook => exact Array.appendList_nil.symm
  rw [hlines, hhook]

theorem conclude_log (hhook : ∀ w, (b.afterHook platform args w).log = w.log) (register : Errno)
    {outcome : Except CallError Outcome}
    (hrefused : ∀ e, outcome = .error e → e.isMisuse ∨ e.isUnsupported)
    (hfinal : ∀ substituted, outcome ≠ .ok (.redispatch substituted)) (w : World κ η)
    : (b.conclude platform site args register outcome w).2.log =
        w.log ++ b.config.endLines b.operation.name (failed? outcome) (b.settle site outcome) := by
  have hok (v : Variant) : (b.succeed platform args register v w).2.log =
      w.log ++ b.config.endLines b.operation.name none (.ok v) := by
    rw [b.succeed_log platform args hhook]
    unfold BindingConfig.endLines BindingConfig.failureLines
    rw [List.append_nil]
  have hfailed (code : Errno) (v : Variant) : (b.fail platform site code v w).2.log =
      w.log ++ b.config.endLines b.operation.name (some code)
        (if b.operation.policy = .raise then .error (.os b.operation.name code site)
          else .ok v) := by
    unfold BindingConfig.endLines
    rw [b.fail_log platform site, b.config.resultLines_of_failed, List.nil_append]
    intro e he
    split at he
    . cases he
      exact not_or.mpr ⟨nofun, nofun⟩
    . cases he
  cases outcome with
  | error e => exact b.giveUp_log platform register (hrefused e rfl) w
  | ok outcome =>
    cases outcome with
    | redispatch substituted => exact absurd rfl (hfinal substituted)
    | info n => exact hok (.int n)
    | status result =>
      cases result with
      | ok n => exact hok (.int n)
      | error code => exact hfailed code (.int (-1))
    | value result =>
      cases result with
      | ok v => exact hok v
      | error code => exact hfailed code .nil

end BoundOperation

theorem Event.Asking.failure?_eq_none {events : List Event} (h : Asking events) (policy : Policy)
    : events.findSome? (failure? policy) = none := by
  rw [List.findSome?_eq_none_iff]
  intro event hevent
  cases event with
  | request => exact absurd (h _ hevent).2 nofun
  | directory | constant | notice => rfl

theorem Event.Telling.failure?_eq_none {events : List Event} (h : Telling events) (policy : Policy)
    : events.findSome? (failure? policy) = none := by
  rw [List.findSome?_eq_none_iff]
  intro event hevent
  cases event with
  | request => exact absurd (h _ hevent) nofun
  | directory | constant | notice => rfl

theorem Event.failure?_request {policy : Policy} (args : List Variant) {reply : Reply}
    (hreply : reply ≠ .ids ∧ (policy = .informational → reply ≠ .flag)) (p : Primitive reply)
    (memory : Memory) (answer : reply.Value) (register : Errno)
    : (request p memory answer register).failure? policy =
        (Outcome.ofAnswer policy args reply answer register).failure? := by
  rw [Outcome.failure?_ofAnswer args hreply]
  rfl

theorem Event.Listing.findSome?_failure? {policy : Policy} {e register : Errno} {events : List Event}
    (h : Listing (.error e) register events) (hpolicy : policy ≠ .informational)
    : events.findSome? (failure? policy) = some e := by
  cases h with
  | uncounted _ h => simp [failure?, Reply.failed, hpolicy, h]
  | unlisted _ _ _ h h' => simp [failure?, Reply.failed, hpolicy, h, h']

theorem Carried.failed? {platform : Platform κ η} {name : String} {policy : Policy}
    {args : List Variant} {w after : World (Traced κ) η} {outcome : Except CallError Outcome}
    (h : Carried platform name policy args w (outcome, after))
    : ∃ events, after.os.events = w.os.events ++ events ∧
        events.findSome? (Event.failure? policy) = BoundOperation.failed? outcome := by
  generalize hrun : (outcome, after) = run at h
  cases h with
  | refused hasked he =>
    cases hrun
    have ⟨asked, hevents, hasking⟩ := hasked.events
    exact ⟨asked, hevents, hasking.failure?_eq_none policy⟩
  | substituted =>
    cases hrun
    exact ⟨[], (List.append_nil _).symm, rfl⟩
  | computed hos hpolicy h hraw =>
    cases hrun
    refine ⟨[], by rw [hos, List.append_nil], ?_⟩
    cases hraw <;> rfl
  | told =>
    cases hrun
    exact ⟨[.directory _], rfl, rfl⟩
  | @requested w' reply p hasked hhandovers hreply =>
    cases hrun
    have ⟨asked, hevents, hasking⟩ := hasked.events
    have hrequest := platform.traced_run_events p w'
    rw [hevents, List.append_assoc] at hrequest
    refine ⟨_, hrequest, ?_⟩
    rw [List.findSome?_append, hasking.failure?_eq_none, Option.none_or,
      List.findSome?_singleton, Event.failure?_request args hreply]
    rfl
  | overrun _ hlisted he =>
    cases hrun
    have ⟨events, hevents, hlisting⟩ := hlisted.events
    exact ⟨events, hevents, List.findSome?_eq_none_iff.mpr (hlisting.failure?_eq_none policy)⟩
  | @listed groups _ _ hpolicy hlisted =>
    cases hrun
    have ⟨events, hevents, hlisting⟩ := hlisted.events
    refine ⟨events, hevents, ?_⟩
    cases groups with
    | error e => exact hlisting.findSome?_failure? (by simp [hpolicy])
    | ok ids => exact List.findSome?_eq_none_iff.mpr (hlisting.failure?_eq_none policy)

namespace BoundOperation

theorem settle_of_failure (b : BoundOperation κ η) (site : String)
    {outcome : Except CallError Outcome} {code : Errno} (h : failed? outcome = some code)
    : b.settle site outcome = .error (.os b.operation.name code site) ∨
        ∃ v, b.settle site outcome = .ok v := by
  cases outcome with
  | error e => cases h
  | ok outcome =>
    change outcome.failure? = some code at h
    have hraise (v : Variant)
        : let raised := if b.operation.policy = .raise
              then Except.error (CallError.os b.operation.name code site) else .ok v
          raised = .error (.os b.operation.name code site) ∨ ∃ v', raised = .ok v' := by
      by_cases hpolicy : b.operation.policy = .raise
      . exact Or.inl (if_pos hpolicy)
      . exact Or.inr ⟨v, if_neg hpolicy⟩
    unfold Outcome.failure? at h
    split at h
    . cases h
      exact hraise (.int (-1))
    . cases h
      exact hraise .nil
    . cases h

theorem settle_of_no_failure (b : BoundOperation κ η) (site : String)
    {outcome : Except CallError Outcome} (h : failed? outcome = none)
    (hfinal : ∀ substituted, outcome ≠ .ok (.redispatch substituted)) {e : CallError}
    (he : b.settle site outcome = .error e) : outcome = .error e := by
  cases outcome with
  | error e' =>
    cases he
    rfl
  | ok outcome =>
    cases outcome with
    | redispatch substituted => exact absurd rfl (hfinal substituted)
    | info n => cases he
    | status result =>
      cases result with
      | ok n => cases he
      | error code => cases h
    | value result =>
      cases result with
      | ok v => cases he
      | error code => cases h

variable (platform : Platform κ η) {op : Operation (Traced κ) η} (hop : op ∈ Table.builtIn)
include hop

theorem afterHook_log (h : platform.host.KeepsLog) (config : BindingConfig) (args : List Variant)
    (w : World (Traced κ) η)
    : ((⟨op, config⟩ : BoundOperation (Traced κ) η).afterHook platform.traced args w).log =
        w.log := by
  have htold := afterHook_told (Table.builtIn_carry platform op hop) config args w
  generalize (⟨op, config⟩ : BoundOperation (Traced κ) η).afterHook platform.traced args w = after
    at htold
  cases htold with
  | nothing => rfl
  | directory path => exact h.traced.setCurrentDirectory path w

theorem resumed_events (config : BindingConfig) (args : List Variant)
    (outcome : Except CallError Outcome) (w : World (Traced κ) η)
    : ∃ notices, Event.Telling notices ∧
        ((⟨op, config⟩ : BoundOperation (Traced κ) η).resumed platform.traced args outcome
          w).os.events = w.os.events ++ notices := by
  have hnothing : ∃ notices, Event.Telling notices ∧ w.os.events = w.os.events ++ notices := by
    exact ⟨[], List.forall_mem_nil _, (List.append_nil _).symm⟩
  cases outcome with
  | error e => exact hnothing
  | ok outcome =>
    cases hfailure : outcome.failure? with
    | some code =>
      rw [resumed_of_failure _ _ _ hfailure]
      exact hnothing
    | none =>
      rw [resumed_of_success _ _ _ hfailure]
      have htold := afterHook_told (Table.builtIn_carry platform op hop) config args w
      have ⟨notices, hevents, htelling⟩ := htold.events
      exact ⟨notices, htelling, hevents⟩

end BoundOperation

namespace Registry

/-- The call of `name` with `count` arguments is one that an arm may take. -/
def Passes (r : Registry κ η) (name : String) (count : Nat) : Prop :=
  ∃ op ∈ r.table, op.name = name ∧ count = op.arity ∧ op.policy ≠ .unsupported

instance (r : Registry κ η) (name : String) (count : Nat) : Decidable (r.Passes name count) :=
  inferInstanceAs (Decidable (∃ op ∈ r.table, op.name = name ∧ count = op.arity ∧
    op.policy ≠ .unsupported))

def openingLines (r : Registry κ η) (site name : String) (args : List Variant) : List LogLine :=
  if r.Passes name args.length then r.config.callLines site name args else []

theorem openingLines_of_passes {r : Registry κ η} {name : String} {args : List Variant}
    (h : r.Passes name args.length) (site : String)
    : r.openingLines site name args = r.config.callLines site name args := by
  exact if_pos h

theorem openingLines_of_not_passes {r : Registry κ η} {name : String} {args : List Variant}
    (h : ¬ r.Passes name args.length) (site : String) : r.openingLines site name args = [] := by
  exact if_neg h

theorem passes_iff {r : Registry κ η} {op : Operation κ η} (hmem : op ∈ r.table) (count : Nat)
    : r.Passes op.name count ↔ count = op.arity ∧ op.policy ≠ .unsupported := by
  constructor
  . rintro ⟨other, hother, hname, hpasses⟩
    have hfind := r.find?_eq_some_iff.mpr ⟨hother, hname⟩
    rw [r.find?_eq_some_iff.mpr ⟨hmem, rfl⟩] at hfind
    cases hfind
    exact hpasses
  . intro hpasses
    exact ⟨op, hmem, rfl, hpasses⟩

theorem endLines_of_misuse (config : BindingConfig) (name : String) {e : CallError}
    (he : e.isMisuse)
    : config.endLines name none (.error e) = [e.misuseLine] := by
  unfold BindingConfig.endLines
  rw [config.resultLines_of_misuse name he]
  rfl

theorem refusalLines_eq {r : Registry κ η} {name : String} {args : List Variant}
    {span : Option String} {e : CallError} (h : r.Refused name args.length span e) (site : String)
    : r.config.refusalLines site args e =
        r.openingLines site name args ++ r.config.endLines name none (.error e) := by
  cases h with
  | unknown hunknown =>
    rw [openingLines_of_not_passes, endLines_of_misuse _ _ rfl]
    . rfl
    . rintro ⟨op, hmem, hname, _⟩
      exact hunknown op hmem hname
  | @found op _ hmem hname hrefused =>
    subst hname
    cases hrefused with
    | miscounted harity =>
      rw [openingLines_of_not_passes, endLines_of_misuse _ _ rfl]
      . rfl
      . rw [passes_iff hmem]
        exact fun hpasses => harity hpasses.1
    | unsupported harity hpolicy =>
      rw [openingLines_of_not_passes]
      . rfl
      . rw [passes_iff hmem]
        exact fun hpasses => hpasses.2 hpolicy
    | reentrant harity hsupported hspan =>
      rw [openingLines_of_passes ((passes_iff hmem _).mpr ⟨harity, hsupported⟩),
        endLines_of_misuse _ _ rfl]
      rfl

theorem Refused.isMisuse_or_isUnsupported {r : Registry κ η} {name : String} {count : Nat}
    {span : Option String} {e : CallError} (h : r.Refused name count span e)
    : e.isMisuse ∨ e.isUnsupported := by
  cases h with
  | unknown => exact Or.inl rfl
  | found _ _ hrefused =>
    cases hrefused with
    | miscounted | reentrant => exact Or.inl rfl
    | unsupported => exact Or.inr rfl

end Registry

theorem BoundOperation.conclude_failure? {platform : Platform κ η} {op : Operation (Traced κ) η}
    (hop : op ∈ Table.builtIn) (config : BindingConfig) (site : String) (args : List Variant)
    {outcome : Except CallError Outcome}
    (hfinal : ∀ substituted, outcome ≠ .ok (.redispatch substituted)) (register : Errno)
    (w : World (Traced κ) η) (policy : Policy)
    : ((⟨op, config⟩ : BoundOperation (Traced κ) η).conclude platform.traced site args register
        outcome w).2.os.events.findSome? (Event.failure? policy) =
          w.os.events.findSome? (Event.failure? policy) := by
  have ⟨_, hrun⟩ := conclude_eq ⟨op, config⟩ platform.traced site args hfinal register w
  have ⟨notices, htelling, hevents⟩ := resumed_events platform hop config args outcome w
  rw [hrun]
  dsimp only
  rw [hevents, List.findSome?_append, htelling.failure?_eq_none, Option.or_none]

/-- A call of `op` with this result, whose native call failed with the code `failure`, if it did,
and which begins with the lines `opening`, turns the log `before` into `after`. -/
structure BindingConfig.Logs (config : BindingConfig) (site op : String) (opening : List LogLine)
    (failure : Option Errno) (result : Except CallError Variant) (before after : Array LogLine)
    : Prop where
  lines : after = before ++ (opening ++ config.endLines op failure result)
  failed : ∀ code, failure = some code → result = .error (.os op code site) ∨ ∃ v, result = .ok v
  refused : failure = none → ∀ e, result = .error e → e.isMisuse ∨ e.isUnsupported

theorem BoundOperation.conclude_logs {platform : Platform κ η} (h : platform.host.KeepsLog)
    (config : BindingConfig) (site : String) {op : Operation (Traced κ) η}
    (hop : op ∈ Table.builtIn) {args : List Variant} {v after : World (Traced κ) η}
    {outcome : Except CallError Outcome} (hfresh : v.os.events = [])
    (hdispatch : (outcome, after) = dispatch op.name op.arms platform.traced args v)
    : let run := (⟨op, config⟩ : BoundOperation (Traced κ) η).conclude platform.traced site args
        after.errno outcome { after with span := none }
      config.Logs site op.name [] (run.2.os.events.findSome? (Event.failure? op.policy)) run.1 v.log
        run.2.log := by
  intro run
  have hcarried := dispatch_carried (Table.builtIn_carry platform op hop) args v
  have hkept := Table.dispatch_log platform.traced h.traced hop args v
  have hne := dispatch_ne_redispatch op.name op.arms platform.traced args
  rw [← hdispatch] at hcarried hkept
  have hfinal : ∀ substituted, outcome ≠ .ok (.redispatch substituted) := by
    intro substituted heq
    apply hne substituted v
    rw [← hdispatch]
    exact heq
  have hrefused : ∀ e, outcome = .error e → e.isMisuse ∨ e.isUnsupported := by
    rintro e rfl
    exact hcarried.refused_of_error
  have hfailure : run.2.os.events.findSome? (Event.failure? op.policy) = failed? outcome := by
    have ⟨events, hevents, hfailed⟩ := hcarried.failed?
    rw [hfresh, List.nil_append] at hevents
    rw [conclude_failure? hop config site args hfinal, ← hfailed, ← hevents]
  have ⟨_, hrun⟩ := conclude_eq ⟨op, config⟩ platform.traced site args hfinal after.errno
    { after with span := none }
  have hresult : run.1 = settle ⟨op, config⟩ site outcome := congrArg Prod.fst hrun
  rw [hfailure, hresult, ← hkept]
  constructor
  . exact conclude_log ⟨op, config⟩ platform.traced site args
      (afterHook_log platform hop h config args) after.errno hrefused hfinal
      { after with span := none }
  . intro code hcode
    exact settle_of_failure _ site hcode
  . intro hnone e he
    exact hrefused e (settle_of_no_failure _ site hnone hfinal he)

theorem BindingConfig.Logs.prepend {config : BindingConfig} {site op : String}
    {opening : List LogLine} {failure : Option Errno} {result : Except CallError Variant}
    {before after : Array LogLine}
    (h : config.Logs site op [] failure result (before ++ opening) after)
    : config.Logs site op opening failure result before after := by
  refine ⟨?_, h.failed, h.refused⟩
  rw [h.lines]
  apply Array.ext'
  simp

theorem BindingConfig.Logs.endLines_length_le {config : BindingConfig} {site op : String}
    {opening : List LogLine} {failure : Option Errno} {result : Except CallError Variant}
    {before after : Array LogLine} (h : config.Logs site op opening failure result before after)
    : (config.endLines op failure result).length ≤ 1 := by
  apply config.endLines_length_le
  intro e he hfailure hrefused
  have ⟨code, hcode⟩ := Option.ne_none_iff_exists'.mp hfailure
  rcases h.failed code hcode with hos | ⟨v, hok⟩
  . rw [hos] at he
    cases he
    cases hrefused <;> contradiction
  . rw [hok] at he
    cases he

namespace Registry

variable (config : BindingConfig) (platform : Platform κ η) (site name : String)
  (args : List Variant) (w : World κ η)

/-- The code with which the native call failed that a call made, if it did. -/
def failure? : Option Errno := do
  let op ← (builtIn config : Registry (Traced κ) η).find? name
  (events config platform site name args w).findSome? (Event.failure? op.policy)

theorem tracedCall_logs (h : platform.host.KeepsLog)
    : config.Logs site name
        ((builtIn config : Registry (Traced κ) η).openingLines site name args)
        (failure? config platform site name args w)
        (tracedCall config platform site name args w).1 w.log
        (tracedCall config platform site name args w).2.log := by
  have hfailure : failure? config platform site name args w =
      ((builtIn config : Registry (Traced κ) η).find? name).bind fun op =>
        (tracedCall config platform site name args w).2.os.events.findSome?
          (Event.failure? op.policy) := by
    rfl
  rw [hfailure]
  have ⟨ran, run, hcourse⟩ := exists_course (builtIn config) platform.traced site name args
    (w.traced [])
  have hrun : run = tracedCall config platform site name args w := hcourse.eq_call
  rw [← hrun]
  clear hrun hfailure
  cases hcourse with
  | @refused e hrefused =>
    have hnone : ((builtIn config : Registry (Traced κ) η).find? name).bind
        (fun op => ([] : List Event).findSome? (Event.failure? op.policy)) = none := by
      cases (builtIn config : Registry (Traced κ) η).find? name <;> rfl
    dsimp only [Platform.wrote, World.traced]
    rw [hnone]
    refine ⟨?_, nofun, ?_⟩
    . rw [refusalLines_eq hrefused site]
      rfl
    . intro _ e' he'
      cases he'
      exact hrefused.isMisuse_or_isUnsupported
  | @started op ran outcome after hmem hname harity hsupported hspan hdispatched =>
    subst hname
    have hfind := (builtIn config).find?_eq_some_iff.mpr ⟨hmem, rfl⟩
    have hpasses := (passes_iff hmem args.length).mpr ⟨harity, hsupported⟩
    rw [hfind, openingLines_of_passes hpasses]
    exact (BoundOperation.conclude_logs h config site hmem rfl hdispatched.eq_dispatch).prepend

theorem passes_builtIn {κ' η' : Type} {name : String} {count : Nat}
    (h : (builtIn config : Registry κ η).Passes name count)
    : (builtIn config : Registry κ' η').Passes name count := by
  have hlisting : (Table.builtIn : List (Operation κ η)).map
        (fun op => (op.name, op.arity, op.policy)) =
      (Table.builtIn : List (Operation κ' η')).map fun op => (op.name, op.arity, op.policy) := by
    rfl
  have ⟨op, hmem, hname, harity, hsupported⟩ := h
  have hlisted := List.mem_map_of_mem (f := fun op => (op.name, op.arity, op.policy)) hmem
  rw [builtIn, hlisting, List.mem_map] at hlisted
  have ⟨other, hother, hsame⟩ := hlisted
  rw [Prod.mk.injEq, Prod.mk.injEq] at hsame
  have ⟨hname', harity', hpolicy⟩ := hsame
  refine ⟨other, hother, hname'.trans hname, harity.trans harity'.symm, ?_⟩
  rw [hpolicy]
  exact hsupported

theorem openingLines_builtIn
    : (builtIn config : Registry (Traced κ) η).openingLines site name args =
        (builtIn config : Registry κ η).openingLines site name args := by
  by_cases h : (builtIn config : Registry κ η).Passes name args.length
  . rw [openingLines_of_passes h, openingLines_of_passes (passes_builtIn config h)]
    rfl
  . rw [openingLines_of_not_passes h, openingLines_of_not_passes]
    exact fun hpasses => h (passes_builtIn config hpasses)

theorem call_logs (h : platform.host.KeepsLog)
    : config.Logs site name ((builtIn config : Registry κ η).openingLines site name args)
        (failure? config platform site name args w)
        ((builtIn config).call platform site name args w).1 w.log
        ((builtIn config).call platform site name args w).2.log := by
  have htraced := tracedCall_logs config platform site name args w h
  rw [openingLines_builtIn] at htraced
  rw [call_eq_tracedCall]
  exact htraced

variable {config platform site name args w}

theorem bind_eq_error {r : Registry κ η} {count : Nat} {e : CallError} {w' : World κ η}
    (h : r.bind platform name count w = (.error e, w'))
    : e.isMisuse ∧ w'.log = w.log ++ [e.misuseLine] := by
  unfold bind at h
  cases hfind : r.find? name with
  | none =>
    rw [hfind] at h
    cases h
    exact ⟨rfl, platform.note_log _ _ w⟩
  | some op =>
    rw [hfind] at h
    dsimp only at h
    split at h
    . cases h
      exact ⟨rfl, platform.note_log _ _ w⟩
    . cases h

theorem filter_openingLines (r : Registry κ η) (site name : String) (args : List Variant)
    : (r.openingLines site name args).filter (·.level = .error) = [] := by
  unfold openingLines
  split
  . apply BindingConfig.filter_callLines
  . rfl

/-- What a call writes to the log is a line for its beginning, if it passes the checks, and the line that it
ends with. -/
theorem call_logged (config : BindingConfig) {platform : Platform κ η}
    (hquiet : platform.host.KeepsLog) (site name : String) (args : List Variant) (w : World κ η)
    : let run := (builtIn config).call platform site name args w
      let failure := failure? config platform site name args w
      let opening := (builtIn config : Registry κ η).openingLines site name args
      let ending := config.endLines name failure run.1
      config.Logs site name opening failure run.1 w.log run.2.log ∧
        ending.length ≤ 1 ∧
        (opening ++ ending).filter (·.level = .error) =
          (match run.1 with
            | .error e =>
              if e.isMisuse then [e.misuseLine] else []
            | .ok _ => []) ∧
        (∀ count e w', (builtIn config).bind platform name count w = (.error e, w') →
          e.isMisuse ∧ w'.log = w.log ++ [e.misuseLine]) ∧
        ∀ count b w', (builtIn config).bind platform name count w = (.ok b, w') →
          w' = w ∧ ∀ site args,
            b.call platform site args = (builtIn config).call platform site name args := by
  intro run failure opening ending
  have hlogs := call_logs config platform site name args w hquiet
  refine ⟨hlogs, hlogs.endLines_length_le, ?_, ?_, ?_⟩
  . rw [List.filter_append, filter_openingLines, List.nil_append]
    apply config.filter_endLines
  . intro count e w' h
    exact bind_eq_error h
  . intro count b w' h
    have ⟨hfind, hconfig, hworld⟩ := bind_eq_ok h
    refine ⟨hworld, ?_⟩
    intro site args
    rw [(builtIn config).call_of_find?_eq_some platform site args hfind, ← hconfig]

theorem close_logged
    : let config : BindingConfig := { traceCalls := true, logOsErrors := true }
      let platform : Platform Posix TrackedDirectory :=
        ⟨Posix.kernel, .tracking Posix.kernel, .undisturbing⟩
      let w : World Posix TrackedDirectory := ⟨⟨.fresh, ⟨0⟩, .initial⟩, none, #[], ⟨Path.root⟩⟩
      let run := (builtIn config).call platform "here" "close" [.int 99] w
      run.1 = .ok (.int (-1)) ∧
        failure? config platform "here" "close" [.int 99] w = some .ebadf ∧
        run.2.log =
          #[⟨.trace, .registry, "close(99) at here"⟩,
            ⟨.debug, .registry, s!"close: {Errno.ebadf.message}"⟩] := by
  intro config platform w run
  have hquiet : platform.host.KeepsLog := by
    exact ⟨fun _ => rfl, fun _ _ => rfl, fun _ _ => rfl⟩
  have hrun : run.1 = .ok (.int (-1)) := by
    decide +kernel
  have hfailure : failure? config platform "here" "close" [.int 99] w = some .ebadf := by
    decide +kernel
  have ⟨hlogs, _⟩ := call_logged config hquiet "here" "close" [.int 99] w
  change config.Logs "here" "close" _ _ run.1 w.log run.2.log at hlogs
  have hlines := hlogs.lines
  rw [hrun, hfailure] at hlines
  refine ⟨hrun, hfailure, hlines.trans ?_⟩
  decide +kernel

end Registry

end NativeCall
