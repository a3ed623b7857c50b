import NativeCall.Proofs.Erasure
import NativeCall.Proofs.Table

/-!
This module contains all that a call to an operation of the library can come to on a platform that
keeps a trace.
-/

namespace NativeCall

variable {κ η : Type}

/-- The world `w'` is `w`, or what the host makes of it when it is told of a directory. -/
inductive Told (platform : Platform κ η) (w : World (Traced κ) η) : World (Traced κ) η → Prop where
  | nothing : Told platform w w
  | directory (path : String)
      : Told platform w (platform.traced.host.setCurrentDirectory path w).2

/-- From the world `w`, dispatch among the arms of the operation `name` gives `result` and leaves the
world `after`. -/
structure Reached (platform : Platform κ η) (name : String) (args : List Variant)
    (w : World (Traced κ) η) (op : Operation (Traced κ) η) (result : Except CallError Outcome)
    (after : World (Traced κ) η) : Prop where
  listed : op ∈ Table.builtIn
  named : op.name = name
  supported : op.policy ≠ .unsupported
  carried : ∃ log, Carried platform name op.policy args
    { w with log := log, span := some name } (result, after)

/-- What a call to the operation `name` comes to from the world `w`. -/
inductive Called (platform : Platform κ η) (config : BindingConfig) (site name : String)
    (args : List Variant) (w : World (Traced κ) η)
    : Except CallError Variant × World (Traced κ) η → Prop where
  -- no path is taken
  | turnedAway {e : CallError} {w' : World (Traced κ) η} (hlogged : platform.traced.Logged w w')
      (he : e.isMisuse ∨ e.isUnsupported)
      : Called platform config site name args w (.error e, w')
  | rejected {op : Operation (Traced κ) η} {e : CallError} {after : World (Traced κ) η}
      (log : Array LogLine) (hreached : Reached platform name args w op (.error e) after)
      : Called platform config site name args w (.error e, { after with span := none, log := log })
  | failed {op : Operation (Traced κ) η} {outcome : Outcome} {after : World (Traced κ) η}
      (log : Array LogLine) (hreached : Reached platform name args w op (.ok outcome) after)
      (hfailure : outcome.failure? = some after.errno)
      : Called platform config site name args w
          ((⟨op, config⟩ : BoundOperation (Traced κ) η).settle site (.ok outcome),
            { after with span := none, log := log })
  | succeeded {op : Operation (Traced κ) η} {outcome : Outcome} {after told : World (Traced κ) η}
      (log : Array LogLine) (hreached : Reached platform name args w op (.ok outcome) after)
      (hfailure : outcome.failure? = none)
      (hfinal : ∀ substituted, outcome ≠ .redispatch substituted)
      (htold : Told platform { after with span := none } told)
      : Called platform config site name args w
          ((⟨op, config⟩ : BoundOperation (Traced κ) η).settle site (.ok outcome),
            { told with log := log, errno := after.errno })

namespace Outcome

variable {policy : Policy} (args : List Variant) {reply : Reply}
  (hreply : reply ≠ .ids ∧ (policy = .informational → reply ≠ .flag))
include hreply

theorem failure?_ofAnswer (answer : reply.Value) (register : Errno)
    : (ofAnswer policy args reply answer register).failure? =
        if policy ≠ .informational ∧ reply.failed answer then some register else none := by
  cases reply with
  | text | address | done => simp [ofAnswer, failure?, Reply.failed]
  | number =>
    by_cases hpolicy : policy = .informational
    . simp [ofAnswer, failure?, hpolicy]
    . by_cases hanswer : answer = -1
      . simp [ofAnswer, failure?, sentinel, Reply.failed, hpolicy, hanswer]
      . simp [ofAnswer, failure?, sentinel, Reply.failed, hpolicy, hanswer]
  | flag =>
    have hpolicy : policy ≠ .informational := fun h => hreply.2 h rfl
    cases answer <;> simp [ofAnswer, failure?, Reply.failed, hpolicy]
  | ids => exact absurd rfl hreply.1

theorem code_of_failure {answer : reply.Value} {register e : Errno}
    (h : (ofAnswer policy args reply answer register).failure? = some e) : e = register := by
  rw [failure?_ofAnswer args hreply] at h
  split at h
  . cases h
    rfl
  . cases h

end Outcome

theorem Carried.failure?_eq {platform : Platform κ η} {name : String} {policy : Policy}
    {args : List Variant} {w after : World (Traced κ) η} {outcome : Outcome} {e : Errno}
    (h : Carried platform name policy args w (.ok outcome, after))
    (hfailure : outcome.failure? = some e) : e = after.errno := by
  generalize hrun : (Except.ok outcome, after) = run at h
  cases h with
  | refused | overrun => cases hrun
  | substituted | told =>
    cases hrun
    cases hfailure
  | computed _ _ _ hraw =>
    cases hrun
    cases hraw <;> cases hfailure
  | requested p hasked hhandovers hreply =>
    cases hrun
    exact Outcome.code_of_failure args hreply hfailure
  | @listed groups _ _ _ hlisted =>
    cases hrun
    cases groups with
    | error e' =>
      cases hfailure
      exact hlisted.error_eq
    | ok ids => cases hfailure

theorem BoundOperation.afterHook_told {platform : Platform κ η} {op : Operation (Traced κ) η}
    (hop : op.Carries platform) (config : BindingConfig) (args : List Variant)
    (w : World (Traced κ) η)
    : Told platform w ((⟨op, config⟩ : BoundOperation (Traced κ) η).afterHook platform.traced
        args w) := by
  unfold afterHook
  cases hop.onSuccess with
  | inl hnone =>
    simp only [hnone]
    exact .nothing
  | inr hsome =>
    simp only [hsome, Table.tellDirectory]
    cases args.head?.bind Variant.asStr? with
    | none => exact .nothing
    | some path => exact .directory path

theorem BoundOperation.called_of_admits {platform : Platform κ η} {op : Operation (Traced κ) η}
    (hop : op ∈ Table.builtIn) (config : BindingConfig) (site : String) {args : List Variant}
    {w : World (Traced κ) η}
    (hadmits : (⟨op, config⟩ : BoundOperation (Traced κ) η).Admits args w)
    : Called platform config site op.name args w
        ((⟨op, config⟩ : BoundOperation (Traced κ) η).call platform.traced site args w) := by
  have hcarries := Table.builtIn_carry platform op hop
  have ⟨log, hentered⟩ := entered_eq ⟨op, config⟩ platform.traced site args w
  have hcarried := dispatch_carried hcarries args { w with log := log, span := some op.name }
  have hne := dispatch_ne_redispatch op.name op.arms platform.traced args
  generalize hrun : dispatch op.name op.arms platform.traced args
    { w with log := log, span := some op.name } = run at hcarried
  rcases run with ⟨result, after⟩
  have hreached : Reached platform op.name args w op result after := by
    exact ⟨hop, rfl, hadmits.supported, log, hcarried⟩
  rw [← hentered] at hrun
  have ⟨log', hcall⟩ := call_eq ⟨op, config⟩ platform.traced site args hadmits hrun
  rw [hcall]
  unfold resumed registerAfter
  cases result with
  | error e => exact .rejected log' hreached
  | ok outcome =>
    dsimp only
    cases hfailure : outcome.failure? with
    | some e =>
      have he := hcarried.failure?_eq hfailure
      subst he
      simp only [reduceCtorEq, ↓reduceIte, Option.getD_some]
      exact .failed log' hreached hfailure
    | none =>
      have hfinal : ∀ substituted, outcome ≠ .redispatch substituted := by
        intro substituted h
        apply hne substituted { w with log := log, span := some op.name }
        rw [← hentered, hrun, h]
      simp only [↓reduceIte, Option.getD_none]
      exact .succeeded log' hreached hfailure hfinal (afterHook_told hcarries config args _)

theorem BoundOperation.called {platform : Platform κ η} {op : Operation (Traced κ) η}
    (hop : op ∈ Table.builtIn) (config : BindingConfig) (site : String) (args : List Variant)
    (w : World (Traced κ) η)
    : Called platform config site op.name args w
        ((⟨op, config⟩ : BoundOperation (Traced κ) η).call platform.traced site args w) := by
  by_cases hadmits : (⟨op, config⟩ : BoundOperation (Traced κ) η).Admits args w
  . exact called_of_admits hop config site hadmits
  . have ⟨e, w', hcall, hlogged, he⟩ := call_of_not_admits _ platform.traced site args hadmits
    rw [hcall]
    exact .turnedAway hlogged he

theorem Registry.called (config : BindingConfig) (platform : Platform κ η) (site name : String)
    (args : List Variant) (w : World (Traced κ) η)
    : Called platform config site name args w
        ((builtIn config).call platform.traced site name args w) := by
  cases hfind : (builtIn config : Registry (Traced κ) η).find? name with
  | none =>
    rw [call_of_find?_eq_none _ _ _ _ hfind]
    exact .turnedAway (.note .nothing _ _) (Or.inl rfl)
  | some op =>
    rw [call_of_find?_eq_some _ _ _ _ hfind]
    have hname : op.name = name := by simpa using List.find?_some hfind
    subst hname
    exact BoundOperation.called (List.mem_of_find?_eq_some hfind) config site args w

theorem Registry.tracedCall_called (config : BindingConfig) (platform : Platform κ η)
    (site name : String) (args : List Variant) (w : World κ η)
    : Called platform config site name args (w.traced [])
        (tracedCall config platform site name args w) := by
  apply called

end NativeCall
