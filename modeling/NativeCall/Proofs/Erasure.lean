import NativeCall.Proofs.Calling
import NativeCall.Proofs.Lockstep
import NativeCall.Proofs.Trace

/-!
This module contains that keeping a trace changes nothing, and the trace of a call.
-/

namespace NativeCall

variable {κ κ' η η' : Type}

/-- On worlds that `R` relates, two platforms answer alike, write the same log, and are told alike of
changes of directory. -/
structure Mirror (R : World κ η → World κ' η' → Prop) (p : Platform κ η) (q : Platform κ' η') : Prop
    extends Simulation R p q where
  span : ∀ {v w}, R v w → v.span = w.span
  setSpan : ∀ {v w}, R v w → ∀ span, R { v with span := span } { w with span := span }
  note : ∀ level text, Lockstep R (p.note level text) (q.note level text)
  setCurrentDirectory : ∀ path,
    Lockstep R (p.host.setCurrentDirectory path) (q.host.setCurrentDirectory path)

namespace Mirror

variable {R : World κ η → World κ' η' → Prop} {p : Platform κ η} {q : Platform κ' η'}
variable (mirror : Mirror R p q)
include mirror

theorem setRegister (e : Errno)
    : Lockstep R (Action.setErrno e : Action κ η Unit) (Action.setErrno e) := by
  intro v w h
  exact ⟨rfl, mirror.setErrno h e⟩

theorem noted {α : Type} (level : LogLevel) (text : String) {x : Action κ η α}
    {y : Action κ' η' α} (h : Lockstep R x y)
    : Lockstep R (do p.note level text; x) (do q.note level text; y) := by
  apply Lockstep.bind (mirror.note level text)
  intro _
  exact h

theorem refuse {α : Type} (e : CallError)
    : Lockstep R (p.refuse e : Action κ η (Except CallError α)) (q.refuse e) := by
  unfold Platform.refuse
  apply mirror.noted
  apply Lockstep.pure

theorem leaveRegister (e : Errno) (result : Except CallError Variant)
    : Lockstep R
        (do Action.setErrno e; return result : Action κ η (Except CallError Variant))
        (do Action.setErrno e; return result) := by
  apply Lockstep.bind (mirror.setRegister e)
  intro _
  apply Lockstep.pure

theorem enter (op : String)
    : Lockstep R (Span.enter op : Call κ η Unit) (Span.enter op : Call κ' η' Unit) := by
  intro v w h
  simp only [Span.enter, Call.run_bind, Call.run_get, Call.run_liftExcept, Call.run_modify,
    mirror.span h]
  cases Span.enterSlot op w.span with
  | error e => exact ⟨rfl, h⟩
  | ok slot => exact ⟨rfl, mirror.setSpan h slot⟩

theorem leave : Lockstep R (Span.leave : Action κ η Unit) Span.leave := by
  intro v w h
  exact ⟨rfl, mirror.setSpan h none⟩

variable {a : Operation κ η} {b : Operation κ' η'} (hop : Operation.InStep R R p q a b)
variable (config : BindingConfig) (site : String) (args : List Variant)

theorem noteCall (hname : a.name = b.name)
    : Lockstep R ((⟨a, config⟩ : BoundOperation κ η).noteCall p site args)
        ((⟨b, config⟩ : BoundOperation κ' η').noteCall q site args) := by
  unfold BoundOperation.noteCall
  dsimp only
  rw [hname]
  split
  . apply mirror.note
  . apply Lockstep.pure

include hop

theorem runArm (entry : Errno)
    : Lockstep R ((⟨a, config⟩ : BoundOperation κ η).runArm p args entry)
        ((⟨b, config⟩ : BoundOperation κ' η').runArm q args entry) := by
  unfold BoundOperation.runArm
  apply Lockstep.bind (mirror.setRegister entry)
  intro _
  dsimp only
  rw [hop.name]
  apply Lockstep.bind (dispatch_lockstep hop.arms _ _)
  intro outcome
  apply Lockstep.bind mirror.leave
  intro _
  apply Lockstep.pure

theorem succeed (register : Errno) (result : Variant)
    : Lockstep R ((⟨a, config⟩ : BoundOperation κ η).succeed p args register result)
        ((⟨b, config⟩ : BoundOperation κ' η').succeed q args register result) := by
  have hhooks := hop.onSuccess
  have hleave := mirror.leaveRegister register (.ok result)
  have hnoted := mirror.noted .trace s!"{b.name} -> {result.display}" hleave
  unfold BoundOperation.succeed
  dsimp only
  rw [hop.name]
  generalize a.onSuccess = f at hhooks
  generalize b.onSuccess = g at hhooks
  cases hhooks with
  | none =>
    cases config.traceCalls with
    | false => exact hleave
    | true => exact hnoted
  | some hhook =>
    intro v w h
    have hworld := hhook args v w h
    cases config.traceCalls with
    | false => exact hleave _ _ hworld
    | true => exact hnoted _ _ hworld

theorem fail (e : Errno) (result : Variant)
    : Lockstep R ((⟨a, config⟩ : BoundOperation κ η).fail p site e result)
        ((⟨b, config⟩ : BoundOperation κ' η').fail q site e result) := by
  unfold BoundOperation.fail
  dsimp only
  rw [hop.name, hop.policy]
  by_cases hpolicy : b.policy = .raise
  . have hleave := mirror.leaveRegister e (.error (.os b.name e site))
    simp only [hpolicy, ↓reduceIte]
    cases config.logOsErrors with
    | false => exact hleave
    | true => exact mirror.noted _ _ hleave
  . have hleave := mirror.leaveRegister e (.ok result)
    simp only [hpolicy, ↓reduceIte]
    cases config.logOsErrors with
    | false => exact hleave
    | true => exact mirror.noted _ _ hleave

theorem giveUp (register : Errno) (e : CallError)
    : Lockstep R ((⟨a, config⟩ : BoundOperation κ η).giveUp p register e)
        ((⟨b, config⟩ : BoundOperation κ' η').giveUp q register e) := by
  have hleave := mirror.leaveRegister register (.error e)
  unfold BoundOperation.giveUp
  dsimp only
  rw [hop.name]
  cases e.isUnsupported with
  | true => exact mirror.noted _ _ hleave
  | false => exact mirror.noted _ _ hleave

theorem conclude (register : Errno) (outcome : Except CallError Outcome)
    : Lockstep R ((⟨a, config⟩ : BoundOperation κ η).conclude p site args register outcome)
        ((⟨b, config⟩ : BoundOperation κ' η').conclude q site args register outcome) := by
  unfold BoundOperation.conclude
  split
  . apply mirror.giveUp hop
  . apply mirror.succeed hop
  . apply mirror.succeed hop
  . apply mirror.succeed hop
  . apply mirror.fail hop
  . apply mirror.fail hop
  . apply Lockstep.bind (mirror.setRegister register)
    intro _
    dsimp only
    rw [hop.name]
    apply mirror.refuse

theorem boundCall
    : Lockstep R ((⟨a, config⟩ : BoundOperation κ η).call p site args)
        ((⟨b, config⟩ : BoundOperation κ' η').call q site args) := by
  unfold BoundOperation.call
  dsimp only
  rw [hop.name, hop.arity, hop.policy]
  split
  . apply mirror.refuse
  . split
    . apply mirror.noted
      apply Lockstep.pure
    . apply Lockstep.bind mirror.register
      intro entry
      apply Lockstep.bind (mirror.noteCall config site args hop.name)
      intro _
      apply Lockstep.bind (mirror.enter b.name)
      intro entered
      cases entered with
      | error e => apply mirror.refuse
      | ok =>
        apply Lockstep.bind (mirror.runArm hop config args entry)
        intro outcome
        apply Lockstep.bind mirror.register
        intro register
        apply mirror.conclude hop

omit hop

omit mirror in
theorem find?_inStep {t : List (Operation κ η)} {u : List (Operation κ' η')}
    (h : List.Forall₂ (Operation.InStep R R p q) t u) (name : String)
    : Option.Rel (Operation.InStep R R p q) (t.find? (·.name == name))
        (u.find? (·.name == name)) := by
  induction h with
  | nil => exact .none
  | cons hop _ ih =>
    rw [List.find?_cons, List.find?_cons, hop.name]
    split
    . exact .some hop
    . exact ih

theorem call {r : Registry κ η} {s : Registry κ' η'} (hconfig : r.config = s.config)
    (htable : List.Forall₂ (Operation.InStep R R p q) r.table s.table) (name : String)
    : Lockstep R (r.call p site name args) (s.call q site name args) := by
  have hfound := find?_inStep htable name
  generalize hr : r.table.find? (·.name == name) = f at hfound
  generalize hs : s.table.find? (·.name == name) = g at hfound
  cases hfound with
  | none =>
    rw [r.call_of_find?_eq_none p site args hr, s.call_of_find?_eq_none q site args hs]
    apply mirror.refuse
  | some hop =>
    rw [r.call_of_find?_eq_some p site args hr, s.call_of_find?_eq_some q site args hs, hconfig]
    exact mirror.boundCall hop s.config site args

end Mirror

theorem Platform.traced_mirror (platform : Platform κ η)
    : Mirror (fun v w => v.untraced = w) platform.traced platform := by
  constructor
  case note =>
    rintro level text v _ rfl
    exact ⟨rfl, rfl⟩
  case span =>
    rintro v _ rfl
    rfl
  case setSpan =>
    rintro v _ rfl span
    rfl
  case setCurrentDirectory =>
    rintro path v _ rfl
    exact ⟨rfl, rfl⟩
  constructor
  case memory =>
    rintro v _ rfl
    rfl
  case errno =>
    rintro v _ rfl
    rfl
  case setMemory =>
    rintro v _ rfl memory
    rfl
  case setErrno =>
    rintro v _ rfl e
    rfl
  case run =>
    rintro reply request v _ rfl
    exact ⟨rfl, rfl⟩
  case currentDirectory =>
    rintro v _ rfl
    exact ⟨rfl, rfl⟩
  case socketConstant =>
    rintro name v _ rfl
    exact ⟨rfl, rfl⟩

theorem Table.builtIn_traced_inStep (platform : Platform κ η)
    : List.Forall₂ (Operation.InStep (fun v w => v.untraced = w) (fun v w => v.untraced = w)
        platform.traced platform) builtIn builtIn := by
  apply builtIn_inStep platform.traced_mirror.toSimulation
  . intro path v w h
    exact (platform.traced_mirror.setCurrentDirectory path v w h).2
  . intro v w h
    exact h

theorem exists_of_forall₂ {α β : Type} {R : α → β → Prop} {xs : List α} {ys : List β}
    (h : List.Forall₂ R xs ys) {y : β} (hy : y ∈ ys) : ∃ x ∈ xs, R x y := by
  obtain ⟨i, hi, rfl⟩ := List.mem_iff_getElem.mp hy
  have hi' : i < xs.length := by
    rw [h.length_eq]
    exact hi
  exact ⟨xs[i], List.getElem_mem hi', h.get hi' hi⟩

theorem Table.exists_traced (platform : Platform κ η) {op : Operation κ η} (hop : op ∈ builtIn)
    : ∃ traced ∈ builtIn, Operation.InStep (fun v w => v.untraced = w)
        (fun v w => v.untraced = w) platform.traced platform traced op := by
  exact exists_of_forall₂ (builtIn_traced_inStep platform) hop

namespace Registry

/-- The call on the system and the host that keep a trace, which starts out empty. -/
def tracedCall (config : BindingConfig) (platform : Platform κ η) (site name : String)
    (args : List Variant) (w : World κ η) : Except CallError Variant × World (Traced κ) η :=
  (builtIn config).call platform.traced site name args (w.traced [])

def events (config : BindingConfig) (platform : Platform κ η) (site name : String)
    (args : List Variant) (w : World κ η) : List Event :=
  (tracedCall config platform site name args w).2.os.events

theorem call_eq_tracedCall (config : BindingConfig) (platform : Platform κ η)
    (site name : String) (args : List Variant) (w : World κ η)
    : (builtIn config).call platform site name args w =
        ((tracedCall config platform site name args w).1,
          (tracedCall config platform site name args w).2.untraced) := by
  have hstep : Lockstep (fun v w => v.untraced = w)
      ((builtIn config).call platform.traced site name args)
      ((builtIn config).call platform site name args) := by
    exact platform.traced_mirror.call site args rfl (Table.builtIn_traced_inStep platform) name
  have ⟨hresult, hworld⟩ := hstep (w.traced []) w rfl
  exact Prod.ext hresult.symm hworld.symm

end Registry

end NativeCall
