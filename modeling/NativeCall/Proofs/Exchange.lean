import NativeCall.Proofs.Calling

/-!
This module contains that two calls are the same which differ only where a call does not look.
-/

namespace NativeCall

variable {κ η α : Type} {p q : Platform κ η}

namespace Platform

theorem note_eq_of_logger (h : p.logger = q.logger) (level : LogLevel) (text : String)
    : p.note level text = q.note level text := by
  unfold note
  rw [h]

theorem refuse_eq_of_logger (h : p.logger = q.logger) (e : CallError)
    : (p.refuse e : Action κ η (Except CallError α)) = q.refuse e := by
  unfold refuse noteMisuse
  rw [note_eq_of_logger h]

theorem noteUnsupported_eq_of_logger (h : p.logger = q.logger) (op : String)
    : p.noteUnsupported op = q.noteUnsupported op := by
  unfold noteUnsupported
  rw [note_eq_of_logger h]

end Platform

namespace BoundOperation

/-- The operations are declared alike. Their arms are only compared where their span is open, and
what they do after a success only where no span is. -/
structure Alike (args : List Variant) (p q : Platform κ η) (b c : BoundOperation κ η) : Prop where
  name : b.operation.name = c.operation.name
  arity : b.operation.arity = c.operation.arity
  policy : b.operation.policy = c.operation.policy
  config : b.config = c.config
  logger : p.logger = q.logger
  arms : ∀ w, w.span = some c.operation.name →
    dispatch c.operation.name b.operation.arms p args w =
      dispatch c.operation.name c.operation.arms q args w
  onSuccess : Option.Rel (fun f g => ∀ w, w.span = none → f p args w = g q args w)
    b.operation.onSuccess c.operation.onSuccess

theorem alike_of_platforms {args : List Variant} {b : BoundOperation κ η}
    (hlogger : p.logger = q.logger)
    (harms : ∀ w, w.span = some b.operation.name →
      dispatch b.operation.name b.operation.arms p args w =
        dispatch b.operation.name b.operation.arms q args w)
    (hhook : ∀ hook, b.operation.onSuccess = some hook → ∀ w, w.span = none →
      hook p args w = hook q args w) : Alike args p q b b := by
  refine ⟨rfl, rfl, rfl, rfl, hlogger, harms, ?_⟩
  cases honsuccess : b.operation.onSuccess with
  | none => exact .none
  | some hook => exact .some (hhook hook honsuccess)

namespace Alike

variable {args : List Variant} {b c : BoundOperation κ η} (h : Alike args p q b c) (site : String)
include h

theorem noteCall : b.noteCall p site args = c.noteCall q site args := by
  unfold BoundOperation.noteCall
  rw [h.name, h.config, Platform.note_eq_of_logger h.logger]

theorem entered (w : World κ η) : b.entered p site args w = c.entered q site args w := by
  unfold BoundOperation.entered
  rw [h.name, h.noteCall]

theorem succeed (register : Errno) (result : Variant) {w : World κ η} (hspan : w.span = none)
    : b.succeed p args register result w = c.succeed q args register result w := by
  have hhooks := h.onSuccess
  unfold BoundOperation.succeed
  rw [h.name, h.config, Platform.note_eq_of_logger h.logger]
  generalize b.operation.onSuccess = f at hhooks
  generalize c.operation.onSuccess = g at hhooks
  cases hhooks with
  | none => rfl
  | some hhook =>
    simp only [Action.run_bind]
    rw [hhook w hspan]

theorem fail (e : Errno) (result : Variant) : b.fail p site e result = c.fail q site e result := by
  unfold BoundOperation.fail
  rw [h.name, h.policy, h.config, Platform.note_eq_of_logger h.logger]

theorem giveUp (register : Errno) (e : CallError) : b.giveUp p register e = c.giveUp q register e := by
  unfold BoundOperation.giveUp Platform.noteMisuse
  rw [h.name, Platform.noteUnsupported_eq_of_logger h.logger, Platform.note_eq_of_logger h.logger]

theorem conclude (register : Errno) (outcome : Except CallError Outcome) {w : World κ η}
    (hspan : w.span = none)
    : b.conclude p site args register outcome w = c.conclude q site args register outcome w := by
  unfold BoundOperation.conclude
  split
  . rw [h.giveUp]
  . exact h.succeed register _ hspan
  . exact h.succeed register _ hspan
  . exact h.succeed register _ hspan
  . rw [h.fail]
  . rw [h.fail]
  . rw [h.name, Platform.refuse_eq_of_logger h.logger]

theorem call_of_admits {w : World κ η} (hadmits : c.Admits args w)
    : b.call p site args w = c.call q site args w := by
  have hadmits' : b.Admits args w := by
    refine ⟨?_, ?_, hadmits.outside⟩
    . rw [h.arity]
      exact hadmits.arity
    . rw [h.policy]
      exact hadmits.supported
  rcases hrun : dispatch c.operation.name c.operation.arms q args (c.entered q site args w)
    with ⟨outcome, after⟩
  have hrun' := (h.arms (c.entered q site args w) rfl).trans hrun
  rw [← h.entered, ← h.name] at hrun'
  rw [b.call_of_admits p site args hadmits' hrun', c.call_of_admits q site args hadmits hrun]
  exact h.conclude site after.errno outcome rfl

theorem call (w : World κ η) : b.call p site args w = c.call q site args w := by
  by_cases harity : args.length = c.operation.arity
  . have harity' := harity
    rw [← h.arity] at harity'
    by_cases hsupported : c.operation.policy = .unsupported
    . have hsupported' := h.policy.trans hsupported
      rw [b.call_of_unsupported p site args harity' hsupported',
        c.call_of_unsupported q site args harity hsupported, h.name,
        Platform.noteUnsupported_eq_of_logger h.logger]
    . cases hspan : w.span with
      | none => exact h.call_of_admits site ⟨harity, hsupported, hspan⟩
      | some active =>
        have hsupported' : b.operation.policy ≠ .unsupported := by
          rw [h.policy]
          exact hsupported
        rw [b.call_of_span p site args harity' hsupported' hspan,
          c.call_of_span q site args harity hsupported hspan, h.name, h.noteCall,
          Platform.refuse_eq_of_logger h.logger]
  . have harity' := harity
    rw [← h.arity] at harity'
    rw [b.call_of_arity p site args harity', c.call_of_arity q site args harity, h.name, h.arity,
      Platform.refuse_eq_of_logger h.logger]

end Alike

end BoundOperation

namespace Registry

theorem call_eq_of_alike (r : Registry κ η) (hlogger : p.logger = q.logger) (site name : String)
    (args : List Variant) {w : World κ η}
    (h : ∀ op, r.find? name = some op → BoundOperation.Alike args p q ⟨op, r.config⟩ ⟨op, r.config⟩)
    : r.call p site name args w = r.call q site name args w := by
  cases hfind : r.find? name with
  | none =>
    rw [r.call_of_find?_eq_none p site args hfind, r.call_of_find?_eq_none q site args hfind,
      Platform.refuse_eq_of_logger hlogger]
  | some op =>
    rw [r.call_of_find?_eq_some p site args hfind, r.call_of_find?_eq_some q site args hfind]
    exact (h op hfind).call site w

end Registry

end NativeCall
