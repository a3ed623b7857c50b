import NativeCall.Proofs.Calling

/-!
This module contains what becomes of calls that are made while a span is open, and that a call leaves
the span as it finds it.
-/

namespace NativeCall

variable {κ η α β : Type}

namespace Registry

variable (r : Registry κ η) (platform : Platform κ η) (site name : String) (args : List Variant)

/-- Why a call with `count` arguments is refused while the span of `active` is open. -/
def refusal (count : Nat) (active : String) : CallError :=
  match r.find? name with
  | none => .unknownOperation name
  | some op =>
    if count ≠ op.arity then .arityMismatch op.name op.arity count
    else if op.policy = .unsupported then .unsupported op.name
    else .reentrant op.name active

/-- Refuse a call while the span of `active` is open, whatever its arms are. -/
def refuse (active : String) : Action κ η (Except CallError Variant) :=
  match r.find? name with
  | none => platform.refuse (.unknownOperation name)
  | some op =>
    if args.length ≠ op.arity then
      platform.refuse (.arityMismatch op.name op.arity args.length)
    else if op.policy = .unsupported then do
      platform.noteUnsupported op.name
      return .error (.unsupported op.name)
    else do
      BoundOperation.noteCall ⟨op, r.config⟩ platform site args
      platform.refuse (.reentrant op.name active)

theorem call_eq_refuse {w : World κ η} {active : String} (h : w.span = some active)
    : r.call platform site name args w = r.refuse platform site name args active w := by
  unfold refuse
  cases hfind : r.find? name with
  | none => rw [r.call_of_find?_eq_none platform site args hfind]
  | some op =>
    rw [r.call_of_find?_eq_some platform site args hfind]
    dsimp only
    by_cases harity : args.length = op.arity
    . by_cases hsupported : op.policy = .unsupported
      . rw [BoundOperation.call_of_unsupported _ _ _ _ harity hsupported]
        simp only [harity, ne_eq, not_true_eq_false, ↓reduceIte, hsupported]
      . rw [BoundOperation.call_of_span _ _ _ _ harity hsupported h]
        simp only [harity, ne_eq, not_true_eq_false, ↓reduceIte, hsupported]
        rfl
    . rw [BoundOperation.call_of_arity _ _ _ _ harity]
      simp only [harity, ne_eq, not_false_eq_true, ↓reduceIte]

theorem refuse_eq (active : String) (w : World κ η)
    : ∃ w', r.refuse platform site name args active w =
        (.error (r.refusal name args.length active), w') ∧ platform.Logged w w' := by
  unfold refuse refusal
  cases r.find? name with
  | none => exact ⟨_, rfl, .note .nothing _ _⟩
  | some op =>
    dsimp only
    split
    . exact ⟨_, rfl, .note .nothing _ _⟩
    . split
      . exact ⟨_, rfl, .note .nothing _ _⟩
      . have hlogged := BoundOperation.noteCall_logged ⟨op, r.config⟩ platform site args w
        exact ⟨_, rfl, hlogged.note _ _⟩

theorem span_refuse (active : String) (w : World κ η)
    : (r.refuse platform site name args active w).2.span = w.span := by
  have ⟨w', hrefuse, hlogged⟩ := r.refuse_eq platform site name args active w
  rw [hrefuse, hlogged.span_eq]

end Registry

/-- The action leaves the span as it finds it, open or not. -/
def Action.KeepsSpan (x : Action κ η α) : Prop :=
  ∀ w, (x w).2.span = w.span

theorem BoundOperation.span_call_of_admits {b : BoundOperation κ η} {platform : Platform κ η}
    {args : List Variant}
    (hhook : ∀ hook, b.operation.onSuccess = some hook → (hook platform args).KeepsSpan)
    (site : String) {w : World κ η} (h : b.Admits args w)
    : (b.call platform site args w).2.span = none := by
  rcases hrun : dispatch b.operation.name b.operation.arms platform args
    (b.entered platform site args w) with ⟨outcome, after⟩
  have ⟨log, hcall⟩ := b.call_eq platform site args h hrun
  rw [hcall]
  have hafter : (b.afterHook platform args { after with span := none }).span = none := by
    unfold afterHook
    cases honsuccess : b.operation.onSuccess with
    | none => rfl
    | some hook => exact hhook hook honsuccess _
  show (b.resumed platform args outcome _).span = none
  unfold resumed
  split
  . split
    . exact hafter
    . rfl
  . rfl

theorem Registry.call_keepsSpan {r : Registry κ η} {platform : Platform κ η} {name : String}
    {args : List Variant}
    (hhook : ∀ op hook, r.find? name = some op → op.onSuccess = some hook →
      (hook platform args).KeepsSpan) (site : String)
    : (r.call platform site name args).KeepsSpan := by
  intro w
  cases hspan : w.span with
  | some active => rw [r.call_eq_refuse platform site name args hspan, r.span_refuse, hspan]
  | none =>
    cases hfind : r.find? name with
    | none =>
      rw [r.call_of_find?_eq_none platform site args hfind]
      exact hspan
    | some op =>
      rw [r.call_of_find?_eq_some platform site args hfind]
      by_cases hadmits : (⟨op, r.config⟩ : BoundOperation κ η).Admits args w
      . exact BoundOperation.span_call_of_admits (fun hook => hhook op hook hfind) site hadmits
      . have ⟨e, w', hcall, hlogged, _⟩ :=
          BoundOperation.call_of_not_admits _ platform site args hadmits
        rw [hcall, hlogged.span_eq, hspan]

theorem Registry.call_keepsSpan_of_unhooked {r : Registry κ η} {name : String} {op : Operation κ η}
    (hfind : r.find? name = some op) (hhook : op.onSuccess = none) (platform : Platform κ η)
    (site : String) (args : List Variant) : (r.call platform site name args).KeepsSpan := by
  apply call_keepsSpan
  intro op' hook hfind' hhook'
  rw [hfind] at hfind'
  cases hfind'
  rw [hhook] at hhook'
  cases hhook'

end NativeCall
