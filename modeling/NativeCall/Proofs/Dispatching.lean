import NativeCall.Proofs.Running

/-!
This module contains what dispatch comes to when it is run: which path is taken, and when a second
one is.
-/

namespace NativeCall

variable {κ η π : Type}

namespace Dispatch

theorem select_eq_ok {op : String} {arms : List (Arm π)} {args : List Variant} {arm : Arm π}
    (h : select op arms args = .ok arm) : arm ∈ arms ∧ arm.accepts args := by
  unfold select at h
  split at h
  . next found hfound =>
    cases h
    have haccepts := List.find?_some hfound
    exact ⟨List.mem_of_find?_eq_some hfound, haccepts⟩
  . cases h

theorem select_eq_error {op : String} {arms : List (Arm π)} {args : List Variant} {e : CallError}
    (h : select op arms args = .error e) : e = noMatch op args := by
  unfold select at h
  split at h
  . cases h
  . cases h
    rfl

theorem again_eq (op : String) (arms : List (Arm (CallPath κ η))) (platform : Platform κ η)
    (args substituted : List Variant) (w : World κ η)
    : again op arms platform args substituted w =
      match select op arms substituted with
      | .error _ => (.error (noMatch op args), w)
      | .ok arm =>
        match arm.path platform ⟨op, substituted⟩ w with
        | (.ok (.redispatch _), w') =>
          (.error (.invalidTable s!"{op}: arm {arm.signature} substituted twice"), w')
        | run => run := by
  unfold again
  cases select op arms substituted with
  | error e => rfl
  | ok arm =>
    dsimp only
    rw [Call.run_bind]
    rcases arm.path platform ⟨op, substituted⟩ w with ⟨outcome, w'⟩
    rcases outcome with e | outcome
    . rfl
    . cases outcome <;> rfl

end Dispatch

theorem dispatch_eq (op : String) (arms : List (Arm (CallPath κ η))) (platform : Platform κ η)
    (args : List Variant) (w : World κ η)
    : dispatch op arms platform args w =
      match Dispatch.select op arms args with
      | .error e => (.error e, w)
      | .ok arm =>
        match arm.path platform ⟨op, args⟩ w with
        | (.ok (.redispatch substituted), w') =>
          Dispatch.again op arms platform args substituted w'
        | run => run := by
  unfold dispatch
  rw [Call.run_bind, Call.run_liftExcept]
  cases Dispatch.select op arms args with
  | error e => rfl
  | ok arm =>
    dsimp only
    rw [Call.run_bind]
    rcases arm.path platform ⟨op, args⟩ w with ⟨outcome, w'⟩
    rcases outcome with e | outcome
    . rfl
    . cases outcome <;> rfl

theorem Dispatch.again_ne_redispatch (op : String) (arms : List (Arm (CallPath κ η)))
    (platform : Platform κ η) (args substituted twice : List Variant) (w : World κ η)
    : (again op arms platform args substituted w).1 ≠ .ok (.redispatch twice) := by
  rw [again_eq]
  split
  . simp
  . split
    . simp
    . next hrun =>
      intro h
      apply hrun twice _
      rw [← h]
      rfl

theorem dispatch_ne_redispatch (op : String) (arms : List (Arm (CallPath κ η)))
    (platform : Platform κ η) (args substituted : List Variant) (w : World κ η)
    : (dispatch op arms platform args w).1 ≠ .ok (.redispatch substituted) := by
  rw [dispatch_eq]
  split
  . simp
  . split
    . apply Dispatch.again_ne_redispatch
    . next hrun =>
      intro h
      apply hrun substituted _
      rw [← h]
      rfl

end NativeCall
