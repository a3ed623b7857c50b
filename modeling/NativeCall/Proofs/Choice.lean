import Mathlib.Data.List.Forall2
import NativeCall.Proofs.Dispatching

/-!
This module contains the law of dispatch: which paths run, on which arguments and in which order, and
what becomes of their results.
-/

namespace NativeCall

variable {κ η π : Type}

/-- The shape admits the value. All shapes but one stand for the values of one type. -/
inductive Shape.Admits : Shape → Variant → Prop where
  | any (v : Variant) : Admits .any v
  | nil : Admits .nil .nil
  | int (n : Int64) : Admits .int (.int n)
  | str (text : String) : Admits .str (.str text)
  | symbol (name : String) : Admits .symbol (.symbol name)
  | pointer (p : Pointer) : Admits .pointer (.pointer p)

theorem Shape.accepts_iff (shape : Shape) (v : Variant)
    : shape.accepts v.kind ↔ shape.Admits v := by
  constructor
  . intro h
    cases shape with
    | any => exact .any v
    | nil | int | str | symbol | pointer =>
      cases v <;> simp [accepts, Variant.kind] at h
      constructor
  . intro h
    cases h <;> rfl

theorem Guard.accepts_iff (guard : Guard) (args : List Variant)
    : guard.accepts args ↔ List.Forall₂ Shape.Admits guard args := by
  induction guard generalizing args with
  | nil =>
    cases args with
    | nil => simp [accepts]
    | cons v args => simp [accepts]
  | cons shape guard ih =>
    cases args with
    | nil => simp [accepts]
    | cons v args => simp [accepts, Shape.accepts_iff, ih]

def Arm.Fits (arm : Arm π) (args : List Variant) : Prop :=
  List.Forall₂ Shape.Admits arm.guard args

theorem Arm.accepts_iff (arm : Arm π) (args : List Variant) : arm.accepts args ↔ arm.Fits args := by
  apply Guard.accepts_iff

namespace Dispatch

/-- The arm stands at `index` and fits the arguments, and no arm before it does. -/
structure First (arms : List (Arm π)) (args : List Variant) (index : Nat) (arm : Arm π) : Prop where
  here : arms[index]? = some arm
  fits : arm.Fits args
  before : ∀ i < index, ∀ other, arms[i]? = some other → ¬ other.Fits args

theorem First.select_eq {arms : List (Arm π)} {args : List Variant} {index : Nat} {arm : Arm π}
    (h : First arms args index arm) (op : String) : select op arms args = .ok arm := by
  have hfound : arms.find? (·.accepts args) = some arm := by
    rw [List.find?_eq_some_iff_getElem]
    obtain ⟨hlt, harm⟩ := List.getElem?_eq_some_iff.mp h.here
    refine ⟨(arm.accepts_iff args).mpr h.fits, index, hlt, harm, ?_⟩
    intro i hi
    have := h.before i hi arms[i] (List.getElem?_eq_getElem _)
    simpa [← Arm.accepts_iff] using this
  unfold select
  rw [hfound]

theorem exists_first {op : String} {arms : List (Arm π)} {args : List Variant} {arm : Arm π}
    (h : select op arms args = .ok arm) : ∃ index, First arms args index arm := by
  unfold select at h
  split at h
  . next found hfound =>
    cases h
    rw [List.find?_eq_some_iff_getElem] at hfound
    obtain ⟨hfits, index, hlt, harm, hbefore⟩ := hfound
    refine ⟨index, List.getElem?_eq_some_iff.mpr ⟨hlt, harm⟩, (arm.accepts_iff args).mp hfits, ?_⟩
    intro i hi other hother
    obtain ⟨_, hother⟩ := List.getElem?_eq_some_iff.mp hother
    have := hbefore i hi
    rw [hother] at this
    simpa [← Arm.accepts_iff] using this
  . cases h

theorem select_eq_error_iff {op : String} {arms : List (Arm π)} {args : List Variant}
    {e : CallError}
    : select op arms args = .error e ↔ e = noMatch op args ∧ ∀ arm ∈ arms, ¬ arm.Fits args := by
  have hnone : arms.find? (·.accepts args) = none ↔ ∀ arm ∈ arms, ¬ arm.Fits args := by
    simp [List.find?_eq_none, ← Arm.accepts_iff]
  unfold select
  rw [← hnone]
  cases arms.find? (·.accepts args) with
  | some arm => simp
  | none => simp [eq_comm]

/-- What dispatch comes to from the world `w`, by the paths that it runs: the list has the places of
their arms and the arguments that they are run on. -/
inductive Dispatched (op : String) (arms : List (Arm (CallPath κ η))) (platform : Platform κ η)
    (args : List Variant) (w : World κ η)
    : List (Nat × List Variant) → Except CallError Outcome × World κ η → Prop where
  | unmatched (hnone : ∀ arm ∈ arms, ¬ arm.Fits args)
      : Dispatched op arms platform args w []
          (.error (.noMatchingArm op (", ".intercalate (args.map Variant.typeName))), w)
  | failed {index : Nat} {arm : Arm (CallPath κ η)} {e : CallError} {w' : World κ η}
      (hfirst : First arms args index arm)
      (hrun : arm.path platform ⟨op, args⟩ w = (.error e, w'))
      : Dispatched op arms platform args w [(index, args)] (.error e, w')
  | finished {index : Nat} {arm : Arm (CallPath κ η)} {outcome : Outcome} {w' : World κ η}
      (hfirst : First arms args index arm)
      (hrun : arm.path platform ⟨op, args⟩ w = (.ok outcome, w'))
      (hfinal : ∀ substituted, outcome ≠ .redispatch substituted)
      : Dispatched op arms platform args w [(index, args)] (.ok outcome, w')
  -- the error names the types of the caller's arguments
  | unmatchedAgain {index : Nat} {arm : Arm (CallPath κ η)} {substituted : List Variant}
      {w' : World κ η} (hfirst : First arms args index arm)
      (hrun : arm.path platform ⟨op, args⟩ w = (.ok (.redispatch substituted), w'))
      (hnone : ∀ arm ∈ arms, ¬ arm.Fits substituted)
      : Dispatched op arms platform args w [(index, args)]
          (.error (.noMatchingArm op (", ".intercalate (args.map Variant.typeName))), w')
  | failedAgain {index index' : Nat} {arm second : Arm (CallPath κ η)}
      {substituted : List Variant} {e : CallError} {w' w'' : World κ η}
      (hfirst : First arms args index arm)
      (hrun : arm.path platform ⟨op, args⟩ w = (.ok (.redispatch substituted), w'))
      (hfirst' : First arms substituted index' second)
      (hrun' : second.path platform ⟨op, substituted⟩ w' = (.error e, w''))
      : Dispatched op arms platform args w [(index, args), (index', substituted)] (.error e, w'')
  | finishedAgain {index index' : Nat} {arm second : Arm (CallPath κ η)}
      {substituted : List Variant} {outcome : Outcome} {w' w'' : World κ η}
      (hfirst : First arms args index arm)
      (hrun : arm.path platform ⟨op, args⟩ w = (.ok (.redispatch substituted), w'))
      (hfirst' : First arms substituted index' second)
      (hrun' : second.path platform ⟨op, substituted⟩ w' = (.ok outcome, w''))
      (hfinal : ∀ twice, outcome ≠ .redispatch twice)
      : Dispatched op arms platform args w [(index, args), (index', substituted)]
          (.ok outcome, w'')
  | substitutedTwice {index index' : Nat} {arm second : Arm (CallPath κ η)}
      {substituted twice : List Variant} {w' w'' : World κ η}
      (hfirst : First arms args index arm)
      (hrun : arm.path platform ⟨op, args⟩ w = (.ok (.redispatch substituted), w'))
      (hfirst' : First arms substituted index' second)
      (hrun' : second.path platform ⟨op, substituted⟩ w' = (.ok (.redispatch twice), w''))
      : Dispatched op arms platform args w [(index, args), (index', substituted)]
          (.error (.invalidTable s!"{op}: arm {second.signature} substituted twice"), w'')

variable {op : String} {arms : List (Arm (CallPath κ η))} {platform : Platform κ η}
  {args : List Variant} {w : World κ η}

theorem Dispatched.length_le {ran : List (Nat × List Variant)}
    {run : Except CallError Outcome × World κ η}
    (h : Dispatched op arms platform args w ran run) : ran.length ≤ 2 := by
  cases h <;> simp

theorem again_of_first {substituted : List Variant} {index : Nat} {arm : Arm (CallPath κ η)}
    (hfirst : First arms substituted index arm) (args : List Variant) (w : World κ η)
    : again op arms platform args substituted w =
      match arm.path platform ⟨op, substituted⟩ w with
      | (.ok (.redispatch _), w') =>
        (.error (.invalidTable s!"{op}: arm {arm.signature} substituted twice"), w')
      | run => run := by
  have heq := again_eq op arms platform args substituted w
  rw [hfirst.select_eq] at heq
  exact heq

theorem dispatch_of_first {index : Nat} {arm : Arm (CallPath κ η)}
    (hfirst : First arms args index arm) (w : World κ η)
    : dispatch op arms platform args w =
      match arm.path platform ⟨op, args⟩ w with
      | (.ok (.redispatch substituted), w') => again op arms platform args substituted w'
      | run => run := by
  have heq := dispatch_eq op arms platform args w
  rw [hfirst.select_eq] at heq
  exact heq

theorem Dispatched.eq_dispatch {ran : List (Nat × List Variant)}
    {run : Except CallError Outcome × World κ η}
    (h : Dispatched op arms platform args w ran run)
    : run = dispatch op arms platform args w := by
  cases h with
  | unmatched hnone =>
    have hselect : select op arms args = .error (noMatch op args) := by
      exact select_eq_error_iff.mpr ⟨rfl, hnone⟩
    rw [dispatch_eq, hselect]
    rfl
  | failed hfirst hrun => rw [dispatch_of_first hfirst, hrun]
  | finished hfirst hrun hfinal =>
    rw [dispatch_of_first hfirst, hrun]
    split
    . next heq =>
      cases heq
      exact absurd rfl (hfinal _)
    . rfl
  | @unmatchedAgain _ _ substituted _ hfirst hrun hnone =>
    have hselect : select op arms substituted = .error (noMatch op substituted) := by
      exact select_eq_error_iff.mpr ⟨rfl, hnone⟩
    rw [dispatch_of_first hfirst, hrun]
    dsimp only
    rw [again_eq, hselect]
    rfl
  | failedAgain hfirst hrun hfirst' hrun' =>
    rw [dispatch_of_first hfirst, hrun]
    dsimp only
    rw [again_of_first hfirst', hrun']
  | finishedAgain hfirst hrun hfirst' hrun' hfinal =>
    rw [dispatch_of_first hfirst, hrun]
    dsimp only
    rw [again_of_first hfirst', hrun']
    split
    . next heq =>
      cases heq
      exact absurd rfl (hfinal _)
    . rfl
  | substitutedTwice hfirst hrun hfirst' hrun' =>
    rw [dispatch_of_first hfirst, hrun]
    dsimp only
    rw [again_of_first hfirst', hrun']

theorem exists_dispatched_again {substituted : List Variant} {index : Nat}
    {arm : Arm (CallPath κ η)} {w' : World κ η} (hfirst : First arms args index arm)
    (hrun : arm.path platform ⟨op, args⟩ w = (.ok (.redispatch substituted), w'))
    : ∃ ran run, Dispatched op arms platform args w ran run := by
  cases hselect : select op arms substituted with
  | error e => exact ⟨_, _, .unmatchedAgain hfirst hrun (select_eq_error_iff.mp hselect).2⟩
  | ok second =>
    have ⟨index', hfirst'⟩ := exists_first hselect
    rcases hrun' : second.path platform ⟨op, substituted⟩ w' with ⟨result, w''⟩
    rcases result with e | outcome
    . exact ⟨_, _, .failedAgain hfirst hrun hfirst' hrun'⟩
    . cases outcome with
      | redispatch twice => exact ⟨_, _, .substitutedTwice hfirst hrun hfirst' hrun'⟩
      | status | value | info => exact ⟨_, _, .finishedAgain hfirst hrun hfirst' hrun' nofun⟩

theorem exists_dispatched (op : String) (arms : List (Arm (CallPath κ η)))
    (platform : Platform κ η) (args : List Variant) (w : World κ η)
    : ∃ ran run, Dispatched op arms platform args w ran run := by
  cases hselect : select op arms args with
  | error e => exact ⟨_, _, .unmatched (select_eq_error_iff.mp hselect).2⟩
  | ok arm =>
    have ⟨index, hfirst⟩ := exists_first hselect
    rcases hrun : arm.path platform ⟨op, args⟩ w with ⟨result, w'⟩
    rcases result with e | outcome
    . exact ⟨_, _, .failed hfirst hrun⟩
    . cases outcome with
      | redispatch substituted => exact exists_dispatched_again hfirst hrun
      | status | value | info => exact ⟨_, _, .finished hfirst hrun nofun⟩

end Dispatch

theorem BoundOperation.runArm_ne_redispatch (b : BoundOperation κ η) (platform : Platform κ η)
    (args substituted : List Variant) (entry : Errno) (w : World κ η)
    : (b.runArm platform args entry w).1 ≠ .ok (.redispatch substituted) := by
  apply dispatch_ne_redispatch

/-- Dispatch comes to what `Dispatched` says and to nothing else; it runs at most two paths. -/
theorem dispatch_iff (op : String) (arms : List (Arm (CallPath κ η))) (platform : Platform κ η)
    (args : List Variant) (w : World κ η)
    : (∀ run, run = dispatch op arms platform args w ↔
        ∃ ran, Dispatch.Dispatched op arms platform args w ran run ∧ ran.length ≤ 2) ∧
      (∀ substituted, (dispatch op arms platform args w).1 ≠ .ok (.redispatch substituted)) ∧
      ∀ b : BoundOperation κ η, ∀ entry substituted,
        (b.runArm platform args entry w).1 ≠ .ok (.redispatch substituted) := by
  refine ⟨?_, ?_, ?_⟩
  . intro run
    constructor
    . intro hrun
      have ⟨ran, run', h⟩ := Dispatch.exists_dispatched op arms platform args w
      rw [hrun, ← h.eq_dispatch]
      exact ⟨ran, h, h.length_le⟩
    . intro h
      have ⟨ran, h, _⟩ := h
      exact h.eq_dispatch
  . intro substituted
    apply dispatch_ne_redispatch
  . intro b entry substituted
    apply b.runArm_ne_redispatch

end NativeCall
