import NativeCall.Registry

/-!
This module contains what actions and calls do when they are run on a world.
-/

namespace NativeCall

variable {κ η α β : Type}

namespace Action

@[simp]
theorem run_pure (a : α) (w : World κ η) : (pure a : Action κ η α) w = (a, w) := by
  rfl

@[simp]
theorem run_bind (x : Action κ η α) (f : α → Action κ η β) (w : World κ η)
    : (x >>= f) w = f (x w).1 (x w).2 := by
  rfl

@[simp]
theorem run_errno (w : World κ η) : Action.errno w = (w.errno, w) := by
  rfl

@[simp]
theorem run_setErrno (e : Errno) (w : World κ η)
    : Action.setErrno e w = ((), { w with errno := e }) := by
  rfl

@[simp]
theorem run_modify (f : World κ η → World κ η) (w : World κ η)
    : (modify f : Action κ η PUnit) w = (⟨⟩, f w) := by
  rfl

end Action

namespace Call

@[simp]
theorem run_pure (a : α) (w : World κ η) : (pure a : Call κ η α) w = (.ok a, w) := by
  rfl

theorem run_bind (x : Call κ η α) (f : α → Call κ η β) (w : World κ η)
    : (x >>= f) w =
      match x w with
      | (.ok a, w') => f a w'
      | (.error e, w') => (.error e, w') := by
  show (ExceptT.bindCont f (x w).1) (x w).2 = _
  rcases x w with ⟨r, w'⟩
  cases r <;> rfl

@[simp]
theorem run_liftExcept (x : Except CallError α) (w : World κ η)
    : (liftM x : Call κ η α) w = (x, w) := by
  rfl

@[simp]
theorem run_liftAction (x : Action κ η α) (w : World κ η)
    : (liftM x : Call κ η α) w = (.ok (x w).1, (x w).2) := by
  rfl

@[simp]
theorem run_get (w : World κ η) : (get : Call κ η (World κ η)) w = (.ok w, w) := by
  rfl

@[simp]
theorem run_modify (f : World κ η → World κ η) (w : World κ η)
    : (modify f : Call κ η PUnit) w = (.ok ⟨⟩, f w) := by
  rfl

end Call

end NativeCall
