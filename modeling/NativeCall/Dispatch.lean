import NativeCall.CallPath

/-!
This module contains dispatch: the first arm whose guard accepts the arguments is taken, and its path
may once ask for a second choice with substituted arguments.
-/

namespace NativeCall

namespace Dispatch

variable {κ η π : Type}

/-- The error that no arm of `op` accepts the arguments, which names their types. -/
def noMatch (op : String) (args : List Variant) : CallError :=
  .noMatchingArm op (", ".intercalate (args.map Variant.typeName))

def select (op : String) (arms : List (Arm π)) (args : List Variant) : Except CallError (Arm π) :=
  match arms.find? (·.accepts args) with
  | some arm => .ok arm
  | none => .error (noMatch op args)

/-- Run the arm that takes the substituted arguments. If there is none, the error names the
caller's. -/
def again (op : String) (arms : List (Arm (CallPath κ η))) (platform : Platform κ η)
    (args substituted : List Variant) : Call κ η Outcome := do
  match select op arms substituted with
  | .error _ => throw (noMatch op args)
  | .ok arm =>
    match ← arm.path platform ⟨op, substituted⟩ with
    | .redispatch _ => throw (.invalidTable s!"{op}: arm {arm.signature} substituted twice")
    | outcome => return outcome

end Dispatch

/-- Choose an arm and run its path; if the path substitutes arguments, choose and run once more. -/
def dispatch {κ η : Type} (op : String) (arms : List (Arm (CallPath κ η)))
    (platform : Platform κ η) (args : List Variant) : Call κ η Outcome := do
  let arm ← Dispatch.select op arms args
  match ← arm.path platform ⟨op, args⟩ with
  | .redispatch substituted => Dispatch.again op arms platform args substituted
  | outcome => return outcome

end NativeCall
