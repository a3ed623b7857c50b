import NativeCall.World

/-!
This module contains spans. While a thread is inside a native call its slot holds the name of the
operation, and no second span can be opened on it.
-/

namespace NativeCall

namespace Span

/-- What entering a span makes of a thread's slot; refused if the slot is taken. -/
def enterSlot (op : String) : Option String → Except CallError (Option String)
  | none => .ok (some op)
  | some active => .error (.reentrant op active)

variable {κ η : Type}

def active : Action κ η (Option String) :=
  return (← get).span

def enter (op : String) : Call κ η Unit := do
  let slot ← enterSlot op (← get).span
  modify fun w => { w with span := slot }

def leave : Action κ η Unit :=
  modify fun w => { w with span := none }

/-- The slots of many threads, each thread known by a number. -/
abbrev Slots := Nat → Option String

namespace Slots

def enter (slots : Slots) (thread : Nat) (op : String) : Except CallError Slots := do
  let slot ← enterSlot op (slots thread)
  return fun t => if t = thread then slot else slots t

/-- Give a span up on a thread, which is the one whose slot is emptied. -/
def leave (slots : Slots) (thread : Nat) : Slots :=
  fun t => if t = thread then none else slots t

end Slots

end Span

end NativeCall
