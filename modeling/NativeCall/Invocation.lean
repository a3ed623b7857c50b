import NativeCall.CString
import NativeCall.CallError
import NativeCall.Memory.View
import NativeCall.Shape

/-!
This module contains invocations, the arguments of one call, and the accessors by which call paths
decode them. An accessor checks the shape that it decodes, so that a path which disagrees with its
guard fails instead of reading something else.
-/

namespace NativeCall

structure Invocation where
  op : String
  args : List Variant

namespace Invocation

variable (inv : Invocation) (index : Nat)

def arg : Except CallError Variant :=
  match inv.args[index]? with
  | some v => .ok v
  | none => .error (.arityMismatch inv.op (index + 1) inv.args.length)

def misuse (reason : String) : CallError :=
  .invalidArgument inv.op reason

/-- The error that the argument at `index` does not have the shape `expected`. -/
def unexpected (expected : Shape) : CallError :=
  let got := (inv.args[index]?).elim "nothing" Variant.typeName
  inv.misuse s!"argument {index}: expected {expected.name}, got {got}"

def unsupported : CallError :=
  .unsupported inv.op

/-- Decode the argument at `index` by `read`, which has a result exactly for the shape `expected`. -/
def decode {α : Type} (expected : Shape) (read : Variant → Option α) : Except CallError α := do
  match read (← inv.arg index) with
  | some a => return a
  | none => throw (inv.unexpected index expected)

def int : Except CallError Int64 :=
  inv.decode index .int Variant.asInt?

/-- The integer at `index`, which has to lie between `low` and `high`. -/
def bounded (low high : Int) : Except CallError Int64 := do
  let value ← inv.int index
  if low ≤ value.toInt ∧ value.toInt ≤ high then return value
  else throw (.outOfRange inv.op index value)

def cInt : Except CallError Int32 :=
  return (← inv.bounded index (-0x80000000) 0x7FFFFFFF).toInt32

def size : Except CallError UInt64 :=
  return (← inv.bounded index 0 0x7FFFFFFFFFFFFFFF).toUInt64

/-- The integer at `index` as the length of an address or of a socket option. -/
def socketLength : Except CallError UInt32 :=
  return (← inv.bounded index 0 0xFFFFFFFF).toUInt64.toUInt32

def str : Except CallError String :=
  inv.decode index .str Variant.asStr?

/-- The text at `index` as a native string, which cannot contain a zero. -/
def cString : Except CallError CString := do
  match CString.ofText? (← inv.str index) with
  | some s => return s
  | none => throw (.interiorNul inv.op index)

def symbol : Except CallError String :=
  inv.decode index .symbol Variant.asSymbol?

def pointer : Except CallError Pointer :=
  inv.decode index .pointer Variant.asPointer?

def memory {α : Type} : Except MemoryFault α → Except CallError α
  | .ok a => .ok a
  | .error fault => .error (.memory inv.op index fault)

/-- A view through the pointer at `index`, which cannot be null. -/
def view : Except CallError View := do
  inv.memory index (View.acquire (← inv.pointer index))

/-- A view through the pointer at `index`; none if the argument is nil or a null pointer. -/
def nullableView : Except CallError (Option View) := do
  match ← inv.arg index with
  | .nil => return none
  | .pointer p => if p.isNull then return none else return some (← inv.view index)
  | _ => return some (← inv.view index)

/-- A view through the pointer at `index` with at least `count` bytes. -/
def region (count : UInt64) : Except CallError View := do
  let view ← inv.view index
  inv.memory index (view.check 0 count)
  return view

end Invocation

end NativeCall
