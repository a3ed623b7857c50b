import NativeCall.Variant

/-!
This module contains the shapes of arguments, the guards made of them, and the arms of an operation:
alternative call paths, each behind its guard.
-/

namespace NativeCall

inductive Shape where
  | any
  | nil
  | int
  | str
  | symbol
  | pointer
deriving DecidableEq, Repr

namespace Shape

def all : List Shape := [any, nil, int, str, symbol, pointer]

def name : Shape → String
  | any => "any"
  | nil => "nil"
  | int => "int"
  | str => "string"
  | symbol => "symbol"
  | pointer => "pointer"

def accepts : Shape → Kind → Bool
  | any, _ => true
  | nil, .nil => true
  | int, .int _ => true
  | str, .str _ => true
  | symbol, .symbol _ => true
  | pointer, .pointer _ => true
  | _, _ => false

end Shape

abbrev Guard := List Shape

namespace Guard

/-- The guard has as many shapes as there are arguments, and each accepts its argument. -/
def accepts : Guard → List Variant → Bool
  | [], [] => true
  | shape :: guard, arg :: args => shape.accepts arg.kind && accepts guard args
  | _, _ => false

def signature (guard : Guard) : String :=
  "(" ++ ", ".intercalate (guard.map Shape.name) ++ ")"

end Guard

/-- One alternative of an operation: a call path, taken where the guard accepts the arguments. -/
structure Arm (π : Type) where
  guard : Guard
  path : π

namespace Arm

variable {π : Type}

def accepts (arm : Arm π) (args : List Variant) : Bool :=
  arm.guard.accepts args

def signature (arm : Arm π) : String :=
  arm.guard.signature

def inspect (arm : Arm π) : String :=
  "Arm" ++ arm.signature

end Arm

end NativeCall
