import NativeCall.Invocation
import NativeCall.Text.Hex

/-!
This module contains the accessors of invocations by name, with their results as values.
-/

namespace NativeCall

inductive Accessor where
  | int
  | cInt
  | size
  | socketLength
  | str
  | symbol
  | pointer
  | cString
  | view
  | nullableView
  | count
deriving DecidableEq, Repr

namespace Accessor

def describeView (v : View) : String :=
  match v.length with
  | some n => s!"view of {n.toNat}"
  | none => "view of unknown length"

/-- Decode the argument at `index` and turn the result into a value. -/
def read (accessor : Accessor) (inv : Invocation) (index : Nat) : Except CallError Variant := do
  match accessor with
  | int => return .int (← inv.int index)
  | cInt => return .ofInt32 (← inv.cInt index)
  | size => return .int (← inv.size index).toInt64
  | socketLength => return .ofUInt32 (← inv.socketLength index)
  | str => return .str (← inv.str index)
  | symbol => return .symbol (← inv.symbol index)
  | pointer => return .pointer (← inv.pointer index)
  | cString => return .str (Text.hexBytes (← inv.cString index).terminated)
  | view => return .str (describeView (← inv.view index))
  | nullableView => return Variant.ofOption (.str ∘ describeView) (← inv.nullableView index)
  | count => return .int (Int64.ofNat inv.args.length)

end Accessor

end NativeCall
