import NativeCall.Decimal.Double
import NativeCall.Memory.Pointer
import NativeCall.Text.Quoted

/-!
This module contains the values that cross between a managed runtime and the operations: what they
are, how an operation classifies them, and how they are written.
-/

namespace NativeCall

inductive Variant where
  | nil
  | bool (value : Bool)
  | int (value : Int64)
  | float (value : Decimal.Double)
  | str (text : String)
  | symbol (name : String)
  | pointer (handle : Pointer)
deriving DecidableEq, Repr, Inhabited

/-- What a guard can see of a value: its payload where operations take such values, and nothing of
the values that no operation takes. -/
inductive Kind where
  | nil
  | int (value : Int64)
  | str (text : String)
  | symbol (name : String)
  | pointer (handle : Pointer)
  | other
deriving DecidableEq, Repr

namespace Variant

def kind : Variant → Kind
  | nil => .nil
  | bool _ => .other
  | int v => .int v
  | float _ => .other
  | str s => .str s
  | symbol s => .symbol s
  | pointer p => .pointer p

def asInt? : Variant → Option Int64
  | int v => some v
  | _ => none

def asStr? : Variant → Option String
  | str s => some s
  | _ => none

def asSymbol? : Variant → Option String
  | symbol s => some s
  | _ => none

def asPointer? : Variant → Option Pointer
  | pointer p => some p
  | _ => none

def typeName : Variant → String
  | nil => "nil"
  | bool _ => "bool"
  | int _ => "int"
  | float _ => "float"
  | str _ => "string"
  | symbol _ => "symbol"
  | pointer _ => "pointer"

def display : Variant → String
  | nil => "nil"
  | bool b => toString b
  | int v => toString v.toInt
  | float v => v.display
  | str s => Text.quote s
  | symbol s => ":" ++ s
  | pointer p => p.display

/-- The text of a value in diagnostics, which shows its constructor. -/
def inspect : Variant → String
  | nil => "Nil"
  | bool b => s!"Bool({b})"
  | int v => s!"Int({v.toInt})"
  | float v => s!"Float({v.inspect})"
  | str s => s!"Str({Text.quote s})"
  | symbol s => s!"Symbol({Text.quote s})"
  | pointer p => s!"Pointer({p.display})"

def same : Variant → Variant → Bool
  | float a, float b => a.sameNumber b
  | a, b => a == b

def ofInt32 (v : Int32) : Variant :=
  int v.toInt64

def ofUInt32 (v : UInt32) : Variant :=
  int (Int64.ofNat v.toNat)

def ofOption (make : α → Variant) : Option α → Variant
  | some a => make a
  | none => nil

end Variant

def Kind.name : Kind → String
  | .nil => "nil"
  | .int _ => "int"
  | .str _ => "str"
  | .symbol _ => "symbol"
  | .pointer _ => "pointer"
  | .other => "opaque"

end NativeCall
