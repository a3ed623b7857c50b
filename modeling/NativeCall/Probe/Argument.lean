import NativeCall.Memory.Buffer
import NativeCall.Text.Number
import NativeCall.Variant

/-!
This module contains the arguments of a probe as they are written on the command line.
-/

namespace NativeCall.Probe

inductive Argument where
  | value (value : Variant)
  /-- A new buffer of zero bytes, which the operation gets a pointer to. -/
  | buffer (size : UInt64)
deriving DecidableEq, Repr

inductive ArgumentError where
  | bufferLength (text : String) (cause : Text.NumberError)
  | emptySymbol
  /-- The program stops. -/
  | overflow
deriving DecidableEq, Repr

namespace ArgumentError

def summary : ArgumentError → String
  | bufferLength text _ => s!"buffer length in {Text.quote text}"
  | emptySymbol => "empty symbol"
  | overflow => "attempt to negate with overflow"

def message : ArgumentError → String
  | bufferLength text cause => s!"buffer length in {Text.quote text}: {cause.message}"
  | emptySymbol => "empty symbol"
  | overflow => "attempt to negate with overflow"

end ArgumentError

namespace Argument

/-- The integer that a text without a minus sign in front spells: hexadecimal after `0x`, octal after
`0o`, in either case with an optional sign behind, otherwise decimal digits alone. -/
def magnitude? (text : List Char) : Option Int64 :=
  match text with
  | '0' :: 'x' :: digits => (Text.readInt64 16 digits).toOption
  | '0' :: 'o' :: digits => (Text.readInt64 8 digits).toOption
  | digits =>
    if !digits.isEmpty && digits.all Char.isDigit then (Text.readInt64 10 digits).toOption
    else none

/-- The integer that a text spells, with an optional minus sign in front, which is taken into account
last. -/
def int? (overflow : Overflow) (text : List Char) : Except ArgumentError (Option Int64) :=
  match text with
  | '-' :: rest =>
    match magnitude? rest with
    | none => .ok none
    | some n =>
      match overflow.neg? n with
      | some negated => .ok (some negated)
      | none => .error .overflow
  | text => .ok (magnitude? text)

def quoted? (text : List Char) : Option (List Char) :=
  match text with
  | '\'' :: rest => if rest.getLast? = some '\'' then some rest.dropLast else none
  | _ => none

/-- Read an argument: `nil`, `buf:` and a size, a colon and the name of a symbol, text in single
quotes, an integer, or text as it stands. -/
def parse (overflow : Overflow) (text : String) : Except ArgumentError Argument :=
  match text.toList with
  | ['n', 'i', 'l'] => .ok (.value .nil)
  | 'b' :: 'u' :: 'f' :: ':' :: size =>
    match Text.readNat 10 (UInt64.size - 1) size with
    | .ok n => .ok (.buffer (UInt64.ofNat n))
    | .error cause => .error (.bufferLength text cause)
  | [':'] => .error .emptySymbol
  | ':' :: name => .ok (.value (.symbol (String.ofList name)))
  | chars =>
    match quoted? chars with
    | some inner => .ok (.value (.str (String.ofList inner)))
    | none =>
      match int? overflow chars with
      | .ok (some n) => .ok (.value (.int n))
      | .ok none => .ok (.value (.str text))
      | .error e => .error e

end Argument

end NativeCall.Probe
