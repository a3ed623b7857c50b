import NativeCall.Text.Hex

/-!
This module contains the reading of integers of a fixed range from text.
-/

namespace NativeCall.Text

inductive NumberError where
  | empty
  | invalidDigit
  | tooLarge
  | tooSmall
deriving DecidableEq, Repr

def NumberError.message : NumberError → String
  | empty => "cannot parse integer from empty string"
  | invalidDigit => "invalid digit found in string"
  | tooLarge => "number too large to fit in target type"
  | tooSmall => "number too small to fit in target type"

/-- Read on behind digits with the value `acc`, which is at most `limit`. The first character that is
no digit or takes the value beyond the limit decides the error. -/
def readDigits (base limit : Nat) (beyond : NumberError) (acc : Nat) :
    List Char → Except NumberError Nat
  | [] => .ok acc
  | c :: rest =>
    match digitValue base c with
    | none => .error .invalidDigit
    | some d =>
      let n := acc * base + d
      if limit < n then .error beyond else readDigits base limit beyond n rest

/-- The natural number that digits with an optional plus sign spell, at most `limit`. -/
def readNat (base limit : Nat) (text : List Char) : Except NumberError Nat :=
  match text with
  | [] => .error .empty
  | ['+'] => .error .invalidDigit
  | '+' :: digits => readDigits base limit .tooLarge 0 digits
  | digits => readDigits base limit .tooLarge 0 digits

def readInt64 (base : Nat) (text : List Char) : Except NumberError Int64 :=
  match text with
  | [] => .error .empty
  | ['+'] => .error .invalidDigit
  | ['-'] => .error .invalidDigit
  | '-' :: digits => do
    return Int64.ofInt (-(← readDigits base 0x8000000000000000 .tooSmall 0 digits : Nat))
  | '+' :: digits => do return Int64.ofNat (← readDigits base 0x7FFFFFFFFFFFFFFF .tooLarge 0 digits)
  | digits => do return Int64.ofNat (← readDigits base 0x7FFFFFFFFFFFFFFF .tooLarge 0 digits)

end NativeCall.Text
