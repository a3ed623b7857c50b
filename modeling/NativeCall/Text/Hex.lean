/-!
This module contains the writing and reading of numbers and bytes in positional notation: digits of
a number in a base from two to sixteen, and the two-digit hexadecimal text of a list of bytes.
-/

namespace NativeCall.Text

/-- The digit character of `d`, for `d` below sixteen, in lower case. -/
def digitChar (d : Nat) : Char :=
  if d < 10 then Char.ofNat (48 + d) else Char.ofNat (87 + d)

/-- The value of a digit character in a base of at most sixteen; either case is read. -/
def digitValue (base : Nat) (c : Char) : Option Nat :=
  let v :=
    if '0' ≤ c ∧ c ≤ '9' then c.toNat - 48
    else if 'a' ≤ c ∧ c ≤ 'f' then c.toNat - 87
    else if 'A' ≤ c ∧ c ≤ 'F' then c.toNat - 55
    else base
  if v < base then some v else none

/-- The number that a list of digits spells, most significant first; none if a character is not a
digit of the base. The empty list spells zero. -/
def digitsValue (base : Nat) (digits : List Char) : Option Nat :=
  digits.foldlM (fun acc c => (acc * base + ·) <$> digitValue base c) 0

/-- The hexadecimal digits of `n`, lower case, without leading zeros. -/
def hexLower (n : Nat) : String :=
  String.ofList (Nat.toDigits 16 n)

def hexUpper (n : Nat) : String :=
  String.ofList ((Nat.toDigits 16 n).map Char.toUpper)

def hexBytes (bytes : List UInt8) : String :=
  String.ofList (bytes.flatMap fun b => [digitChar (b.toNat / 16), digitChar (b.toNat % 16)])

/-- The bytes that `hexBytes` writes as `text`; none if the length is odd or a character is not a
hexadecimal digit. -/
def bytesOfHex? (text : String) : Option (List UInt8) :=
  go text.toList
where
  go : List Char → Option (List UInt8)
    | [] => some []
    | [_] => none
    | hi :: lo :: rest => do
      let h ← digitValue 16 hi
      let l ← digitValue 16 lo
      return UInt8.ofNat (16 * h + l) :: (← go rest)

end NativeCall.Text
