import NativeCall.Decimal.Nearest
import NativeCall.Text.Number
import NativeCall.Text.Reader

/-!
This module contains the numbers of a document.
-/

namespace NativeCall.Toml.Grammar

open Text Reader

/-- A sign, if there is one. Is it a minus? -/
def sign : Reader Bool :=
  (do char '-'; return true) <|> (do char '+'; return false) <|> return false

/-- Characters for which `p` holds, with single underscores between some of them. -/
def grouped (p : Char → Bool) : Reader (List Char) := do
  return (← satisfy p) :: (← many (satisfy p <|> (do char '_'; satisfy p)))

def wholeDigits : Reader (List Char) :=
  (do ahead (satisfy fun c => c.isDigit && c != '0'); grouped Char.isDigit) <|>
    List.singleton <$> satisfy Char.isDigit

/-- The integer that digits of a base spell, if it is one of 64 bits. -/
def integerOf (base : Nat) (negative : Bool) (digits : List Char) : Reader Int64 :=
  match Text.readInt64 base (if negative then '-' :: digits else digits) with
  | .ok n => return n
  | .error _ => failure

def based (mark : String) (base : Nat) : Reader Int64 := do
  text mark
  integerOf base false (← grouped fun c => (Text.digitValue base c).isSome)

def integer : Reader Int64 :=
  based "0x" 16 <|> based "0o" 8 <|> based "0b" 2 <|> do
    let negative ← sign
    integerOf 10 negative (← wholeDigits)

def exponent : Reader Int := do
  let _ ← satisfy fun c => c == 'e' || c == 'E'
  let negative ← sign
  let n : Int := ((Text.digitsValue 10 (← grouped Char.isDigit)).getD 0 : Nat)
  return if negative then -n else n

/-- What makes a number with decimal digits one that is not an integer: digits behind a point, a
power of ten, or both. -/
def fraction : Reader (List Char × Int) :=
  (do return ([], ← exponent)) <|> do
    char '.'
    let digits ← grouped Char.isDigit
    return (digits, (← optional exponent).getD 0)

/-- A number with a fraction or an exponent. One that is too large is none; too small it may be. -/
def finite : Reader Decimal.Double := do
  let negative ← sign
  let whole ← wholeDigits
  let (digits, power) ← fraction
  let spelled := (Text.digitsValue 10 (whole ++ digits)).getD 0
  let number := Decimal.Double.ofScientific negative ⟨spelled, power - digits.length⟩
  if number.isInfinite && !negative then failure
  return number

def special : Reader Decimal.Double := do
  let negative ← sign
  let bits ←
    (do text "inf"; return Decimal.Double.infinityBits) <|>
      (do text "nan"; return Decimal.Double.infinityBits + (1 <<< 51))
  return ⟨UInt64.ofNat (bits + if negative then 1 <<< 63 else 0)⟩

def float : Reader Decimal.Double :=
  finite <|> special

end NativeCall.Toml.Grammar
