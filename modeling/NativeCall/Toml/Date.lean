import NativeCall.Text.Hex
import NativeCall.Text.Reader

/-!
This module contains the dates and times of a document. They are only told from other values; what
they say is not kept.
-/

namespace NativeCall.Toml.Grammar

open Text Reader

/-- A number of exactly `width` digits from `least` to `most`. -/
def field (width least most : Nat) : Reader Nat := do
  let digits ← times width (satisfy Char.isDigit)
  let n := (Text.digitsValue 10 digits).getD 0
  if n < least || most < n then failure
  return n

def daysIn (year month : Nat) : Nat :=
  if month = 2 then
    if year % 4 = 0 ∧ (year % 100 ≠ 0 ∨ year % 400 = 0) then 29 else 28
  else if [4, 6, 9, 11].contains month then 30
  else 31

def day : Reader Unit := do
  let year ← field 4 0 9999
  char '-'
  let month ← field 2 1 12
  char '-'
  let _ ← field 2 1 (daysIn year month)

def clock : Reader Unit := do
  let _ ← field 2 0 23
  char ':'
  let _ ← field 2 0 59
  char ':'
  let _ ← field 2 0 60
  let _ ← optional do
    char '.'
    takeSome Char.isDigit

def zone : Reader Unit :=
  (do let _ ← satisfy fun c => c == 'Z' || c == 'z') <|> do
    let _ ← satisfy fun c => c == '+' || c == '-'
    let _ ← field 2 0 23
    char ':'
    let _ ← field 2 0 59

def date : Reader Unit :=
  (do
    day
    let _ ← optional do
      let _ ← satisfy fun c => c == 'T' || c == 't' || c == ' '
      clock
      optional zone) <|> clock

end NativeCall.Toml.Grammar
