/-!
This module contains the reading of bytes as text. Well-formed UTF-8 is read as it stands; of other
bytes, each longest beginning of a character that no character continues is read as one replacement
character.
-/

namespace NativeCall.Text

def isContinuation (b : UInt8) : Bool :=
  0x80 ≤ b && b ≤ 0xBF

/-- The bytes that may follow the first byte `b` of a character of at least three bytes. -/
def secondByteRange (b : UInt8) : UInt8 × UInt8 :=
  if b == 0xE0 then (0xA0, 0xBF)
  else if b == 0xED then (0x80, 0x9F)
  else if b == 0xF0 then (0x90, 0xBF)
  else if b == 0xF4 then (0x80, 0x8F)
  else (0x80, 0xBF)

/-- How many bytes a character has that starts with `b`, if one can. -/
def sequenceLength (b : UInt8) : Option Nat :=
  if b < 0x80 then some 1
  else if 0xC2 ≤ b && b ≤ 0xDF then some 2
  else if 0xE0 ≤ b && b ≤ 0xEF then some 3
  else if 0xF0 ≤ b && b ≤ 0xF4 then some 4
  else none

/-- The length of the longest part of `bytes`, which follow the first byte `b`, that a character of
`length` bytes may have there. -/
def goodTail (b : UInt8) (length : Nat) (bytes : List UInt8) : Nat :=
  match length, bytes with
  | 2, c :: _ => if isContinuation c then 1 else 0
  | 3, c :: rest =>
    let (lo, hi) := secondByteRange b
    if lo ≤ c && c ≤ hi then
      match rest with
      | d :: _ => if isContinuation d then 2 else 1
      | [] => 1
    else 0
  | 4, c :: rest =>
    let (lo, hi) := secondByteRange b
    if lo ≤ c && c ≤ hi then
      match rest with
      | d :: rest =>
        if isContinuation d then
          match rest with
          | e :: _ => if isContinuation e then 3 else 2
          | [] => 2
        else 1
      | [] => 1
    else 0
  | _, _ => 0

def sequenceChar (b : UInt8) (tail : List UInt8) : Char :=
  let lead :=
    match tail.length with
    | 0 => b.toNat
    | 1 => b.toNat % 32
    | 2 => b.toNat % 16
    | _ => b.toNat % 8
  Char.ofNat (tail.foldl (fun acc c => acc * 64 + c.toNat % 64) lead)

/-- Read bytes from the front, a replacement character for each ill-formed part. -/
def decodePatched : List UInt8 → List Char
  | [] => []
  | b :: rest =>
    match sequenceLength b with
    | none => '\uFFFD' :: decodePatched rest
    | some n =>
      let good := goodTail b n rest
      let c := if good + 1 = n then sequenceChar b (rest.take good) else '\uFFFD'
      c :: decodePatched (rest.drop good)
termination_by bytes => bytes.length
decreasing_by all_goals (simp only [List.length_cons, List.length_drop]; omega)

/-- The text that bytes spell; ill-formed parts become replacement characters. -/
def decodeLossy (bytes : List UInt8) : String :=
  match String.fromUTF8? ⟨bytes.toArray⟩ with
  | some text => text
  | none => String.ofList (decodePatched bytes)

def encode (text : String) : List UInt8 :=
  text.toUTF8.toList

end NativeCall.Text
