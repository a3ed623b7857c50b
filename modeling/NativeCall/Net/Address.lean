import NativeCall.Text.Hex

/-!
This module contains internet addresses as bytes, the most significant first, and their text: how
they are read and how they are written.
-/

namespace NativeCall.Net

/-- The largest number that the last of several parts of an address of four bytes may have, by how
many parts come before it. -/
def lastPartLimit : Nat → Nat
  | 0 => 0xFFFFFFFF
  | 1 => 0xFFFFFF
  | 2 => 0xFFFF
  | _ => 0xFF

/-- The number that a part of an address spells: hexadecimal after `0x`, octal after a zero,
decimal otherwise. -/
def partValue? (part : List Char) : Option Nat :=
  let value? :=
    match part with
    | '0' :: 'x' :: digits => if digits.isEmpty then none else Text.digitsValue 16 digits
    | '0' :: 'X' :: digits => if digits.isEmpty then none else Text.digitsValue 16 digits
    | '0' :: digits => Text.digitsValue 8 digits
    | [] => none
    | digits => Text.digitsValue 10 digits
  value?.filter (· ≤ 0xFFFFFFFF)

/-- The digits of `n` in base 256, `width` of them, the most significant first. -/
def bigEndian (width n : Nat) : List UInt8 :=
  (List.range width).map fun i => UInt8.ofNat (n >>> (8 * (width - 1 - i)))

def ofBigEndian (bytes : List UInt8) : Nat :=
  bytes.foldl (fun acc b => acc * 256 + b.toNat) 0

def splitAt (c : Char) (text : List Char) : List (List Char) :=
  let (current, done) := text.foldr
    (fun x (current, done) => if x = c then ([], current :: done) else (x :: current, done))
    ([], [])
  current :: done

/-- The four bytes of an address given by one to four parts, of which the last fills the bytes that
the others leave. -/
def parseV4 (text : List Char) : Option (List UInt8) := do
  let parts ← (splitAt '.' text).mapM partValue?
  let last ← parts.getLast?
  let before := parts.dropLast
  if 3 < before.length ∨ before.any (255 < ·) ∨ lastPartLimit before.length < last then none
  else return before.map UInt8.ofNat ++ bigEndian (4 - before.length) last

/-- The four bytes of an address given by four decimal parts without superfluous zeros. -/
def parseV4Strict (text : List Char) : Option (List UInt8) := do
  let parts := splitAt '.' text
  if parts.length ≠ 4 then none
  else
    parts.mapM fun part =>
      if part.isEmpty ∨ (1 < part.length ∧ part.head? = some '0') then none
      else do
        let n ← Text.digitsValue 10 part
        if n ≤ 255 then some (UInt8.ofNat n) else none

/-- The reading of an address of sixteen bytes: the bytes so far, how many of them come before the
gap if there was one, and the text of the current group. -/
structure V6Reader where
  bytes : List UInt8
  gap : Option Nat
  group : List Char

namespace V6Reader

def groupBytes? (group : List Char) : Option (List UInt8) := do
  if 4 < group.length then none
  else return bigEndian 2 (← Text.digitsValue 16 group)

/-- Close the current group, which leaves room for at most sixteen bytes. -/
def closeGroup (r : V6Reader) : Option V6Reader := do
  let bytes := r.bytes ++ (← groupBytes? r.group)
  if 16 < bytes.length then none else return ⟨bytes, r.gap, []⟩

/-- Fill the gap with zeros, so that there are sixteen bytes. -/
def fillGap (r : V6Reader) : Option (List UInt8) :=
  match r.gap with
  | none => if r.bytes.length = 16 then some r.bytes else none
  | some n =>
    if 16 ≤ r.bytes.length then none
    else some (r.bytes.take n ++ List.replicate (16 - r.bytes.length) 0 ++ r.bytes.drop n)

/-- Read on. A point makes the current group the beginning of an address of four bytes. -/
def read (r : V6Reader) : List Char → Option (List UInt8)
  | [] => do
    if r.group.isEmpty then r.fillGap else (← r.closeGroup).fillGap
  | ':' :: rest =>
    if r.group.isEmpty then
      if r.gap.isSome then none else read ⟨r.bytes, some r.bytes.length, []⟩ rest
    else if rest.isEmpty then none
    else do read (← r.closeGroup) rest
  | '.' :: rest => do
    if 12 < r.bytes.length then none
    else
      let v4 ← parseV4Strict (r.group ++ '.' :: rest)
      fillGap ⟨r.bytes ++ v4, r.gap, []⟩
  | c :: rest => do
    let _ ← Text.digitValue 16 c
    if 4 ≤ r.group.length then none else read ⟨r.bytes, r.gap, r.group ++ [c]⟩ rest

end V6Reader

/-- The sixteen bytes of an address in groups of hexadecimal digits between colons, of which two in a
row stand for as many zeros as are missing. -/
def parseV6 (text : List Char) : Option (List UInt8) :=
  match text with
  | ':' :: ':' :: _ => V6Reader.read ⟨[], none, []⟩ (text.drop 1)
  | ':' :: _ => none
  | [] => none
  | _ => V6Reader.read ⟨[], none, []⟩ text

def formatV4 (bytes : List UInt8) : String :=
  ".".intercalate (bytes.map fun b => toString b.toNat)

def words : List UInt8 → List Nat
  | a :: b :: rest => (256 * a.toNat + b.toNat) :: words rest
  | _ => []

/-- The first of the longest runs of at least two zeros, as its start and length. -/
def longestZeroRun (words : List Nat) : Option (Nat × Nat) :=
  let runs := (List.range words.length).map fun i =>
    (i, ((words.drop i).takeWhile (· = 0)).length)
  runs.foldl (fun best (i, n) =>
    if n < 2 then best
    else
      match best with
      | some (_, m) => if m < n then some (i, n) else best
      | none => some (i, n)) none

def joinGroups (groups : List Nat) : String :=
  ":".intercalate (groups.map Text.hexLower)

/-- The text of an address of sixteen bytes. The longest run of zeros is left out; an address whose
last four bytes are an address of their own shows it so. -/
def formatV6 (bytes : List UInt8) : String :=
  let groups := words bytes
  match longestZeroRun groups with
  | none => joinGroups groups
  | some (start, count) =>
    let v4 := formatV4 (bytes.drop 12)
    if start = 0 ∧ count = 6 then "::" ++ v4
    else if start = 0 ∧ count = 5 ∧ groups[5]? = some 0xFFFF then "::ffff:" ++ v4
    else joinGroups (groups.take start) ++ "::" ++ joinGroups (groups.drop (start + count))

def mapV4 (bytes : List UInt8) : List UInt8 :=
  List.replicate 10 0 ++ [255, 255] ++ bytes

def unmapV4? (bytes : List UInt8) : Option (List UInt8) :=
  if bytes.take 12 = List.replicate 10 0 ++ [255, 255] then some (bytes.drop 12) else none

end NativeCall.Net
