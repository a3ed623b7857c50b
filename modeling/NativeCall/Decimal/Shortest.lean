/-!
This module contains the shortest decimal text of a binary floating-point number: the fewest digits
that read back as the same number, and among those the digits nearest to it. All arithmetic is on
natural numbers.
-/

namespace NativeCall.Decimal

structure Scientific where
  digits : Nat
  exponent : Int
deriving DecidableEq, Repr

def digitCount (n : Nat) : Nat :=
  if n = 0 then 0 else (Nat.toDigits 10 n).length

def Scientific.trim (s : Scientific) : Scientific :=
  go s.digits s
where
  go : Nat → Scientific → Scientific
    | 0, s => s
    | fuel + 1, s =>
      if s.digits ≠ 0 ∧ s.digits % 10 = 0 then go fuel ⟨s.digits / 10, s.exponent + 1⟩ else s

/-- The numbers that round to `value / scale`: those between `low / scale` and `high / scale`, the
ends included if `closed`. -/
structure Interval where
  scale : Nat
  value : Nat
  low : Nat
  high : Nat
  closed : Bool

namespace Interval

/-- The interval of the binary number `mantissa · 2 ^ power`, whose lower neighbour is only half a unit
away if `lowerHalf`. -/
def ofBinary (mantissa : Nat) (power : Int) (lowerHalf : Bool) : Interval :=
  let unit := 1 <<< (power - 2).toNat
  { scale := 1 <<< (2 - power).toNat
    value := 4 * mantissa * unit
    low := (4 * mantissa - if lowerHalf then 1 else 2) * unit
    high := (4 * mantissa + 2) * unit
    closed := mantissa % 2 = 0 }

def contains (i : Interval) (n d : Nat) : Bool :=
  let low := i.low * d
  let high := i.high * d
  let x := n * i.scale
  if i.closed then low ≤ x ∧ x ≤ high else low < x ∧ x < high

/-- The least `k` with `value / scale < 10 ^ k`, for a positive value. -/
def magnitude (i : Interval) : Int :=
  if i.scale ≤ i.value then digitCount (i.value / i.scale)
  else go 400 0 i.value
where
  go : Nat → Nat → Nat → Int
    | 0, k, _ => -k
    | fuel + 1, k, v => if i.scale ≤ v * 10 then -k else go fuel (k + 1) (v * 10)

/-- The multiple of `10 ^ step` in the interval that is the nearest to the value, or the even one of two. -/
def onGrid? (i : Interval) (step : Int) : Option Scientific :=
  let up := Nat.pow 10 step.toNat
  let down := Nat.pow 10 (-step).toNat
  -- the value in units of the grid is `value * down / (scale * up)`
  let num := i.value * down
  let den := i.scale * up
  let below := num / den
  let above := below + 1
  let hasBelow := below ≠ 0 && i.contains (below * up) down
  let hasAbove := i.contains (above * up) down
  let twice := 2 * (num % den)
  match hasBelow, hasAbove with
  | true, true =>
    if twice < den ∨ (twice = den ∧ below % 2 = 0) then some ⟨below, step⟩ else some ⟨above, step⟩
  | true, false => some ⟨below, step⟩
  | false, true => some ⟨above, step⟩
  | false, false => none

/-- The shortest decimal in the interval, the nearest to the value among those. -/
def shortest (i : Interval) : Scientific :=
  let k := i.magnitude
  let grids := (List.range 17).filterMap fun (n : Nat) => i.onGrid? (k - (n + 1 : Nat))
  match grids with
  | s :: _ => s.trim
  | [] => ⟨i.value / i.scale, 0⟩

end Interval

/-- At least `fraction` digits after the point, and positional notation from `10 ^ lo` to below `10 ^ hi`
if `positional` is `some (lo, hi)`. -/
structure Layout where
  fraction : Nat
  positional : Option (Int × Int)

namespace Layout

def plain (layout : Layout) (s : Scientific) : String :=
  let digits := Nat.toDigits 10 s.digits
  let whole : List Char :=
    if 0 ≤ s.exponent then digits ++ List.replicate s.exponent.toNat '0'
    else
      let n := digits.length - (-s.exponent).toNat
      if n = 0 then ['0'] else digits.take n
  let tail : List Char :=
    if 0 ≤ s.exponent then []
    else
      let e := (-s.exponent).toNat
      List.replicate (e - digits.length) '0' ++ digits.drop (digits.length - e)
  let tail := tail ++ List.replicate (layout.fraction - tail.length) '0'
  String.ofList (whole ++ if tail.isEmpty then [] else '.' :: tail)

/-- One digit before the point, the others after it, and the exponent. -/
def scientific (s : Scientific) : String :=
  let digits := Nat.toDigits 10 s.digits
  let exponent := s.exponent + digits.length - 1
  let mantissa :=
    match digits with
    | [] => []
    | [d] => [d]
    | d :: rest => d :: '.' :: rest
  String.ofList mantissa ++ "e" ++ toString exponent

def format (layout : Layout) (s : Scientific) : String :=
  match layout.positional with
  | none => layout.plain s
  | some (lo, hi) =>
    let k := s.exponent + (digitCount s.digits : Int)
    if lo < k ∧ k ≤ hi then layout.plain s else scientific s

end Layout

end NativeCall.Decimal
