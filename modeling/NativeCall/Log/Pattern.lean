import NativeCall.Text.Reader

/-!
This module contains the patterns that select log lines by their text: characters, sets of characters,
groups, choices, repetitions and the two ends of the text.
-/

namespace NativeCall

inductive Pattern where
  | empty
  /-- A character in one of the ranges, or in none of them if `negated`. -/
  | oneOf (negated : Bool) (ranges : List (Char × Char))
  | both (first second : Pattern)
  | either (left right : Pattern)
  | anyTimes (part : Pattern)
  | start
  | stop
deriving DecidableEq, Repr

namespace Pattern

def exactly (c : Char) : Pattern :=
  oneOf false [(c, c)]

def anyChar : Pattern :=
  oneOf true [('\n', '\n')]

def contains (negated : Bool) (ranges : List (Char × Char)) (c : Char) : Bool :=
  ranges.any (fun (low, high) => low ≤ c && c ≤ high) != negated

/-- All places that can be reached from `places` by repeated steps, in at most `fuel` rounds. -/
def closure (step : Nat → List Nat) : Nat → List Nat → List Nat
  | 0, places => places
  | fuel + 1, places =>
    let new := (places.flatMap step).filter (!places.contains ·)
    if new.isEmpty then places else closure step fuel (places ++ new.eraseDups)

/-- Where a part of the text that starts at `place` and fits the pattern can end. -/
def ends (text : Array Char) : Pattern → Nat → List Nat
  | empty, place => [place]
  | oneOf negated ranges, place =>
    match text[place]? with
    | some c => if contains negated ranges c then [place + 1] else []
    | none => []
  | both first second, place => (ends text first place).flatMap fun middle => ends text second middle
  | either left right, place => ends text left place ++ ends text right place
  | anyTimes part, place => closure (fun place => ends text part place) (text.size + 1) [place]
  | start, place => if place = 0 then [place] else []
  | stop, place => if place = text.size then [place] else []

def isIn (pattern : Pattern) (text : String) : Bool :=
  let chars := text.toList.toArray
  (List.range (chars.size + 1)).any fun place => !(pattern.ends chars place).isEmpty

/-! ### Reading patterns -/

open Text Reader

def special : List Char :=
  ['\\', '.', '+', '*', '?', '(', ')', '|', '[', '\x7b', '^', '$']

def escaped : Reader (Bool × List (Char × Char)) := do
  char '\\'
  let word := [('a', 'z'), ('A', 'Z'), ('0', '9'), ('_', '_')]
  let space := [('\t', '\r'), (' ', ' ')]
  match ← satisfy fun _ => true with
  | 'd' => return (false, [('0', '9')])
  | 'D' => return (true, [('0', '9')])
  | 'w' => return (false, word)
  | 'W' => return (true, word)
  | 's' => return (false, space)
  | 'S' => return (true, space)
  | 'n' => return (false, [('\n', '\n')])
  | 't' => return (false, [('\t', '\t')])
  | c => if c.isAlphanum then failure else return (false, [(c, c)])

/-- A character in a set between square brackets, on its own or as the start of a range. -/
def range : Reader (List (Char × Char)) :=
  (do
    match ← escaped with
    | (false, ranges) => return ranges
    | (true, _) => failure) <|> do
    let plain := satisfy fun c => c != '\\' && c != ']' && c != '['
    let low ← plain
    match ← optional (do char '-'; plain) with
    | some high => if low ≤ high then return [(low, high)] else failure
    | none => return [(low, low)]

def set : Reader Pattern := do
  char '['
  let negated := (← optional (char '^')).isSome
  let bracket ← optional (char ']')
  let ranges ← many range
  char ']'
  let ranges := (if bracket.isSome then [(']', ']')] else []) ++ ranges.flatten
  if ranges.isEmpty then failure
  return oneOf negated ranges

/-- A part that can be repeated, where a group contains an `inner` pattern. -/
def atom (inner : Reader Pattern) : Reader Pattern :=
  (do
    char '('
    let _ ← optional (text "?:")
    let p ← inner
    char ')'
    return p)
    <|> set
    <|> (do char '.'; return anyChar)
    <|> (do char '^'; return start)
    <|> (do char '$'; return stop)
    <|> (do let (negated, ranges) ← escaped; return oneOf negated ranges)
    <|> (do return exactly (← satisfy fun c => !special.contains c))

def repeated (inner : Reader Pattern) : Reader Pattern := do
  let part ← atom inner
  let marks ← many do
    let mark ← satisfy fun c => ['*', '+', '?'].contains c
    -- how much of the text a repetition takes makes no difference
    let _ ← optional (char '?')
    return mark
  return marks.foldl apply part
where
  apply (part : Pattern) (mark : Char) : Pattern :=
    if mark == '*' then anyTimes part
    else if mark == '+' then both part (anyTimes part)
    else either part empty

def grammar (depth : Nat) : Reader Pattern := do
  let inner : Reader Pattern :=
    match depth with
    | 0 => failure
    | depth + 1 => grammar depth
  let choices ← separated (char '|') (many (repeated inner))
  let row (parts : List Pattern) : Pattern := parts.foldr both empty
  match choices.map row with
  | [] => return empty
  | first :: rest => return rest.foldl either first

def parse? (text : String) : Option Pattern :=
  (grammar text.length).run text

end Pattern

end NativeCall
