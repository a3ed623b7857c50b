/-!
This module contains readers: computations that take characters off the front of a text and keep track
of where in it they are. Places are counted in bytes.
-/

namespace NativeCall.Text

/-- A part of a text: its first byte, and the first byte behind it. -/
structure Span where
  start : Nat
  stop : Nat
deriving DecidableEq, Repr

/-- What is left of a text, and where it starts. -/
structure Cursor where
  rest : List Char
  offset : Nat

/-- Takes something off the front of what is left, or finds that it is not there. -/
abbrev Reader := StateT Cursor Option

namespace Reader

variable {α β : Type}

/-- Take the characters off the front for which `p` holds. -/
def takeWhile (p : Char → Bool) : Reader (List Char) := do
  let c ← get
  let taken := c.rest.takeWhile p
  let offset := taken.foldl (fun offset char => offset + char.utf8Size) c.offset
  set (⟨c.rest.dropWhile p, offset⟩ : Cursor)
  return taken

/-- Take as many characters off the front for which `p` holds, at least one. -/
def takeSome (p : Char → Bool) : Reader (List Char) := do
  let taken ← takeWhile p
  if taken.isEmpty then failure
  return taken

def satisfy (p : Char → Bool) : Reader Char := do
  match (← get) with
  | ⟨c :: rest, offset⟩ =>
    if p c then
      set (⟨rest, offset + c.utf8Size⟩ : Cursor)
      return c
    else failure
  | ⟨[], _⟩ => failure

def char (c : Char) : Reader Unit := do
  let _ ← satisfy (· == c)

def text (s : String) : Reader Unit :=
  s.toList.forM char

def peek : Reader Char := do
  match (← get).rest with
  | c :: _ => return c
  | [] => failure

def atEnd : Reader Unit := do
  unless (← get).rest.isEmpty do failure

def ahead (x : Reader α) : Reader Unit := do
  let c ← get
  let _ ← x
  set c

/-- Take something as long as it is there. Something that takes no characters is taken once for each
character that is left. -/
def many (x : Reader α) : Reader (List α) := do
  go ((← get).rest.length)
where
  go : Nat → Reader (List α)
    | 0 => return []
    | n + 1 => do
      match ← optional x with
      | some a => return a :: (← go n)
      | none => return []

/-- Take something at least once and as long as it is there with separators in between. -/
def separated (separator : Reader β) (x : Reader α) : Reader (List α) := do
  let first ← x
  let others ← many do
    let _ ← separator
    x
  return first :: others

def spanned (x : Reader α) : Reader (α × Span) := do
  let start := (← get).offset
  let a ← x
  return (a, ⟨start, (← get).offset⟩)

def times (n : Nat) (x : Reader α) : Reader (List α) :=
  match n with
  | 0 => return []
  | n + 1 => do return (← x) :: (← times n x)

def run (x : Reader α) (text : String) : Option α :=
  (do let a ← x; atEnd; return a : Reader α).run' ⟨text.toList, 0⟩

end Reader

end NativeCall.Text
