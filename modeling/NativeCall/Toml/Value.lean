import NativeCall.Toml.Date
import NativeCall.Toml.Edit
import NativeCall.Toml.Number
import NativeCall.Toml.Quoted

/-!
This module contains the reading of keys and values.
-/

namespace NativeCall.Toml.Grammar

open Text Reader

/-- A character that may stand in a key without quotes. -/
def isBare (c : Char) : Bool :=
  c.isAlphanum || c == '-' || c == '_'

def key : Reader Key := do
  let (name, span) ← spanned (basicText <|> literalText <|> takeSome isBare)
  return ⟨String.ofList name, span⟩

/-- One more than the number of keys that may lead somewhere, and than the number of values that may
enclose a value. -/
def depthLimit : Nat := 80

def keyPath : Reader KeyPath := do
  let keys ← separated (char '.') (do blanks; let k ← key; blanks; return k)
  if depthLimit ≤ keys.length then failure
  match keys.getLast? with
  | some last => return ⟨keys.dropLast, last⟩
  | none => failure

def scalar : Reader (Span → Node) :=
  Node.string <$> quoted
    <|> (do date; return .date)
    <|> Node.float <$> float
    <|> Node.integer <$> integer
    <|> (do text "true"; return .boolean true)
    <|> (do text "false"; return .boolean false)

/-- Values between square brackets, over any number of lines. A comma may stand behind the last. -/
def array (value : Reader Node) : Reader (Span → Node) := do
  char '['
  let items ← optional do
    let items ← separated (char ',') (do blankLines; let v ← value; blankLines; return v)
    let _ ← optional (char ',')
    return items
  blankLines
  char ']'
  return .array (items.getD [])

/-- Keys and their values between braces, on one line but for the values. -/
def inlineTable (value : Reader Node) : Reader (Span → Node) := do
  char '\x7b'
  let pairs ← optional <| separated (char ',') do
    let path ← keyPath
    char '='
    blanks
    let v ← value
    blanks
    return (path, v)
  blanks
  char '\x7d'
  match ((pairs.getD []).forM fun (path, v) => Edit.assign path v).run [] with
  | some ((), entries) => return fun span => .table .inline entries span
  | none => failure

/-- A value, enclosed by at most `depth` others behind this point. -/
def valueWithin (depth : Nat) : Reader Node := do
  let (make, span) ← spanned <|
    match depth with
    | 0 => scalar
    | depth + 1 => scalar <|> array (valueWithin depth) <|> inlineTable (valueWithin depth)
  return make span

def value : Reader Node :=
  valueWithin (depthLimit - 1)

end NativeCall.Toml.Grammar
