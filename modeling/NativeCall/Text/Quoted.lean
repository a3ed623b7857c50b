import NativeCall.Text.Hex
import NativeCall.Text.Printable

/-!
This module contains quoted text: a string between double quotes in which every character that
could be misread is written as an escape.
-/

namespace NativeCall.Text

def escapeCode (c : Char) : List Char :=
  '\\' :: 'u' :: '\x7b' :: (Nat.toDigits 16 c.toNat ++ ['\x7d'])

/-- Characters that are invisible or attach to their predecessor are escaped by number. -/
def escapeChar (c : Char) : List Char :=
  match c with
  | '\x00' => ['\\', '0']
  | '\t' => ['\\', 't']
  | '\r' => ['\\', 'r']
  | '\n' => ['\\', 'n']
  | '\\' => ['\\', '\\']
  | '"' => ['\\', '"']
  | c => if isAttaching c || isInvisible c then escapeCode c else [c]

def quote (text : String) : String :=
  String.ofList ('"' :: (text.toList.flatMap escapeChar ++ ['"']))

/-- The text of a path between double quotes, escaped; single quotes are escaped as well. -/
def quotePath (path : String) : String :=
  let escape (c : Char) : List Char := if c == '\'' then ['\\', '\''] else escapeChar c
  String.ofList ('"' :: (path.toList.flatMap escape ++ ['"']))

end NativeCall.Text
