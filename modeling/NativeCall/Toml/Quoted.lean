import NativeCall.Text.Hex
import NativeCall.Toml.Blank

/-!
This module contains quoted text, in one line or over several, with escapes between double quotes and
without between single ones.
-/

namespace NativeCall.Toml.Grammar

open Text Reader

def isBasic (c : Char) : Bool :=
  isComment c && c != '"' && c != '\\'

def isLiteral (c : Char) : Bool :=
  isComment c && c != '\''

def hexDigit : Reader Nat := do
  let c ← satisfy fun c => (Text.digitValue 16 c).isSome
  return (Text.digitValue 16 c).getD 0

def codePoint (n : Nat) : Reader Char := do
  let code := (← times n hexDigit).foldl (· * 16 + ·) 0
  if code.isValidChar then return Char.ofNat code else failure

/-- A backslash and what it makes of the characters behind it. -/
def escape : Reader Char := do
  char '\\'
  match ← satisfy fun _ => true with
  | 'b' => return '\x08'
  | 't' => return '\t'
  | 'n' => return '\n'
  | 'f' => return '\x0c'
  | 'r' => return '\r'
  | '"' => return '"'
  | '\\' => return '\\'
  | 'u' => codePoint 4
  | 'U' => codePoint 8
  | _ => failure

def basicText : Reader (List Char) := do
  char '"'
  let parts ← many (takeSome isBasic <|> List.singleton <$> escape)
  char '"'
  return parts.flatten

def literalText : Reader (List Char) := do
  char '\''
  let s ← takeWhile isLiteral
  char '\''
  return s

/-- A backslash at the end of a line, with the blanks and line ends behind it: nothing at all. -/
def joinedLines : Reader Unit := do
  char '\\'
  blanks
  lineEnd
  let _ ← many (lineEnd <|> (do let _ ← satisfy isBlank))

/-- One or two of the quotes that enclose a text over several lines, before something else. -/
def loneQuotes (quote : Char) : Reader (List Char) := do
  let quotes ← takeWhile (· == quote)
  let next ← peek
  if next == quote || quotes.isEmpty || 2 < quotes.length then failure
  return quotes

/-- The closing quotes of a text over several lines, with up to two that belong to the text. -/
def closingQuotes (quote : Char) : Reader (List Char) := do
  let quotes ← takeWhile (· == quote)
  if quotes.length < 3 || 5 < quotes.length then failure
  return quotes.drop 3

/-- Text between three quotes on each side, over any number of lines. The line end right behind the
opening quotes does not belong to it. -/
def longText (quote : Char) (part : Reader (List Char)) : Reader (List Char) := do
  let _ ← times 3 (char quote)
  let _ ← optional lineEnd
  let parts ← many (part <|> (do lineEnd; return ['\n']) <|> loneQuotes quote)
  return parts.flatten ++ (← closingQuotes quote)

def longBasicText : Reader (List Char) :=
  longText '"' <|
    takeSome isBasic <|> (do joinedLines; return []) <|> List.singleton <$> escape

def longLiteralText : Reader (List Char) :=
  longText '\'' (takeSome isLiteral)

def quoted : Reader String := do
  return String.ofList (← longBasicText <|> basicText <|> longLiteralText <|> literalText)

end NativeCall.Toml.Grammar
