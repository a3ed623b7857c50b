import NativeCall.Text.Reader

/-!
This module contains what stands between the parts of a document: blanks, comments and line ends.
-/

namespace NativeCall.Toml

def isBlank (c : Char) : Bool :=
  c == ' ' || c == '\t'

/-- A character that may stand in a comment: anything but control characters other than the tab. -/
def isComment (c : Char) : Bool :=
  c == '\t' || (' ' ≤ c && c != '\x7f')

namespace Grammar

open Text Reader

def blanks : Reader Unit := do
  let _ ← takeWhile isBlank

def lineEnd : Reader Unit :=
  char '\n' <|> text "\r\n"

def comment : Reader Unit := do
  char '#'
  let _ ← takeWhile isComment

def lineStop : Reader Unit :=
  lineEnd <|> atEnd

def trailing : Reader Unit := do
  blanks
  let _ ← optional comment
  lineStop

/-- Blanks, comments and line ends; a comment is not the last of them. -/
def blankLines : Reader Unit := do
  blanks
  let _ ← many do
    let _ ← optional comment
    lineEnd
    blanks

end Grammar

end NativeCall.Toml
