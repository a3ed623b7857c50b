import NativeCall.Text.Reader

/-!
This module contains the text of a complaint about a part of a document, which shows the line that the
part starts on.
-/

namespace NativeCall.Toml

open Text (Span)

/-- How many line ends stand before the byte `offset`, and how many characters behind the last of
them. -/
def position (offset : Nat) (document : List Char) : Nat × Nat :=
  go 0 (0, 0) document
where
  go (passed : Nat) (found : Nat × Nat) : List Char → Nat × Nat
    | [] => found
    | c :: rest =>
      if offset ≤ passed then found
      else
        let found := if c == '\n' then (found.1 + 1, 0) else (found.1, found.2 + 1)
        go (passed + c.utf8Size) found rest

/-- What is wrong with a part of a document, under the line that it starts on. -/
def complaint (span : Span) (document message : String) : String :=
  let (line, column) := position span.start document.toList
  let content := (document.splitOn "\n").getD line ""
  let number := toString (line + 1)
  let width := min (span.stop - span.start) (content.utf8ByteSize - column)
  let blank (n : Nat) : String := String.ofList (List.replicate n ' ')
  let margin := blank (number.length + 1) ++ "|"
  let marks := String.ofList (List.replicate (max 1 width) '^')
  s!"TOML parse error at line {number}, column {column + 1}\n{margin}\n" ++
    s!"{number} | {content}\n{margin}" ++ blank (column + 1) ++ s!"{marks}\n{message}\n"

end NativeCall.Toml
