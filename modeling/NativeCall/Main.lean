import NativeCall.Posix.Kernel
import NativeCall.Probe.Run

/-!
This module contains the probe as a program that can be started. It acts on the in-memory system, in
which it finds the configuration that the command line names.
-/

namespace NativeCall

/-- The system with a file that holds these bytes, and with the directories that lead to it. -/
def Posix.withFile (s : Posix) (path : Path) (data : List UInt8) : Posix :=
  let leading (count : Nat) : Path :=
    let joined := Path.ofNames (path.names.take count)
    if path.isAbsolute then joined else joined.drop 1
  let addDirectory (s : Posix) (count : Nat) : Posix :=
    (s.mkdir (leading count) 0o755).toOption.getD s
  let s := ((List.range path.names.length).drop 1).foldl addDirectory s
  (s.writeFile path data).toOption.getD s

def readBytes (path : String) : IO (Option (List UInt8)) :=
  try
    return some (← IO.FS.readBinFile path).toList
  catch _ =>
    return none

def systemFor (words : List String) : IO Posix := do
  match Probe.Options.parse words with
  | .ok { config := some path, .. } =>
    match ← readBytes path with
    | some data => return Posix.initial.withFile (Text.encode path) data
    | none => return Posix.initial
  | _ => return Posix.initial

end NativeCall

open NativeCall in
def main (words : List String) : IO UInt32 := do
  let machine : Machine Posix := ⟨Memory.fresh, ⟨0⟩, ← systemFor words⟩
  let setting : Probe.Setting := ⟨.wraps, ← IO.getEnv "RUST_LOG", "posix-call"⟩
  let report := Probe.run Posix.kernel setting machine words
  let output ← IO.getStdout
  let errors ← IO.getStderr
  report.errors.forM errors.putStrLn
  report.output.forM output.putStrLn
  return report.status
