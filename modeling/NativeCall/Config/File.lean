import NativeCall.Config.Document
import NativeCall.Machine
import NativeCall.Text.Utf8

/-!
This module contains the reading of a configuration from a file.
-/

namespace NativeCall

inductive FileFault where
  /-- The path contains a zero, which no file's path does. -/
  | zeroInPath
  | refused (errno : Errno)
  | noText
deriving DecidableEq, Repr

def FileFault.message : FileFault → String
  | zeroInPath => "file name contained an unexpected NUL byte"
  | refused e => e.osText
  | noText => "stream did not contain valid UTF-8"

inductive ConfigFileError where
  | unread (path : String) (fault : FileFault)
  /-- The file has been read, and this is its text. -/
  | unusable (path text : String) (error : ConfigError)

namespace ConfigFileError

def context : ConfigFileError → String
  | unread path _ => s!"read config {Text.quotePath path}"
  | unusable path _ _ => s!"parse config {Text.quotePath path}"

/-- What was being done to the file, and what is wrong. -/
def report (e : ConfigFileError) : String :=
  match e with
  | unread _ fault => s!"{e.context}: {fault.message}"
  | unusable _ text error => s!"{e.context}: {error.report text}"

end ConfigFileError

variable {κ : Type}

def Kernel.readText (kernel : Kernel κ) (os : κ) (path : String) : Except FileFault String :=
  if path.toList.contains '\x00' then .error .zeroInPath
  else
    match kernel.readFile os (Text.encode path) with
    | .error e => .error (.refused e)
    | .ok bytes =>
      match String.fromUTF8? ⟨bytes.toArray⟩ with
      | some text => .ok text
      | none => .error .noText

def BindingConfig.load (kernel : Kernel κ) (os : κ) (path : String) :
    Except ConfigFileError BindingConfig :=
  match kernel.readText os path with
  | .error fault => .error (.unread path fault)
  | .ok text =>
    match parse .toml text with
    | .error e => .error (.unusable path text e)
    | .ok config => .ok config

end NativeCall
