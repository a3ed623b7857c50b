import NativeCall.Host
import NativeCall.Path
import NativeCall.SocketConstant
import NativeCall.Text.Utf8

/-!
This module contains the host that keeps track of the working directory of the process.
-/

namespace NativeCall

structure TrackedDirectory where
  path : Path
deriving DecidableEq, Repr

namespace TrackedDirectory

def text (d : TrackedDirectory) : String :=
  Text.decodeLossy d.path

def ofText (text : String) : TrackedDirectory :=
  ⟨Text.encode text⟩

/-- The directory after a change to `path`. The system decides where that is; if it cannot say, the
path is looked up from the old directory, and if that leads nowhere it is kept as it is worded. -/
def changed {κ : Type} (kernel : Kernel κ) (os : κ) (d : TrackedDirectory) (path : String) :
    TrackedDirectory :=
  let joined := d.path.join (Text.encode path)
  match kernel.workingDirectory os with
  | .ok cwd => ⟨cwd⟩
  | .error _ =>
    match kernel.canonicalize os joined with
    | .ok canonical => ⟨canonical⟩
    | .error _ => ⟨joined⟩

def unavailable (e : Errno) : LogLine :=
  ⟨.warn, .host, s!"ProcessHost: current directory unavailable: {e.osText}"⟩

/-- The working directory of the process; the topmost directory if it is gone. -/
def current {κ η : Type} (kernel : Kernel κ) (logger : Logger) : Action κ η TrackedDirectory := do
  match kernel.workingDirectory (← get).os with
  | .ok cwd => return ⟨cwd⟩
  | .error e =>
    Action.logLine logger (unavailable e)
    return ⟨Path.root⟩

end TrackedDirectory

def Host.tracking {κ : Type} (kernel : Kernel κ) : Host κ TrackedDirectory where
  currentDirectory := do return (← get).host.text
  setCurrentDirectory path := modify fun w => { w with host := w.host.changed kernel w.os path }
  socketConstant name := return SocketConstant.find? name

end NativeCall
