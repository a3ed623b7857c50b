import NativeCall.Memory.Store
import NativeCall.Primitive

/-!
This module contains what a native call can read and change, and the interface through which the
operating system answers requests.
-/

namespace NativeCall

/-- The state of a machine as one thread sees it; `κ` is the state of the operating system. -/
structure Machine (κ : Type) where
  memory : Memory
  errno : Errno
  os : κ

structure Kernel (κ : Type) where
  /-- Answer a request. A failing request leaves its code in the register. -/
  run : {reply : Reply} → Primitive reply → StateM (Machine κ) reply.Value
  /-- The path of the working directory, unless the directory is gone. -/
  workingDirectory : κ → Except Errno (List UInt8)
  /-- The absolute path without links to what a path leads to, if it leads anywhere. -/
  canonicalize : κ → List UInt8 → Except Errno (List UInt8)
  /-- The content of the file that a path leads to, if it can be read. -/
  readFile : κ → List UInt8 → Except Errno (List UInt8)

end NativeCall
