import NativeCall.Host
import NativeCall.SocketConstant

/-!
This module contains the host that answers from a script and records what it is told.
-/

namespace NativeCall

/-- What a recording host answers, and the changes of directory that it has been told of. -/
structure Recording where
  directory : String
  /-- The socket constants that the host knows, if they are not the usual ones. -/
  constants : Option (List (String × Int32))
  changes : List String
deriving DecidableEq, Repr

namespace Recording

def constant? (r : Recording) (name : String) : Option Int32 :=
  match r.constants with
  | some table => table.lookup name
  | none => SocketConstant.find? name

def record (r : Recording) (path : String) : Recording :=
  { r with changes := r.changes ++ [path] }

end Recording

def Host.recording {κ : Type} : Host κ Recording where
  currentDirectory := do return (← get).host.directory
  setCurrentDirectory path := modify fun w => { w with host := w.host.record path }
  socketConstant name := do return (← get).host.constant? name

end NativeCall
