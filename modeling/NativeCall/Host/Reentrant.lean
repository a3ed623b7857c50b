import NativeCall.Host.Tracking
import NativeCall.Table.BuiltIn

/-!
This module contains calls that are made from inside other calls, and the host that makes one
whenever it is asked for the working directory.
-/

namespace NativeCall

structure CallRequest where
  op : String
  args : List Variant
deriving DecidableEq, Repr

namespace CallRequest

variable {κ η : Type}

/-- Make the call through a registry of every operation, on a host that starts at the topmost
directory. -/
def run (kernel : Kernel κ) (logger : Logger) (site : String) (request : CallRequest) :
    Action κ η (Except CallError Variant) := do
  let platform : Platform κ TrackedDirectory := ⟨kernel, Host.tracking kernel, logger⟩
  let registry : Registry κ TrackedDirectory := Registry.builtIn {}
  let (result, _) ← Action.withHost ⟨Path.root⟩
    (registry.call platform site request.op request.args)
  return result

def describe : Except CallError Variant → String
  | .ok v => s!"nested call returned {v.display}"
  | .error e => e.message

end CallRequest

/-- The host that makes a call of its own when it is asked for the working directory, and answers
with the text of the result. -/
def Host.reentrant {κ : Type} (kernel : Kernel κ) (logger : Logger) (site : String) :
    Host κ CallRequest where
  currentDirectory := do
    return CallRequest.describe (← (← get).host.run kernel logger site)
  setCurrentDirectory _ := return ()
  socketConstant name := return SocketConstant.find? name

end NativeCall
