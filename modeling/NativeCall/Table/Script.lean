import NativeCall.Accessor
import NativeCall.Host.Reentrant

/-!
This module contains tables of operations whose paths follow scripts.
-/

namespace NativeCall

/-- What a scripted path does once it has set the error register. -/
inductive ScriptStep where
  | finish (outcome : Outcome)
  | redispatchSame
  | unsupported
  | misuse (reason : String)
  | fail (error : CallError)
  | get (accessor : Accessor) (index : Nat)
  /-- Make a call from inside the call, and give the text of its result. -/
  | nested (request : CallRequest)
  | span
  | directory
deriving Repr

/-- A scripted path: what to set the error register to, if anything, and what to do then. -/
structure Script where
  errno : Option Errno
  step : ScriptStep
deriving Repr

namespace Script

variable {κ η : Type}

def path (script : Script) (site : String) : CallPath κ η :=
  fun platform inv => do
    if let some e := script.errno then
      modify fun w => { w with errno := e }
    match script.step with
    | .finish outcome => return outcome
    | .redispatchSame => return .redispatch inv.args
    | .unsupported => throw inv.unsupported
    | .misuse reason => throw (inv.misuse reason)
    | .fail e => throw e
    | .get accessor index => return .value (.ok (← accessor.read inv index))
    | .nested request =>
      let result ← ExceptT.lift (request.run platform.kernel platform.logger site)
      return .value (.ok (.str (CallRequest.describe result)))
    | .span => return .value (.ok (Variant.ofOption .str (← get).span))
    | .directory => CallPath.hostDirectory platform inv

def hookErrno : Errno := ⟨77⟩

/-- A hook that disturbs the register and tells the host how it was called: the number of arguments
and the open span. -/
def hook : SuccessHook κ η :=
  fun platform args => do
    Action.setErrno hookErrno
    let span := (← Span.active).getD "no span"
    platform.host.setCurrentDirectory s!"hook {args.length} {span}"

end Script

structure ScriptedOperation where
  name : String
  arity : Nat
  policy : Policy
  arms : List (Arm Script)
  hooked : Bool

def ScriptedOperation.toOperation {κ η : Type} (s : ScriptedOperation) (site : String) :
    Operation κ η where
  name := s.name
  arity := s.arity
  policy := s.policy
  arms := s.arms.map fun arm => ⟨arm.guard, arm.path.path site⟩
  onSuccess := if s.hooked then some Script.hook else none

end NativeCall
