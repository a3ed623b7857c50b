import NativeCall.Host.Recording
import NativeCall.Host.Reentrant

/-!
This module contains the runtimes that calls can be embedded in, as one type of host.
-/

namespace NativeCall

inductive Embedding where
  | tracking (directory : TrackedDirectory)
  | recording (recording : Recording)
  | reentrant (request : CallRequest)
deriving DecidableEq, Repr

def Host.embedding {κ : Type} (kernel : Kernel κ) (logger : Logger) (site : String) :
    Host κ Embedding where
  currentDirectory := delegate fun host => host.currentDirectory
  setCurrentDirectory path := delegate fun host => host.setCurrentDirectory path
  socketConstant name := delegate fun host => host.socketConstant name
where
  /-- Run a query or a notice on the host that the runtime is. -/
  delegate {α : Type} (use : {η : Type} → Host κ η → Action κ η α) : Action κ Embedding α := do
    match (← get).host with
    | .tracking directory =>
      let (a, directory) ← Action.withHost directory (use (Host.tracking kernel))
      modify fun w => { w with host := .tracking directory }
      return a
    | .recording recording =>
      let (a, recording) ← Action.withHost recording (use Host.recording)
      modify fun w => { w with host := .recording recording }
      return a
    | .reentrant request =>
      let (a, request) ← Action.withHost request (use (Host.reentrant kernel logger site))
      modify fun w => { w with host := .reentrant request }
      return a

end NativeCall
