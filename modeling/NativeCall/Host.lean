import NativeCall.Span

/-!
This module contains hosts, the runtimes that embed the operations: what a call may ask of its host,
and the platform that a call is made on.
-/

namespace NativeCall

/-- What a call asks of the runtime around it. Queries may run inside a span. -/
structure Host (κ η : Type) where
  currentDirectory : Action κ η String
  /-- Take notice of a change of directory to `path`, worded as the caller did. -/
  setCurrentDirectory : (path : String) → Action κ η Unit
  socketConstant : (name : String) → Action κ η (Option Int32)

/-- What calls are made on: an operating system, a host and a logger. -/
structure Platform (κ η : Type) where
  kernel : Kernel κ
  host : Host κ η
  logger : Logger

namespace Platform

variable {κ η α : Type}

def run (platform : Platform κ η) {reply : Reply} (p : Primitive reply) :
    Action κ η reply.Value :=
  Action.run platform.kernel p

def note (platform : Platform κ η) (level : LogLevel) (text : String) : Action κ η Unit :=
  Action.logLine platform.logger ⟨level, .registry, text⟩

def noteMisuse (platform : Platform κ η) (e : CallError) : Action κ η Unit :=
  platform.note .error s!"binding misuse: {e.message}"

def noteUnsupported (platform : Platform κ η) (op : String) : Action κ η Unit :=
  platform.note .warn s!"{op}: not supported"

def refuse (platform : Platform κ η) (e : CallError) : Action κ η (Except CallError α) := do
  platform.noteMisuse e
  return .error e

end Platform

end NativeCall
