import NativeCall.CallError
import NativeCall.Log
import NativeCall.Machine

/-!
This module contains the state that a call works on, and the effects of which calls are made: native
requests, log lines, the error register, and the span that marks a thread as inside a native call.
-/

namespace NativeCall

/-- What one thread sees: the machine, the operation whose native call it is inside of, the lines
logged so far, and the state `η` of the host. -/
structure World (κ η : Type) extends Machine κ where
  span : Option String
  log : Array LogLine
  host : η

abbrev Action (κ η : Type) := StateM (World κ η)

abbrev Call (κ η : Type) := ExceptT CallError (Action κ η)

namespace Action

variable {κ η θ α : Type}

def errno : Action κ η Errno :=
  return (← get).errno

def setErrno (e : Errno) : Action κ η Unit :=
  modify fun w => { w with errno := e }

def run (kernel : Kernel κ) {reply : Reply} (p : Primitive reply) : Action κ η reply.Value :=
  fun w =>
    let (value, machine) := kernel.run p w.toMachine
    (value, { w with toMachine := machine })

/-- Write a line to the log, which may disturb the error register. -/
def logLine (logger : Logger) (line : LogLine) : Action κ η Unit :=
  modify fun w => { w with log := w.log.push line, errno := logger w.log line w.errno }

/-- Run a computation whose host is another one, in the state `host`. Gives its result and the state
in which it leaves that host. -/
def withHost (host : θ) (x : Action κ θ α) : Action κ η (α × θ) :=
  fun w =>
    let (value, inner) := x { w with host := host }
    ((value, inner.host), { inner with host := w.host })

/-- Run a computation on a thread of its own, which starts with an empty register and outside every
native call. Gives its result and the register in which it leaves that thread. -/
def onNewThread (x : Action κ η α) : Action κ η (α × Errno) :=
  fun w =>
    let (value, inner) := x { w with errno := ⟨0⟩, span := none }
    ((value, inner.errno), { inner with errno := w.errno, span := w.span })

end Action

end NativeCall
