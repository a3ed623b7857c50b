import NativeCall.Host.Tracking
import NativeCall.Probe.Argument
import NativeCall.Registry

/-!
This module contains a probe: one call of an operation with arguments from a command line, and the
lines that show what came of it.
-/

namespace NativeCall.Probe

inductive Ready where
  | value (value : Variant)
  | buffer (buffer : Buffer)
deriving DecidableEq, Repr

/-- What the operation gets for an argument: of a buffer, a pointer to it. -/
def Ready.variant : Ready → Variant
  | value v => v
  | buffer b => .pointer b.pointer

inductive ProbeError where
  | argument (error : ArgumentError)
  | buffer (fault : BufferFault)
  | call (operation : String) (arguments : List String) (error : CallError)
deriving DecidableEq, Repr

def ProbeError.message : ProbeError → String
  | argument e => e.message
  | buffer fault => fault.message
  | call operation arguments e =>
    let shown := ", ".intercalate arguments
    s!"{operation}({shown}): {e.message}"

variable {κ η : Type}

/-- Make an argument ready: allocate the buffer that it stands for. -/
def Argument.prepare (argument : Argument) : Action κ η (Except ProbeError Ready) := fun w =>
  match argument with
  | .value v => (.ok (.value v), w)
  | .buffer size =>
    match Buffer.zeroed size w.memory with
    | .error fault => (.error (.buffer fault), w)
    | .ok (b, memory) => (.ok (.buffer b), { w with memory := memory })

def prepare (overflow : Overflow) : List String → Action κ η (Except ProbeError (List Ready))
  | [] => return .ok []
  | text :: rest => do
    match Argument.parse overflow text with
    | .error e => return .error (.argument e)
    | .ok argument =>
      match ← argument.prepare with
      | .error e => return .error e
      | .ok first =>
        match ← prepare overflow rest with
        | .error e => return .error e
        | .ok others => return .ok (first :: others)

/-- The lines that show the buffers among the arguments from position `index` on, with the bytes that
they have in `memory`. -/
def showBuffers (memory : Memory) (index : Nat) : List Ready → List String
  | [] => []
  | .value _ :: rest => showBuffers memory (index + 1) rest
  | .buffer b :: rest =>
    let bytes := Text.hexBytes (b.toList memory)
    s!"  arg {index}: {bytes}" :: showBuffers memory (index + 1) rest

/-- Call an operation with arguments as they are written on a command line, on a host that starts in
the working directory of the process. Gives the lines that show the result and the buffers. -/
def call (registry : Registry κ TrackedDirectory) (platform : Platform κ TrackedDirectory)
    (overflow : Overflow) (site operation : String) (arguments : List String) :
    Action κ TrackedDirectory (Except ProbeError (List String)) := do
  match ← prepare overflow arguments with
  | .error e => return .error e
  | .ok ready =>
    let directory ← TrackedDirectory.current platform.kernel platform.logger
    modify fun w => { w with host := directory }
    match ← registry.call platform site operation (ready.map Ready.variant) with
    | .error e => return .error (.call operation arguments e)
    | .ok result => return .ok (result.display :: showBuffers (← get).memory 0 ready)

end NativeCall.Probe
