import NativeCall.Proofs.Running

/-!
This module contains the platform that keeps a trace: what a call asks of the system and of the host,
with the answers, and what it tells the host.
-/

namespace NativeCall

/-- One dealing of a call with the world around it. -/
inductive Event where
  /-- The system answered a request that it was asked on this memory, and left this register. -/
  | request {reply : Reply} (p : Primitive reply) (memory : Memory) (answer : reply.Value)
      (register : Errno)
  | directory (answer : String)
  | constant (name : String) (answer : Option Int32)
  | notice (path : String)

namespace Event

def isRequest : Event → Bool
  | request .. => true
  | _ => false

/-- The event changes nothing: the host was asked, or the system was asked for the groups. -/
def isQuery : Event → Bool
  | request (.getgroups _) .. => true
  | directory .. => true
  | constant .. => true
  | _ => false

end Event

/-- The state of an operating system together with the trace of the calls made on it. -/
structure Traced (κ : Type) where
  os : κ
  events : List Event

variable {κ η α : Type}

/-- The world as those see it who know nothing of the trace. -/
def World.untraced (w : World (Traced κ) η) : World κ η :=
  { w with os := w.os.os }

def World.traced (w : World κ η) (events : List Event) : World (Traced κ) η :=
  { w with os := ⟨w.os, events⟩ }

def Kernel.traced (kernel : Kernel κ) : Kernel (Traced κ) where
  run p := fun m =>
    let (answer, after) := kernel.run p { m with os := m.os.os }
    (answer, { after with
      os := ⟨after.os, m.os.events ++ [.request p m.memory answer after.errno]⟩ })
  workingDirectory s := kernel.workingDirectory s.os
  canonicalize s := kernel.canonicalize s.os
  readFile s := kernel.readFile s.os

/-- An action of the host, of which the trace gets one event. -/
def Action.traced (x : Action κ η α) (event : α → Event) : Action (Traced κ) η α :=
  fun w =>
    let (a, after) := x w.untraced
    (a, after.traced (w.os.events ++ [event a]))

def Host.traced (host : Host κ η) : Host (Traced κ) η where
  currentDirectory := Action.traced host.currentDirectory .directory
  setCurrentDirectory path := Action.traced (host.setCurrentDirectory path) fun _ => .notice path
  socketConstant name := Action.traced (host.socketConstant name) (.constant name)

def Platform.traced (platform : Platform κ η) : Platform (Traced κ) η where
  kernel := platform.kernel.traced
  host := platform.host.traced
  logger := platform.logger

theorem Platform.traced_run_events (platform : Platform κ η) {reply : Reply} (p : Primitive reply)
    (w : World (Traced κ) η)
    : (platform.traced.run p w).2.os.events = w.os.events ++
        [.request p w.memory (platform.traced.run p w).1 (platform.traced.run p w).2.errno] := by
  rfl

end NativeCall
