import NativeCall.Machine
import NativeCall.Posix.Walk

/-!
This module contains the state of a system that keeps its files, descriptors, sockets and process
attributes in memory.
-/

namespace NativeCall

inductive SocketState where
  | idle
  | listening (backlog waiting : Nat)
  | connected (peer : List UInt8)
deriving DecidableEq, Repr

inductive SocketName where
  | unnamed
  /-- A file, and the bytes of its path with the zero that ends it. -/
  | file (node : Nat) (bytes : List UInt8)
  | abstract (bytes : List UInt8)
deriving DecidableEq, Repr

inductive SocketKind where
  | stream
  | datagram
  | packet
deriving DecidableEq, Repr

structure Socket where
  kind : SocketKind
  state : SocketState
  name : SocketName
  /-- The options that have been set, by number, with the bytes of their values. -/
  options : List (Nat × List UInt8)
deriving DecidableEq, Repr

inductive OpenObject where
  | file (node : Nat)
  | socket (socket : Socket)
  | stream
deriving DecidableEq, Repr

/-- An open file or socket. Descriptors that are copies of each other share it. -/
structure Description where
  object : OpenObject
  flags : UInt32
  mode : UInt32
deriving DecidableEq, Repr

structure Descriptor where
  description : Nat
  closeOnExec : Bool
deriving DecidableEq, Repr

structure FileLock where
  node : Nat
  description : Nat
  exclusive : Bool
deriving DecidableEq, Repr

structure Identity where
  pid : Int32
  parent : Int32
  processGroup : Int32
  /-- The process has a process group to itself and so cannot start a session. -/
  leader : Bool
  user : UInt32
  effectiveUser : UInt32
  group : UInt32
  effectiveGroup : UInt32
  groups : List UInt32
  niceness : Int32
deriving DecidableEq, Repr

structure Limit where
  soft : UInt64
  hard : UInt64
deriving DecidableEq, Repr

def Limit.infinity : UInt64 := 0xFFFFFFFFFFFFFFFF

structure Posix where
  files : FileTree
  cwd : Nat
  umask : UInt32
  descriptors : List (Nat × Descriptor)
  descriptions : List (Nat × Description)
  nextDescription : Nat
  locks : List FileLock
  environment : List (List UInt8 × List UInt8)
  environAddress : UInt64
  identity : Identity
  limits : List (Nat × Limit)
  hostName : List UInt8
  /-- The number in the next name that the system gives a socket of its own accord. -/
  nextAutoName : Nat
deriving Repr

namespace Posix

def permissionMask : UInt32 := 0o7777

def setGroupBit : UInt32 := 0o2000

def setUserBit : UInt32 := 0o4000

def groupExecuteBit : UInt32 := 0o010

def executeBits : UInt32 := 0o111

def newNode (content : FileContent) (mode : UInt32) : FileNode :=
  ⟨content, mode, 0, 0, 0, ⟨0, 0⟩, ⟨0, 0⟩⟩

def place (t : FileTree) (directory : Nat) (name : Path) (node : FileNode) : Nat × FileTree :=
  let (id, t) := t.add { node with links := 1 }
  (id, t.enter directory name id)

def initialFiles : FileTree :=
  let root : FileNode := { newNode (.directory 0 []) 0o755 with links := 1 }
  let t : FileTree := ⟨[(FileTree.rootId, root)], 1⟩
  let (_, t) := place t 0 [116, 109, 112] (newNode (.directory 0 []) 0o1777)
  let (dev, t) := place t 0 [100, 101, 118] (newNode (.directory 0 []) 0o755)
  (place t dev [110, 117, 108, 108] (newNode .device 0o666)).2

def resourceCount : Nat := 16

def descriptorResource : Nat := 7

def initialLimits : List (Nat × Limit) :=
  (List.range resourceCount).map fun n =>
    if n = descriptorResource then (n, ⟨1048576, 1048576⟩)
    else (n, ⟨Limit.infinity, Limit.infinity⟩)

def initial : Posix where
  files := initialFiles
  cwd := FileTree.rootId
  umask := 0o022
  descriptors := (List.range 3).map fun n => (n, ⟨n, false⟩)
  descriptions := (List.range 3).map fun n => (n, ⟨.stream, if n = 0 then 0 else 1, 0o600⟩)
  nextDescription := 3
  locks := []
  environment := [([80, 65, 84, 72], [47, 98, 105, 110])]
  environAddress := 0x7ffc00001000
  identity :=
    { pid := 4242, parent := 4241, processGroup := 4242, leader := true, user := 0,
      effectiveUser := 0, group := 0, effectiveGroup := 0, groups := [0], niceness := 0 }
  limits := initialLimits
  hostName := (List.range 12).map fun n => UInt8.ofNat (97 + n)
  nextAutoName := 0

end Posix

/-- What a request to the in-memory system does: it changes the machine and may fail. -/
abbrev Syscall (α : Type) := ExceptT Errno (StateM (Machine Posix)) α

namespace Syscall

def system : Syscall Posix :=
  return (← get).os

def setSystem (s : Posix) : Syscall Unit :=
  modify fun m => { m with os := s }

def readMemory (address : UInt64) (count : Nat) : Syscall (List UInt8) :=
  return (← get).memory.read address.toNat count

def writeMemory (address : UInt64) (data : List UInt8) : Syscall Unit :=
  modify fun m => { m with memory := m.memory.write address.toNat data }

def readNat (address : UInt64) (width : Nat) : Syscall Nat :=
  return ofLittleEndian (← readMemory address width)

def readInt64 (address : UInt64) : Syscall Int :=
  return (UInt64.ofNat (← readNat address 8)).toInt64.toInt

end Syscall

end NativeCall
