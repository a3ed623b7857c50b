import NativeCall.CallPath

/-!
This module contains the decoding of calls on files, given by path or by descriptor.
-/

namespace NativeCall.Request

variable (inv : Invocation)

def access : Except CallError Plan :=
  return .status (.access (← inv.cString 0) (← inv.cInt 1))

def chmod : Except CallError Plan :=
  return .status (.chmod (← inv.cString 0) (← inv.cInt 1).toUInt32)

def chown : Except CallError Plan :=
  return .status (.chown (← inv.cString 0) (← inv.cInt 1).toUInt32 (← inv.cInt 2).toUInt32)

def link : Except CallError Plan :=
  return .status (.link (← inv.cString 0) (← inv.cString 1))

def symlink : Except CallError Plan :=
  return .status (.symlink (← inv.cString 0) (← inv.cString 1))

def unlink : Except CallError Plan :=
  return .status (.unlink (← inv.cString 0))

def rename : Except CallError Plan :=
  return .status (.rename (← inv.cString 0) (← inv.cString 1))

def mkdir : Except CallError Plan :=
  return .status (.mkdir (← inv.cString 0) (← inv.cInt 1).toUInt32)

def rmdir : Except CallError Plan :=
  return .status (.rmdir (← inv.cString 0))

def chdir : Except CallError Plan :=
  return .status (.chdir (← inv.cString 0))

/-- Write the path of the working directory into a buffer, whose pointer is the result. -/
def getcwd : Except CallError Plan := do
  let handle ← inv.pointer 0
  let view ← inv.view 0
  let size ← inv.size 1
  inv.memory 0 (view.check 0 size)
  return ⟨.getcwd view.base size, fun found register =>
    .value (if found then .ok (.pointer handle) else .error register)⟩

def readlink : Except CallError Plan := do
  let path ← inv.cString 0
  let view ← inv.view 1
  let size ← inv.size 2
  inv.memory 1 (view.check 0 size)
  return .status (.readlink path view.base size)

/-- The size of a pair of times, each of seconds and microseconds in eight bytes. -/
def timePairSize : UInt64 := 32

def utimes : Except CallError Plan := do
  let path ← inv.cString 0
  let times ← inv.region 1 timePairSize
  return .status (.utimes path times.base)

def dup : Except CallError Plan :=
  return .status (.dup (← inv.cInt 0))

def close : Except CallError Plan :=
  return .status (.close (← inv.cInt 0))

def fchmod : Except CallError Plan :=
  return .status (.fchmod (← inv.cInt 0) (← inv.cInt 1).toUInt32)

/-- Set the owner and the group of an open file. The ids are decoded first. -/
def fchown : Except CallError Plan := do
  let owner ← inv.cInt 1
  let group ← inv.cInt 2
  return .status (.fchown (← inv.cInt 0) owner.toUInt32 group.toUInt32)

def fsync : Except CallError Plan :=
  return .status (.fsync (← inv.cInt 0))

def flock : Except CallError Plan :=
  return .status (.flock (← inv.cInt 0) (← inv.cInt 1))

def isatty : Except CallError Plan :=
  return .info (.isatty (← inv.cInt 0))

def fcntl : Except CallError Plan :=
  return .status (.fcntl (← inv.cInt 0) (← inv.cInt 1))

def fcntlInt : Except CallError Plan :=
  return .status (.fcntlInt (← inv.cInt 0) (← inv.cInt 1) (← inv.cInt 2))

end NativeCall.Request

namespace NativeCall.CallPath

variable {κ η : Type}

/-- Give the host's own notion of the working directory as text. Its length is not limited. -/
def hostDirectory : CallPath κ η :=
  fun platform _ => do
    let path ← platform.host.currentDirectory
    return .value (.ok (.str path))

end NativeCall.CallPath
