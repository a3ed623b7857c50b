import NativeCall.CallPath

/-!
This module contains the decoding of calls on the process: its identity, its limits, its environment
and its register of the last error.
-/

namespace NativeCall.Request

variable (inv : Invocation)

def query (p : Primitive .number) (_ : Invocation) : Except CallError Plan :=
  return .info p

def getpgid : Except CallError Plan :=
  return .status (.getpgid (← inv.cInt 0))

def setsid (_ : Invocation) : Except CallError Plan :=
  return .status .setsid

def setuid : Except CallError Plan :=
  return .status (.setuid (← inv.cInt 0).toUInt32)

def seteuid : Except CallError Plan :=
  return .status (.seteuid (← inv.cInt 0).toUInt32)

def setgid : Except CallError Plan :=
  return .status (.setgid (← inv.cInt 0).toUInt32)

/-- The priority of some processes. The one that says whose is decoded first. -/
def getpriority : Except CallError Plan := do
  let who ← inv.cInt 1
  return .info (.getpriority (← inv.cInt 0).toUInt32 who.toUInt32)

/-- Set the priority of some processes. The one that says whose is decoded first. -/
def setpriority : Except CallError Plan := do
  let who ← inv.cInt 1
  return .status (.setpriority (← inv.cInt 0).toUInt32 who.toUInt32 (← inv.cInt 2))

def umask : Except CallError Plan :=
  return .info (.umask (← inv.cInt 0).toUInt32)

/-- The size of a soft and a hard limit of eight bytes each. -/
def limitSize : UInt64 := 16

def getrlimit : Except CallError Plan := do
  let limit ← inv.region 1 limitSize
  return .status (.getrlimit (← inv.cInt 0).toUInt32 limit.base)

def setrlimit : Except CallError Plan := do
  let limit ← inv.region 1 limitSize
  return .status (.setrlimit (← inv.cInt 0).toUInt32 limit.base)

def getenv : Except CallError Plan :=
  return .value (.getenv (← inv.cString 0)) (Variant.ofOption fun bytes =>
    .str (Text.decodeLossy bytes))

def setenv : Except CallError Plan :=
  return .status (.setenv (← inv.cString 0) (← inv.cString 1) (← inv.cInt 2))

def unsetenv : Except CallError Plan :=
  return .status (.unsetenv (← inv.cString 0))

def environ (_ : Invocation) : Except CallError Plan :=
  return .value .environ fun address => .pointer ⟨address, none⟩

end NativeCall.Request

namespace NativeCall

variable {κ η : Type}

/-- What is in a room for `size` ids, which are zero before, of which only those count that the answer
says are there. -/
def IdList.within (answer : IdList) (size : Nat) : List UInt32 :=
  let room := List.replicate size 0
  let ids := answer.written.take size ++ room.drop answer.written.length
  ids.take answer.count.toNatClampNeg

namespace Platform

def askGroups (platform : Platform κ η) (size : Int32) : Action κ η (Except Errno IdList) := do
  let answer ← platform.run (.getgroups size)
  let result := sentinel answer.count.toInt64 (← Action.errno)
  return result.map fun _ => answer

/-- The groups of the process: first their number is asked for, and then as many ids as that. -/
def groups (platform : Platform κ η) : Action κ η (Except Errno (List UInt32)) := do
  match ← platform.askGroups 0 with
  | .error e => return .error e
  | .ok ⟨count, _⟩ =>
    match ← platform.askGroups count with
    | .error e => return .error e
    | .ok answer => return .ok (answer.within count.toNatClampNeg)

end Platform

namespace CallPath

def groupCount : CallPath κ η :=
  fun platform inv => do
    let _ ← inv.size 0
    let groups ← platform.groups
    return .status (groups.map fun ids => Int64.ofNat ids.length)

/-- Write at most as many group ids as asked for into memory; the result is how many there are. -/
def groups : CallPath κ η :=
  fun platform inv => do
    let limit ← inv.size 0
    let view ← inv.view 1
    match ← platform.groups with
    | .error e => return .status (.error e)
    | .ok ids =>
      let written := view.writeIds 4 (ids.map UInt32.toUInt64) limit (← get).memory
      let (_, memory) ← inv.memory 1 written
      modify fun w => { w with memory := memory }
      return .status (.ok (Int64.ofNat ids.length))

def errno : CallPath κ η :=
  fun _ _ => return .info (← get).errno.code.toInt64

def setErrno : CallPath κ η :=
  fun _ inv => do
    let code ← inv.cInt 0
    modify fun w => { w with errno := ⟨code⟩ }
    return .info 0

end CallPath

end NativeCall
