import NativeCall.CallPath
import NativeCall.SocketConstant

/-!
This module contains the decoding of calls on sockets, and of the resolution of names and addresses.
-/

namespace NativeCall.Request

variable (memory : Memory) (inv : Invocation)

def socket : Except CallError Plan :=
  return .status (.socket (← inv.cInt 0) (← inv.cInt 1) (← inv.cInt 2))

def listen : Except CallError Plan :=
  return .status (.listen (← inv.cInt 0) (← inv.cInt 1))

def shutdown : Except CallError Plan :=
  return .status (.shutdown (← inv.cInt 0) (← inv.cInt 1))

/-- The argument at `index` and the length at the next place, which has to lie inside the region. -/
def sizedRegion (index lengthIndex : Nat) : Except CallError (View × UInt32) := do
  let view ← inv.view index
  let length ← inv.socketLength lengthIndex
  inv.memory index (view.check 0 length.toUInt64)
  return (view, length)

def connect : Except CallError Plan := do
  let (target, length) ← sizedRegion inv 1 2
  return .status (.connect (← inv.cInt 0) target.base length)

def bind : Except CallError Plan := do
  let (target, length) ← sizedRegion inv 1 2
  return .status (.bind (← inv.cInt 0) target.base length)

def setsockopt : Except CallError Plan := do
  let (value, length) ← sizedRegion inv 3 4
  let fd ← inv.cInt 0
  let level ← inv.cInt 1
  return .status (.setsockopt fd level (← inv.cInt 2) value.base length)

def lengthSize : UInt64 := 4

/-- A region at `index` whose capacity is stored in memory at the pointer at `lengthIndex`. The
whole capacity has to lie inside the region. -/
def outputRegion (index lengthIndex : Nat) : Except CallError (View × View) := do
  let out ← inv.view index
  let length ← inv.region lengthIndex lengthSize
  let capacity ← inv.memory lengthIndex (length.readUInt 0 lengthSize memory)
  inv.memory index (out.check 0 capacity)
  return (out, length)

def socketOption (level name : Int32) : Except CallError Plan := do
  let (value, length) ← outputRegion memory inv 3 4
  return .status (.getsockopt (← inv.cInt 0) level name value.base length.base)

/-- Write an option of a socket, given by numbers, into memory. -/
def getsockopt : Except CallError Plan := do
  let level ← inv.cInt 1
  socketOption memory inv level (← inv.cInt 2)

def gethostname : Except CallError Plan := do
  let view ← inv.view 0
  let length ← inv.size 1
  inv.memory 0 (view.check 0 length)
  return .status (.gethostname view.base length)

def getpeername : Except CallError Plan := do
  let (target, length) ← outputRegion memory inv 1 2
  return .status (.getpeername (← inv.cInt 0) target.base length.base)

def getsockname : Except CallError Plan := do
  let (target, length) ← outputRegion memory inv 1 2
  return .status (.getsockname (← inv.cInt 0) target.base length.base)

def addressInfoSize : UInt64 := 48

def addressSize : UInt64 := 8

/-- Resolve a host, with the hints at the third place and the result written at the fourth. -/
def resolve (service : Option CString) : Except CallError Plan := do
  let host ← inv.cString 0
  let hints ← inv.nullableView 2
  if let some view := hints then
    inv.memory 2 (view.check 0 addressInfoSize)
  let result ← inv.region 3 addressSize
  return .info (.getaddrinfo host service (hints.elim 0 (·.base)) result.base)

def getaddrinfo : Except CallError Plan := do
  let service ← inv.cString 1
  resolve inv (some service)

def getaddrinfoHost : Except CallError Plan :=
  resolve inv none

def freeaddrinfo : Except CallError Plan := do
  let chain ← inv.view 0
  return .value (.freeaddrinfo chain.base) fun _ => .nil

/-- Where to write a name: the region at `index` and its length at the next place. A missing region
has to have the length zero and a present one another; `what` names it in the error. -/
def nameOutput (index : Nat) (what : String) : Except CallError (UInt64 × UInt32) := do
  let length ← inv.socketLength (index + 1)
  match ← inv.nullableView index with
  | none =>
    if length = 0 then return (0, 0)
    else throw (inv.misuse s!"{what} length must be 0 without a {what} buffer")
  | some view =>
    if length = 0 then throw (inv.misuse s!"{what} length must be positive")
    else
      inv.memory index (view.check 0 length.toUInt64)
      return (view.base, length)

def getnameinfo : Except CallError Plan := do
  let (target, length) ← sizedRegion inv 0 1
  let (host, hostLength) ← nameOutput inv 2 "host"
  let (service, serviceLength) ← nameOutput inv 4 "service"
  let flags ← inv.cInt 6
  return .info (.getnameinfo target.base length host hostLength service serviceLength flags)

def wildcardHost : String := "0.0.0.0"

def wildcard : Except CallError Outcome :=
  return .redispatch (inv.args.set 0 (.str wildcardHost))

end NativeCall.Request

namespace NativeCall.CallPath

variable {κ η : Type}

/-- The value of the constant that the symbol at `index` names; `fullName` completes the name. -/
def constant (platform : Platform κ η) (inv : Invocation) (index : Nat)
    (fullName : String → String) : Call κ η Int32 := do
  let name := fullName (← inv.symbol index)
  match ← platform.host.socketConstant name with
  | some value => return value
  | none => throw (.unknownConstant name)

/-- Write an option of a socket, given by symbols that the host resolves, into memory. -/
def getsockoptByName : CallPath κ η :=
  fun platform inv => do
    let level ← constant platform inv 1 SocketConstant.levelName
    let name ← constant platform inv 2 SocketConstant.optionName
    nativeIn (fun memory inv => Request.socketOption memory inv level name) platform inv

end NativeCall.CallPath
