import NativeCall.Posix.Descriptors
import NativeCall.Text.Hex

/-!
This module contains the local sockets of the in-memory system: how they are made, named and
connected, and their options.
-/

namespace NativeCall

namespace SocketKind

def number : SocketKind → Nat
  | stream => 1
  | datagram => 2
  | packet => 5

def ofNumber? : Nat → Option SocketKind
  | 1 => some stream
  | 2 => some datagram
  | 3 => some datagram
  | 5 => some packet
  | _ => none

end SocketKind

namespace SocketName

/-- The number of the family of local sockets, as two bytes of an address. -/
def family : List UInt8 := [1, 0]

def encode : SocketName → List UInt8
  | unnamed => family
  | file _ bytes => family ++ bytes
  | abstract bytes => family ++ bytes

end SocketName

/-- An address that a caller hands over: a file, a name apart from files, or no name at all. -/
inductive SocketTarget where
  | unnamed
  | path (path : Path)
  | abstract (bytes : List UInt8)
deriving DecidableEq, Repr

namespace SocketTarget

def maxRead : Nat := 128

def maxLength : Nat := 110

def ofBytes? (bytes : List UInt8) : Except Errno SocketTarget :=
  if maxLength < bytes.length || bytes.take 2 ≠ SocketName.family then .error .einval
  else
    match bytes.drop 2 with
    | [] => .ok .unnamed
    | 0 :: rest => .ok (.abstract (0 :: rest))
    | name => .ok (.path (name.takeWhile (· ≠ 0)))

end SocketTarget

namespace Posix

variable (s : Posix)

def kindMask : Int32 := 0xF

/-- The bits of a socket type that ask for a descriptor which a new program would lose. -/
def closeOnExecBit : Int32 := 0o2000000

def nonBlockingBit : Int32 := 0o4000

def familyCount : Int32 := 46

def kindCount : Int32 := 11

def localFamily : Int32 := 1

def socket (domain type protocol : Int32) : Except Errno (Int64 × Posix) := do
  let kind := type &&& kindMask
  if type &&& ~~~(kindMask ||| closeOnExecBit ||| nonBlockingBit) ≠ 0 then throw .einval
  if domain < 0 ∨ familyCount ≤ domain then throw .eafnosupport
  if kindCount ≤ kind then throw .einval
  if domain ≠ localFamily then throw .eafnosupport
  if protocol ≠ 0 ∧ protocol ≠ localFamily then throw .eprotonosupport
  match SocketKind.ofNumber? kind.toInt.toNat with
  | none => throw .esocktnosupport
  | some kind =>
    let flags := readWrite ||| (type &&& nonBlockingBit).toUInt32
    return s.openObject (.socket ⟨kind, .idle, .unnamed, []⟩) flags 0o777
      (type &&& closeOnExecBit ≠ 0)

/-- The socket that a descriptor stands for, and the number of its description. -/
def socketOf (fd : Int32) : Except Errno (Nat × Description × Socket) := do
  let (id, d) ← s.described fd
  match d.object with
  | .socket socket => return (id, d, socket)
  | _ => throw .enotsock

def updateSocket (id : Nat) (socket : Socket) : Posix :=
  s.updateDescription id fun d => { d with object := .socket socket }

def findSocket? (p : SocketName → Bool) : Option (Nat × Socket) :=
  s.descriptions.findSome? fun (id, d) =>
    match d.object with
    | .socket socket => if p socket.name then some (id, socket) else none
    | _ => none

/-- A name that the system chooses: a zero and five hexadecimal digits. -/
def autoName (n : Nat) : List UInt8 :=
  0 :: (List.range 5).map fun i =>
    UInt8.ofNat (Text.digitChar ((n >>> (4 * (4 - i))) % 16)).toNat

def bind (fd : Int32) (bytes : List UInt8) : Except Errno Posix := do
  let (id, d, socket) ← s.socketOf fd
  if SocketTarget.maxRead < bytes.length then throw .einval
  match ← SocketTarget.ofBytes? bytes with
  | .unnamed =>
    if socket.name = .unnamed then
      let name := SocketName.abstract (autoName s.nextAutoName)
      return { s.updateSocket id { socket with name } with nextAutoName := s.nextAutoName + 1 }
    else return s
  | .path path =>
    let place : Except Errno (Nat × Path) :=
      match s.files.vacancy s.cwd path false with
      | .ok place => .ok place
      | .error e => .error (if e = .eexist then .eaddrinuse else e)
    let (directory, name) ← place
    if socket.name ≠ .unnamed then throw .einval
    let (node, s) := s.create directory name .socket (d.mode &&& ~~~s.umask)
    return s.updateSocket id { socket with name := .file node (path ++ [0]) }
  | .abstract bytes =>
    if socket.name ≠ .unnamed then throw .einval
    if (s.findSocket? (· = .abstract bytes)).isSome then throw .eaddrinuse
    return s.updateSocket id { socket with name := .abstract bytes }

def peerAt (target : SocketTarget) : Except Errno (Nat × Socket) := do
  let found ← match target with
    | .unnamed => throw .einval
    | .path path => do
      let node ← s.nodeAt path true
      pure (s.findSocket? fun name =>
        match name with
        | .file n _ => n = node
        | _ => false)
    | .abstract bytes => pure (s.findSocket? (· = .abstract bytes))
  match found with
  | some peer => return peer
  | none => throw .econnrefused

def connect (fd : Int32) (bytes : List UInt8) : Except Errno Posix := do
  let (id, _, socket) ← s.socketOf fd
  if SocketTarget.maxRead < bytes.length then throw .einval
  if socket.kind = .datagram && 2 ≤ bytes.length && bytes.take 2 = [0, 0] then
    return s.updateSocket id { socket with state := .idle }
  let (peerId, peer) ← s.peerAt (← SocketTarget.ofBytes? bytes)
  if peer.kind ≠ socket.kind then throw .eprototype
  let connected := { socket with state := .connected peer.name.encode }
  if socket.kind = .datagram then return s.updateSocket id connected
  match peer.state with
  | .listening backlog waiting =>
    if backlog < waiting then throw .eagain
    match socket.state with
    | .idle =>
      let peer := { peer with state := .listening backlog (waiting + 1) }
      return (s.updateSocket peerId peer).updateSocket id connected
    | .connected _ => throw .eisconn
    | .listening .. => throw .einval
  | _ => throw .econnrefused

def listen (fd backlog : Int32) : Except Errno Posix := do
  let (id, _, socket) ← s.socketOf fd
  if socket.kind = .datagram then throw .eopnotsupp
  if socket.name = .unnamed then throw .einval
  let limit := if backlog < 0 ∨ 4096 < backlog then 4096 else backlog.toInt.toNat
  match socket.state with
  | .idle => return s.updateSocket id { socket with state := .listening limit 0 }
  | .listening _ waiting =>
    return s.updateSocket id { socket with state := .listening limit waiting }
  | .connected _ => throw .einval

def shutdown (fd how : Int32) : Except Errno Posix := do
  let _ ← s.socketOf fd
  if how < 0 ∨ 2 < how then throw .einval
  return s

def socketAddress (fd : Int32) : Except Errno (List UInt8) := do
  let (_, _, socket) ← s.socketOf fd
  return socket.name.encode

def peerAddress (fd : Int32) : Except Errno (List UInt8) := do
  let (_, _, socket) ← s.socketOf fd
  match socket.state with
  | .connected peer => return peer
  | _ => throw .enotconn

def socketLevel : Int32 := 1

def intBytes (n : Nat) : List UInt8 :=
  littleEndian 4 n

/-- The value that an option has before it is set, for options that can be read. -/
def defaultOption? (socket : Socket) : Nat → Option (List UInt8)
  | 3 => some (intBytes socket.kind.number)
  | 30 =>
    match socket.state with
    | .listening .. => some (intBytes 1)
    | _ => some (intBytes 0)
  | 7 | 8 => some (intBytes 212992)
  | 18 | 19 => some (intBytes 1)
  | 39 => some (intBytes 1)
  | 42 => some (intBytes 0xFFFFFFFF)
  | 13 => some (List.replicate 8 0)
  | 20 | 21 => some (List.replicate 16 0)
  | 17 => some (intBytes 0 ++ intBytes 0xFFFFFFFF ++ intBytes 0xFFFFFFFF)
  | 1 | 2 | 4 | 5 | 6 | 9 | 10 | 11 | 12 | 14 | 15 | 16 | 29 | 34 | 35 | 36 | 38 | 40 | 41 | 43 | 44
  | 45 | 46 => some (intBytes 0)
  | _ => none

def socketOption (fd level name : Int32) : Except Errno (List UInt8) := do
  let (_, _, socket) ← s.socketOf fd
  if level ≠ socketLevel then throw .eopnotsupp
  let number := name.toInt.toNat
  match if name < 0 then none else defaultOption? socket number with
  | none => throw .enoprotoopt
  | some value => return (socket.options.lookup number).getD value

/-- How the bytes of an option are kept, for options that can be set: switches as one or zero, buffer
sizes doubled. -/
def storedOption? (number : Nat) (value : List UInt8) : Except Errno (List UInt8) :=
  let n := ofLittleEndian (value.take 4)
  let switch := intBytes (if n = 0 then 0 else 1)
  match number with
  | 15 => if n = 0 then .ok switch else .error .eopnotsupp
  | 1 | 2 | 5 | 6 | 9 | 10 | 11 | 16 | 29 | 34 | 35 | 40 | 41 | 43 | 44 => .ok switch
  | 7 => .ok (intBytes (max 4608 (2 * min n 212992)))
  | 8 => .ok (intBytes (max 2304 (2 * min n 212992)))
  | 12 | 36 | 42 | 46 => .ok (value.take 4)
  | 18 => .ok (intBytes (if n = 0 then 1 else n))
  | 13 => if value.length < 8 then .error .einval else .ok (value.take 8)
  | 20 | 21 => if value.length < 16 then .error .einval else .ok (value.take 16)
  | 14 => .ok (intBytes 0)
  | _ => .error .enoprotoopt

def setSocketOption (fd level name : Int32) (value : List UInt8) : Except Errno Posix := do
  let (id, _, socket) ← s.socketOf fd
  if level ≠ socketLevel then throw .eopnotsupp
  if value.length < 4 then throw .einval
  if name < 0 then throw .enoprotoopt
  let number := name.toInt.toNat
  let stored ← storedOption? number value
  let options := (number, stored) :: socket.options.filter (·.1 ≠ number)
  return s.updateSocket id { socket with options := options }

end Posix

end NativeCall
