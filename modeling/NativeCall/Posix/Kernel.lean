import NativeCall.Net.AddressInfo
import NativeCall.Posix.Process
import NativeCall.Posix.Sockets

/-!
This module contains the in-memory system as a kernel: the answer to each request.
-/

namespace NativeCall.Posix

def change (f : Posix → Except Errno Posix) : Syscall Int64 := do
  Syscall.setSystem (← f (← Syscall.system))
  return 0

/-- Answer with a number after a change of the system. -/
def answer (f : Posix → Except Errno (Int64 × Posix)) : Syscall Int64 := do
  let (n, s) ← f (← Syscall.system)
  Syscall.setSystem s
  return n

def ask (f : Posix → Int64) : Syscall Int64 :=
  return f (← Syscall.system)

def getcwd (buffer size : UInt64) : Syscall Unit := do
  if size = 0 then throw .einval
  let path ← (← Syscall.system).workingDirectory
  if size.toNat < path.length + 1 then throw .erange
  Syscall.writeMemory buffer (path ++ [0])

/-- Write the target of a symbolic link into a buffer, as much of it as there is room for. -/
def readlink (path : Path) (buffer size : UInt64) : Syscall Int64 := do
  if size.toUInt32.toInt32 ≤ 0 then throw .einval
  let target ← (← Syscall.system).linkTarget path
  let written := target.take size.toUInt32.toNat
  Syscall.writeMemory buffer written
  return Int64.ofNat written.length

def readTime (address : UInt64) : Syscall Timestamp := do
  let seconds ← Syscall.readInt64 address
  let micros ← Syscall.readInt64 (address + 8)
  if micros < 0 ∨ 1000000 ≤ micros then throw .einval
  return ⟨seconds, micros.toNat * 1000⟩

/-- Set the times of the file at a path, which is looked up before the times are looked at. -/
def utimes (path : Path) (times : UInt64) : Syscall Int64 := do
  let _ ← (← Syscall.system).nodeAt path true
  let accessed ← readTime times
  let modified ← readTime (times + 16)
  change fun s => s.setTimes path accessed modified

def getrlimit (resource : UInt32) (target : UInt64) : Syscall Int64 := do
  let limit ← (← Syscall.system).limit resource
  Syscall.writeMemory target
    (littleEndian 8 limit.soft.toNat ++ littleEndian 8 limit.hard.toNat)
  return 0

def setrlimit (resource : UInt32) (source : UInt64) : Syscall Int64 := do
  let soft ← Syscall.readNat source 8
  let hard ← Syscall.readNat (source + 8) 8
  change fun s => s.setLimit resource ⟨UInt64.ofNat soft, UInt64.ofNat hard⟩

/-- Write the name of the machine and a zero into a buffer, as much of it as there is room for. -/
def gethostname (buffer length : UInt64) : Syscall Int64 := do
  let name := (← Syscall.system).hostName ++ [0]
  Syscall.writeMemory buffer (name.take length.toNat)
  if length.toNat < name.length then throw .enametoolong
  return 0

/-- Write a value into a buffer whose capacity is stored at `length`, as much of it as there is room
for, and store how much `stored` says. -/
def writeSized (target length : UInt64) (value : List UInt8) (stored : Nat → Nat) :
    Syscall Int64 := do
  let capacity ← Syscall.readNat length 4
  if 0x80000000 ≤ capacity then throw .einval
  let written := value.take capacity
  Syscall.writeMemory target written
  Syscall.writeMemory length (littleEndian 4 (stored written.length))
  return 0

def getsockopt (fd level name : Int32) (target length : UInt64) : Syscall Int64 := do
  let s ← Syscall.system
  let _ ← s.socketOf fd
  let capacity ← Syscall.readNat length 4
  if level = socketLevel ∧ 0x80000000 ≤ capacity then throw .einval
  writeSized target length (← s.socketOption fd level name) id

/-- Write an address into memory, and how many bytes it has. -/
def writeAddress (address : Posix → Except Errno (List UInt8)) (target length : UInt64) :
    Syscall Int64 := do
  let bytes ← address (← Syscall.system)
  writeSized target length bytes fun _ => bytes.length

def setsockopt (fd level name : Int32) (source : UInt64) (length : UInt32) : Syscall Int64 := do
  if 0x80000000 ≤ length.toNat then throw .einval
  let value ← Syscall.readMemory source (min length.toNat 16)
  change fun s => s.setSocketOption fd level name value

/-- The bytes of an address that a caller hands over; of one that is too long, one byte more than
the longest. -/
def readAddress (source : UInt64) (length : UInt32) : Syscall (List UInt8) :=
  Syscall.readMemory source (min length.toNat (SocketTarget.maxRead + 1))

def flockCall (fd operation : Int32) : Syscall Int64 := do
  let (result, s) := (← Syscall.system).flock fd operation
  Syscall.setSystem s
  result
  return 0

def getaddrinfo (host : CString) (service : Option CString) (hints result : UInt64) :
    StateM (Machine Posix) Int64 := do
  let characters (s : CString) : List Char := s.bytes.map fun b => Char.ofNat b.toNat
  let m ← get
  let hints :=
    if hints = 0 then Net.Hints.default else Net.AddressInfo.readHints m.memory hints.toNat
  match Net.resolve (characters host) (service.map characters) hints with
  | .error e => return e.code
  | .ok results =>
    let (name, memory) :=
      if hints.has Net.Hints.canonicalName then m.memory.allocate host.terminated.toArray
      else (0, m.memory)
    let (chain, memory) := Net.AddressInfo.writeChain name results memory
    set { m with memory := memory.write result.toNat (littleEndian 8 chain) }
    return 0

def maxChain : Nat := 64

/-- What a reverse resolution writes: a text that has to fit with the zero that ends it. A cut text is
written too if `cut` says so. -/
def writeName (target : UInt64) (length : UInt32) (text : List UInt8) (cut : Bool) :
    ExceptT Net.ResolveError (StateM (Machine Posix)) Unit := do
  let write (bytes : List UInt8) : StateM (Machine Posix) Unit :=
    modify fun m => { m with memory := m.memory.write target.toNat bytes }
  if text.length < length.toNat then write (text ++ [0])
  else
    if cut then write (text.take (length.toNat - 1) ++ [0])
    throw .overflow

/-- The host and the service that an address names. The service of a local address is its path, which
ends at a zero wherever the address ends. -/
def namesOf (bytes path : List UInt8) (flags : Nat) (hostName : List UInt8) :
    Except Net.ResolveError (List UInt8 × List UInt8 × Bool) := do
  if ofLittleEndian (bytes.take 2) = Net.localFamily then
    let host :=
      if flags &&& Net.numericHostFlag = 0 then hostName else Text.encode "localhost"
    return (host, path.takeWhile (· ≠ 0), false)
  else
    match Net.Endpoint.decode? bytes with
    | none => throw .family
    | some endpoint =>
      return (Text.encode (Net.hostText endpoint), Text.encode (Net.serviceText endpoint), true)

/-- Write the names of an address into memory, the host before the service. -/
def getnameinfo (source : UInt64) (length : UInt32) (host : UInt64) (hostLength : UInt32)
    (service : UInt64) (serviceLength : UInt32) (flags : Int32) :
    ExceptT Net.ResolveError (StateM (Machine Posix)) Unit := do
  let flags := flags.toUInt32.toNat
  if flags ||| Net.nameFlags ≠ Net.nameFlags then throw .badFlags
  if length < 2 then throw .family
  let m ← get
  let nameRequired := flags &&& Net.nameRequiredFlag ≠ 0
  if nameRequired && host = 0 && service = 0 then throw .noName
  let bytes := m.memory.read source.toNat (min length.toNat SocketTarget.maxRead)
  let path := m.memory.read (source.toNat + 2) (min serviceLength.toNat Path.maxLength)
  let (hostText, serviceText, internet) ← namesOf bytes path flags m.os.hostName
  if host ≠ 0 ∧ hostLength ≠ 0 then
    if nameRequired && (internet || flags &&& Net.numericHostFlag ≠ 0) then throw .noName
    writeName host hostLength hostText false
  if service ≠ 0 ∧ serviceLength ≠ 0 then
    writeName service serviceLength serviceText internet

/-- Answer with a number; a failure is `-1` with its code in the register. -/
def number (call : Syscall Int64) : StateM (Machine Posix) Int64 := do
  match ← call.run with
  | .ok n => return n
  | .error e =>
    modify fun m => { m with errno := e }
    return -1

/-- Answer with a number; a failure is zero with its code in the register. -/
def numberOrZero (call : Syscall Int64) : StateM (Machine Posix) Int64 := do
  match ← call.run with
  | .ok n => return n
  | .error e =>
    modify fun m => { m with errno := e }
    return 0

/-- Answer with ids; the number of a failure is `-1`, with its code in the register. -/
def idList (call : Syscall IdList) : StateM (Machine Posix) IdList := do
  match ← call.run with
  | .ok ids => return ids
  | .error e =>
    modify fun m => { m with errno := e }
    return ⟨-1, []⟩

def flag (call : Syscall Unit) : StateM (Machine Posix) Bool := do
  match ← call.run with
  | .ok () => return true
  | .error e =>
    modify fun m => { m with errno := e }
    return false

def run : {reply : Reply} → Primitive reply → StateM (Machine Posix) reply.Value
  | _, .access path mode => number (change fun s => s.access path.bytes mode)
  | _, .chmod path mode => number (change fun s => s.chmod path.bytes mode)
  | _, .chown path owner group => number (change fun s => s.chown path.bytes owner group)
  | _, .link existing new => number (change fun s => s.link existing.bytes new.bytes)
  | _, .symlink target path => number (change fun s => s.symlink target.bytes path.bytes)
  | _, .unlink path => number (change fun s => s.unlink path.bytes)
  | _, .rename source target => number (change fun s => s.rename source.bytes target.bytes)
  | _, .mkdir path mode => number (change fun s => s.mkdir path.bytes mode)
  | _, .rmdir path => number (change fun s => s.rmdir path.bytes)
  | _, .chdir path => number (change fun s => s.chdir path.bytes)
  | _, .getcwd buffer size => flag (getcwd buffer size)
  | _, .readlink path buffer size => number (readlink path.bytes buffer size)
  | _, .utimes path times => number (utimes path.bytes times)
  | _, .dup fd => number (answer fun s => s.dup fd)
  | _, .close fd => number (change fun s => s.close fd)
  | _, .fchmod fd mode => number (change fun s => s.fchmod fd mode)
  | _, .fchown fd owner group => number (change fun s => s.fchown fd owner group)
  | _, .fsync fd => number (change fun s => s.fsync fd)
  | _, .flock fd operation => number (flockCall fd operation)
  | _, .isatty fd => numberOrZero (do (← Syscall.system).isatty fd)
  | _, .fcntl fd command => number (answer fun s => s.fcntl fd command 0)
  | _, .fcntlInt fd command argument => number (answer fun s => s.fcntl fd command argument)
  | _, .getuid => number (ask fun s => Int64.ofNat s.identity.user.toNat)
  | _, .geteuid => number (ask fun s => Int64.ofNat s.identity.effectiveUser.toNat)
  | _, .getgid => number (ask fun s => Int64.ofNat s.identity.group.toNat)
  | _, .getegid => number (ask fun s => Int64.ofNat s.identity.effectiveGroup.toNat)
  | _, .getpid => number (ask fun s => s.identity.pid.toInt64)
  | _, .getppid => number (ask fun s => s.identity.parent.toInt64)
  | _, .getpgrp => number (ask fun s => s.identity.processGroup.toInt64)
  | _, .getpgid pid => number (do (← Syscall.system).getpgid pid)
  | _, .setsid => number (answer Posix.setsid)
  | _, .setuid id => number (change fun s => s.setuid id)
  | _, .seteuid id => number (change fun s => s.seteuid id)
  | _, .setgid id => number (change fun s => s.setgid id)
  | _, .getgroups size => idList (do (← Syscall.system).getgroups size)
  | _, .getpriority which who => number (do (← Syscall.system).getpriority which who)
  | _, .setpriority which who priority => number (change fun s => s.setpriority which who priority)
  | _, .umask mask => number (answer fun s => .ok (s.setUmask mask))
  | _, .getrlimit resource limit => number (getrlimit resource limit)
  | _, .setrlimit resource limit => number (setrlimit resource limit)
  | _, .getenv name => do return Environment.get? (← get).os.environment name.bytes
  | _, .setenv name value overwrite =>
    number (change fun s => s.setenv name.bytes value.bytes (overwrite ≠ 0))
  | _, .unsetenv name => number (change fun s => s.unsetenv name.bytes)
  | _, .environ => do return (← get).os.environAddress
  | _, .socket domain type protocol => number (answer fun s => s.socket domain type protocol)
  | _, .listen fd backlog => number (change fun s => s.listen fd backlog)
  | _, .shutdown fd how => number (change fun s => s.shutdown fd how)
  | _, .connect fd target length =>
    number (do
      let bytes ← readAddress target length
      change fun s => s.connect fd bytes)
  | _, .bind fd target length =>
    number (do
      let bytes ← readAddress target length
      change fun s => s.bind fd bytes)
  | _, .setsockopt fd level name value length => number (setsockopt fd level name value length)
  | _, .getsockopt fd level name value length => number (getsockopt fd level name value length)
  | _, .gethostname buffer length => number (gethostname buffer length)
  | _, .getpeername fd target length =>
    number (writeAddress (fun s => s.peerAddress fd) target length)
  | _, .getsockname fd target length =>
    number (writeAddress (fun s => s.socketAddress fd) target length)
  | _, .getaddrinfo host service hints result => getaddrinfo host service hints result
  | _, .freeaddrinfo chain =>
    modify fun m => { m with memory := Net.AddressInfo.release maxChain chain.toNat m.memory }
  | _, .getnameinfo target length host hostLength service serviceLength flags => do
    match ← (getnameinfo target length host hostLength service serviceLength flags).run with
    | .ok () => return 0
    | .error e => return e.code

def kernel : Kernel Posix where
  run := run
  workingDirectory := Posix.workingDirectory
  canonicalize := Posix.canonicalize
  readFile := Posix.contentAt

end NativeCall.Posix
