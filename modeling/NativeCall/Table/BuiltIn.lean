import NativeCall.Registry
import NativeCall.Request.Files
import NativeCall.Request.Memory
import NativeCall.Request.Process
import NativeCall.Request.Sockets

/-!
This module contains the table of the operations that the library offers.
-/

namespace NativeCall

namespace Table

variable {κ η : Type}

def arm (guard : Guard) (decode : Invocation → Except CallError Plan) : Arm (CallPath κ η) :=
  ⟨guard, .native decode⟩

/-- An arm that decodes its arguments, some of them in memory, and makes one request. -/
def armIn (guard : Guard) (decode : Memory → Invocation → Except CallError Plan) :
    Arm (CallPath κ η) :=
  ⟨guard, .nativeIn decode⟩

def missing (name : String) (arity : Nat) : Operation κ η :=
  ⟨name, arity, .unsupported, [⟨List.replicate arity .any, .unsupported⟩], none⟩

def tellDirectory : SuccessHook κ η :=
  fun platform args => do
    if let some path := args.head?.bind Variant.asStr? then
      platform.host.setCurrentDirectory path

def chdir : Operation κ η :=
  ⟨"chdir", 1, .passThrough, [arm [.str] Request.chdir], some tellDirectory⟩

def getcwd : Operation κ η :=
  ⟨"getcwd", 2, .passThrough,
    [arm [.pointer, .int] Request.getcwd, ⟨[.str, .int], .hostDirectory⟩], none⟩

def readlink : Operation κ η :=
  ⟨"readlink", 3, .raise, [arm [.str, .pointer, .int] Request.readlink], none⟩

def utimes : Operation κ η :=
  ⟨"utimes", 2, .raise, [arm [.str, .pointer] Request.utimes], none⟩

def fcntl : Operation κ η :=
  ⟨"fcntl", 3, .passThrough,
    [arm [.int, .int, .nil] Request.fcntl, arm [.int, .int, .int] Request.fcntlInt], none⟩

def getgroups : Operation κ η :=
  ⟨"getgroups", 2, .passThrough,
    [⟨[.int, .nil], .groupCount⟩, ⟨[.int, .pointer], .groups⟩], none⟩

def getrlimit : Operation κ η :=
  ⟨"getrlimit", 2, .raise, [arm [.int, .pointer] Request.getrlimit], none⟩

def setrlimit : Operation κ η :=
  ⟨"setrlimit", 2, .raise, [arm [.int, .pointer] Request.setrlimit], none⟩

def getenv : Operation κ η :=
  ⟨"getenv", 1, .informational, [arm [.str] Request.getenv], none⟩

def setenv : Operation κ η :=
  ⟨"setenv", 3, .passThrough, [arm [.str, .str, .int] Request.setenv], none⟩

def unsetenv : Operation κ η :=
  ⟨"unsetenv", 1, .passThrough, [arm [.str] Request.unsetenv], none⟩

def environ : Operation κ η :=
  ⟨"environ", 0, .informational, [arm [] Request.environ], none⟩

def memset : Operation κ η :=
  ⟨"memset", 3, .informational, [⟨[.pointer, .int, .int], .memset⟩], none⟩

def device (name : String) (part : Int32 → Int32) : Operation κ η :=
  ⟨name, 1, .informational, [⟨[.int], .device part⟩], none⟩

def nilHost : Arm (CallPath κ η) :=
  ⟨[.nil, .str, .any, .any], .pure Request.wildcard⟩

def getaddrinfo : Operation κ η :=
  ⟨"_getaddrinfo", 4, .informational,
    [nilHost, arm [.str, .str, .any, .pointer] Request.getaddrinfo,
      arm [.str, .nil, .any, .pointer] Request.getaddrinfoHost], none⟩

def freeaddrinfo : Operation κ η :=
  ⟨"freeaddrinfo", 1, .informational, [arm [.pointer] Request.freeaddrinfo], none⟩

def getnameinfo : Operation κ η :=
  ⟨"_getnameinfo", 7, .informational,
    [arm [.pointer, .int, .pointer, .int, .pointer, .int, .int] Request.getnameinfo,
      arm [.pointer, .int, .nil, .int, .pointer, .int, .int] Request.getnameinfo,
      arm [.pointer, .int, .pointer, .int, .nil, .int, .int] Request.getnameinfo], none⟩

def connect : Operation κ η :=
  ⟨"_connect", 3, .passThrough, [arm [.int, .pointer, .int] Request.connect], none⟩

def bind : Operation κ η :=
  ⟨"_bind", 3, .passThrough, [arm [.int, .pointer, .int] Request.bind], none⟩

def setsockopt : Operation κ η :=
  ⟨"setsockopt", 5, .passThrough,
    [arm [.int, .int, .int, .pointer, .int] Request.setsockopt], none⟩

def getsockopt : Operation κ η :=
  ⟨"_getsockopt", 5, .passThrough,
    [armIn [.int, .int, .int, .pointer, .pointer] Request.getsockopt,
      ⟨[.int, .symbol, .symbol, .pointer, .pointer], .getsockoptByName⟩], none⟩

def gethostname : Operation κ η :=
  ⟨"gethostname", 2, .passThrough, [arm [.pointer, .int] Request.gethostname], none⟩

def getpeername : Operation κ η :=
  ⟨"_getpeername", 3, .passThrough, [armIn [.int, .pointer, .pointer] Request.getpeername], none⟩

def getsockname : Operation κ η :=
  ⟨"_getsockname", 3, .passThrough, [armIn [.int, .pointer, .pointer] Request.getsockname], none⟩

def lastErrno : Operation κ η :=
  ⟨"errno", 0, .informational, [⟨[], .errno⟩], none⟩

def setErrno : Operation κ η :=
  ⟨"errno=", 1, .informational, [⟨[.int], .setErrno⟩], none⟩

def files : List (Operation κ η) := [
  ⟨"access", 2, .passThrough, [arm [.str, .int] Request.access], none⟩,
  ⟨"chmod", 2, .passThrough, [arm [.str, .int] Request.chmod], none⟩,
  ⟨"chown", 3, .passThrough, [arm [.str, .int, .int] Request.chown], none⟩,
  ⟨"link", 2, .passThrough, [arm [.str, .str] Request.link], none⟩,
  ⟨"unlink", 1, .passThrough, [arm [.str] Request.unlink], none⟩,
  ⟨"symlink", 2, .passThrough, [arm [.str, .str] Request.symlink], none⟩,
  ⟨"rename", 2, .passThrough, [arm [.str, .str] Request.rename], none⟩,
  ⟨"mkdir", 2, .passThrough, [arm [.str, .int] Request.mkdir], none⟩,
  ⟨"rmdir", 1, .passThrough, [arm [.str] Request.rmdir], none⟩,
  chdir,
  getcwd,
  readlink,
  utimes]

def descriptors : List (Operation κ η) := [
  ⟨"dup", 1, .passThrough, [arm [.int] Request.dup], none⟩,
  ⟨"fchmod", 2, .passThrough, [arm [.int, .int] Request.fchmod], none⟩,
  ⟨"fchown", 3, .passThrough, [arm [.int, .int, .int] Request.fchown], none⟩,
  ⟨"fsync", 1, .passThrough, [arm [.int] Request.fsync], none⟩,
  ⟨"close", 1, .passThrough, [arm [.int] Request.close], none⟩,
  ⟨"flock", 2, .passThrough, [arm [.int, .int] Request.flock], none⟩,
  ⟨"isatty", 1, .informational, [arm [.int] Request.isatty], none⟩,
  fcntl]

def identity : List (Operation κ η) := [
  ⟨"getegid", 0, .informational, [arm [] (Request.query .getegid)], none⟩,
  ⟨"geteuid", 0, .informational, [arm [] (Request.query .geteuid)], none⟩,
  ⟨"getgid", 0, .informational, [arm [] (Request.query .getgid)], none⟩,
  ⟨"getuid", 0, .informational, [arm [] (Request.query .getuid)], none⟩,
  ⟨"getppid", 0, .informational, [arm [] (Request.query .getppid)], none⟩,
  ⟨"getpgrp", 0, .informational, [arm [] (Request.query .getpgrp)], none⟩,
  ⟨"getpid", 0, .informational, [arm [] (Request.query .getpid)], none⟩,
  ⟨"setsid", 0, .passThrough, [arm [] Request.setsid], none⟩,
  ⟨"getpgid", 1, .passThrough, [arm [.int] Request.getpgid], none⟩,
  ⟨"setgid", 1, .passThrough, [arm [.int] Request.setgid], none⟩,
  ⟨"setuid", 1, .passThrough, [arm [.int] Request.setuid], none⟩,
  ⟨"seteuid", 1, .passThrough, [arm [.int] Request.seteuid], none⟩,
  missing "setresuid" 3,
  missing "setreuid" 2,
  missing "setruid" 1,
  getgroups]

def limits : List (Operation κ η) := [
  getrlimit,
  setrlimit,
  ⟨"getpriority", 2, .informational, [arm [.int, .int] Request.getpriority], none⟩,
  ⟨"setpriority", 3, .passThrough, [arm [.int, .int, .int] Request.setpriority], none⟩,
  ⟨"umask", 1, .informational, [arm [.int] Request.umask], none⟩]

def environment : List (Operation κ η) := [
  getenv,
  setenv,
  unsetenv,
  missing "putenv" 1,
  environ]

def memory : List (Operation κ η) := [
  memset,
  device "major" Device.major,
  device "minor" Device.minor]

def resolution : List (Operation κ η) := [
  getaddrinfo,
  freeaddrinfo,
  getnameinfo]

def sockets : List (Operation κ η) := [
  connect,
  bind,
  ⟨"socket", 3, .passThrough, [arm [.int, .int, .int] Request.socket], none⟩,
  ⟨"listen", 2, .passThrough, [arm [.int, .int] Request.listen], none⟩,
  ⟨"shutdown", 2, .passThrough, [arm [.int, .int] Request.shutdown], none⟩,
  setsockopt,
  getsockopt,
  gethostname,
  getpeername,
  getsockname]

def lastError : List (Operation κ η) := [
  lastErrno,
  setErrno]

def builtIn : List (Operation κ η) :=
  files ++ descriptors ++ identity ++ limits ++ environment ++ memory ++ resolution ++ sockets ++
    lastError

theorem firstDefect?_builtIn
    : Registry.firstDefect? [] (builtIn : List (Operation κ η)) = none := by
  rfl

end Table

def Registry.builtIn {κ η : Type} (config : BindingConfig) : Registry κ η :=
  ⟨Table.builtIn, config, Table.firstDefect?_builtIn⟩

end NativeCall
