import NativeCall.CString
import NativeCall.Errno

/-!
This module contains the requests that can be made of the operating system, with their arguments
already in native form: strings end at their first zero, integers have the width of the native
parameter, and regions of memory are given by their address.
-/

namespace NativeCall

/-- What the system answers when it is asked for ids: a number, and what it has written where the ids
go. -/
structure IdList where
  count : Int32
  written : List UInt32
deriving DecidableEq, Repr

inductive Reply where
  | number
  | flag
  | text
  | ids
  | address
  | done
deriving DecidableEq, Repr

@[reducible]
def Reply.Value : Reply → Type
  | number => Int64
  | flag => Bool
  | text => Option (List UInt8)
  | ids => IdList
  | address => UInt64
  | done => Unit

inductive Primitive : Reply → Type where
  -- files by path
  | access (path : CString) (mode : Int32) : Primitive .number
  | chmod (path : CString) (mode : UInt32) : Primitive .number
  | chown (path : CString) (owner group : UInt32) : Primitive .number
  | link (existing new : CString) : Primitive .number
  | symlink (target path : CString) : Primitive .number
  | unlink (path : CString) : Primitive .number
  | rename (source target : CString) : Primitive .number
  | mkdir (path : CString) (mode : UInt32) : Primitive .number
  | rmdir (path : CString) : Primitive .number
  | chdir (path : CString) : Primitive .number
  | getcwd (buffer size : UInt64) : Primitive .flag
  | readlink (path : CString) (buffer size : UInt64) : Primitive .number
  | utimes (path : CString) (times : UInt64) : Primitive .number
  -- descriptors
  | dup (fd : Int32) : Primitive .number
  | close (fd : Int32) : Primitive .number
  | fchmod (fd : Int32) (mode : UInt32) : Primitive .number
  | fchown (fd : Int32) (owner group : UInt32) : Primitive .number
  | fsync (fd : Int32) : Primitive .number
  | flock (fd operation : Int32) : Primitive .number
  | isatty (fd : Int32) : Primitive .number
  | fcntl (fd command : Int32) : Primitive .number
  | fcntlInt (fd command argument : Int32) : Primitive .number
  -- identity and limits
  | getuid : Primitive .number
  | geteuid : Primitive .number
  | getgid : Primitive .number
  | getegid : Primitive .number
  | getpid : Primitive .number
  | getppid : Primitive .number
  | getpgrp : Primitive .number
  | getpgid (pid : Int32) : Primitive .number
  | setsid : Primitive .number
  | setuid (id : UInt32) : Primitive .number
  | seteuid (id : UInt32) : Primitive .number
  | setgid (id : UInt32) : Primitive .number
  /-- There is room for `size` ids; if that is none, the answer is only how many there are. -/
  | getgroups (size : Int32) : Primitive .ids
  | getpriority (which who : UInt32) : Primitive .number
  | setpriority (which who : UInt32) (priority : Int32) : Primitive .number
  | umask (mask : UInt32) : Primitive .number
  | getrlimit (resource : UInt32) (limit : UInt64) : Primitive .number
  | setrlimit (resource : UInt32) (limit : UInt64) : Primitive .number
  -- environment
  | getenv (name : CString) : Primitive .text
  | setenv (name value : CString) (overwrite : Int32) : Primitive .number
  | unsetenv (name : CString) : Primitive .number
  | environ : Primitive .address
  -- sockets
  | socket (domain type protocol : Int32) : Primitive .number
  | listen (fd backlog : Int32) : Primitive .number
  | shutdown (fd how : Int32) : Primitive .number
  | connect (fd : Int32) (target : UInt64) (length : UInt32) : Primitive .number
  | bind (fd : Int32) (target : UInt64) (length : UInt32) : Primitive .number
  | setsockopt (fd level name : Int32) (value : UInt64) (length : UInt32) : Primitive .number
  | getsockopt (fd level name : Int32) (value length : UInt64) : Primitive .number
  | gethostname (buffer length : UInt64) : Primitive .number
  | getpeername (fd : Int32) (target length : UInt64) : Primitive .number
  | getsockname (fd : Int32) (target length : UInt64) : Primitive .number
  -- names and addresses; an address of zero leaves the argument out
  | getaddrinfo (host : CString) (service : Option CString) (hints result : UInt64) :
      Primitive .number
  | freeaddrinfo (chain : UInt64) : Primitive .done
  | getnameinfo (target : UInt64) (length : UInt32) (host : UInt64) (hostLength : UInt32)
      (service : UInt64) (serviceLength : UInt32) (flags : Int32) : Primitive .number
deriving DecidableEq, Repr

end NativeCall
