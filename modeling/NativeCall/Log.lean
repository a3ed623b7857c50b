import NativeCall.Errno

/-!
This module contains log lines and their levels.
-/

namespace NativeCall

inductive LogLevel where
  | error
  | warn
  | info
  | debug
  | trace
deriving DecidableEq, Repr

namespace LogLevel

def all : List LogLevel := [error, warn, info, debug, trace]

def name : LogLevel → String
  | error => "ERROR"
  | warn => "WARN"
  | info => "INFO"
  | debug => "DEBUG"
  | trace => "TRACE"

/-- The graver a level, the smaller its rank; ranks start at one. -/
def rank : LogLevel → Nat
  | error => 1
  | warn => 2
  | info => 3
  | debug => 4
  | trace => 5

end LogLevel

inductive LogTarget where
  | registry
  | host
  | probe
deriving DecidableEq, Repr

def LogTarget.name : LogTarget → String
  | registry => "rposix_core::registry"
  | host => "rposix_core::host"
  | probe => "posix_call"

structure LogLine where
  level : LogLevel
  target : LogTarget
  text : String
deriving DecidableEq, Repr

/-- What writing a line does to the thread's error register, given the lines before it: a logger
makes native calls of its own, and these may fail. -/
abbrev Logger := Array LogLine → LogLine → Errno → Errno

def Logger.undisturbing : Logger :=
  fun _ _ e => e

end NativeCall
