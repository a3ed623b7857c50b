import NativeCall.Log

/-!
This module contains the configuration of a registry and of the tools that embed it.
-/

namespace NativeCall

/-- The least grave level that is logged, if any is. -/
inductive LevelFilter where
  | off
  | upTo (level : LogLevel)
deriving DecidableEq, Repr

namespace LevelFilter

def all : List LevelFilter :=
  off :: LogLevel.all.map upTo

def name : LevelFilter → String
  | off => "OFF"
  | upTo level => level.name

def inspect : LevelFilter → String
  | off => "Off"
  | upTo .error => "Error"
  | upTo .warn => "Warn"
  | upTo .info => "Info"
  | upTo .debug => "Debug"
  | upTo .trace => "Trace"

/-- The filter with this name; ASCII letters match in either case. -/
def ofName? (text : String) : Option LevelFilter :=
  all.find? fun f => f.name.toList == text.toList.map Char.toUpper

def allows : LevelFilter → LogLevel → Bool
  | off, _ => false
  | upTo limit, level => level.rank ≤ limit.rank

end LevelFilter

/-- The switches that apply to every call of a registry, and the level filter for tools around it. -/
structure BindingConfig where
  logger : LevelFilter := .upTo .warn
  traceCalls : Bool := false
  logOsErrors : Bool := true
deriving DecidableEq, Repr

namespace BindingConfig

def inspect (c : BindingConfig) : String :=
  s!"BindingConfig \x7b logger: LoggerConfig \x7b level_filter: {c.logger.inspect} \x7d, " ++
    s!"trace_calls: {c.traceCalls}, log_os_errors: {c.logOsErrors} \x7d"

def render (c : BindingConfig) : String :=
  s!"trace_calls = {c.traceCalls}\nlog_os_errors = {c.logOsErrors}\n\n" ++
    s!"[logger]\nlevel_filter = \"{c.logger.name}\"\n"

end BindingConfig

end NativeCall
