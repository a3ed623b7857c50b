import NativeCall.Config.File
import NativeCall.Log.Filter
import NativeCall.Probe.Call
import NativeCall.Probe.CommandLine
import NativeCall.Table.BuiltIn

/-!
This module contains the probe as a program: from the words of a command line to what is written and
the status with which the program ends.
-/

namespace NativeCall.Probe

structure Report where
  status : UInt32
  output : List String
  /-- The messages on the standard error, each of one or several lines. -/
  errors : List String
deriving DecidableEq, Repr

/-- What surrounds a run of the program: its build, the specification of a log filter in the environment,
and the place in the program from which operations are called. -/
structure Setting where
  overflow : Overflow
  logSpec : Option String
  site : String

def versionLine : String := "rposix-cli 0.1.0"

def helpLines : List String := [
  "Invoke a POSIX binding operation against the live OS",
  "",
  "Usage: posix-call [OPTIONS] [OP] [ARGS]...",
  "",
  "Arguments:",
  "  [OP]       Operation name, e.g. `getcwd` or `_getaddrinfo`",
  "  [ARGS]...  Arguments: nil, integers, :SYMBOL, buf:N, or strings",
  "",
  "Options:",
  "  -c, --config <CONFIG>  TOML binding configuration",
  "  -t, --trace            Log every call at trace level",
  "  -l, --list             List the available operations and exit",
  "  -h, --help             Print help",
  "  -V, --version          Print version"]

def padded (width : Nat) (text : String) : String :=
  text ++ String.ofList (List.replicate (width - text.length) ' ')

def listLine {κ η : Type} (op : Operation κ η) : String :=
  let name := padded 14 op.name
  let policy := padded 13 op.policy.name
  s!"{name} {op.arity} {policy} {op.signatures}"

/-- A log line as it is written. Further lines of its text are indented. -/
def logText (line : LogLine) : String :=
  let level := padded 5 line.level.name
  let text := line.text.replace "\n" "\n    "
  s!"[{level} {line.target.name}] {text}"

def failure (text : String) : String :=
  s!"posix-call: {text}"

variable {κ : Type}

/-- The configuration for a run: the one in the file that the options name, with calls logged also if
the options say so. -/
def configure (kernel : Kernel κ) (os : κ) (options : Options) :
    Except ConfigFileError BindingConfig := do
  let config ← match options.config with
    | some path => BindingConfig.load kernel os path
    | none => pure {}
  return { config with traceCalls := config.traceCalls || options.trace }

/-- How a run ends: with lines to write, with a failure, or with a fault that stops the program. -/
inductive Ending where
  | lines (lines : List String)
  | failed (text : String)
  | stopped (text : String)
deriving DecidableEq, Repr

def Ending.ofError : ProbeError → Ending
  | .buffer fault => .stopped fault.message
  | .argument .overflow => .stopped ArgumentError.overflow.message
  | e => .failed e.message

def act (platform : Platform κ TrackedDirectory) (setting : Setting) (options : Options)
    (config : BindingConfig) : Action κ TrackedDirectory Ending := do
  -- the logger asks whether it writes to a terminal
  let _ ← platform.run (.isatty 2)
  Action.logLine platform.logger ⟨.debug, .probe, s!"binding config: {config.inspect}"⟩
  let registry : Registry κ TrackedDirectory := Registry.builtIn config
  Action.logLine platform.logger registry.announcement
  if options.list then return .lines (registry.operations.map listLine)
  match options.operation with
  | none => return .failed "no operation given; use --list to see them"
  | some operation =>
    match ← call registry platform setting.overflow setting.site operation options.arguments with
    | .ok lines => return .lines lines
    | .error e => return .ofError e

def platformOf (kernel : Kernel κ) : Platform κ TrackedDirectory :=
  ⟨kernel, Host.tracking kernel, Logger.undisturbing⟩

def runOptions (kernel : Kernel κ) (setting : Setting) (machine : Machine κ) (options : Options) :
    Report :=
  match configure kernel machine.os options with
  | .error e => ⟨1, [], [failure e.report]⟩
  | .ok config =>
    let base := LogFilter.ofLevel config.logger
    let (filter, faults) := ((setting.logSpec).map base.specify).getD (base, [])
    let world : World κ TrackedDirectory :=
      { machine with span := none, log := #[], host := ⟨Path.root⟩ }
    let (ending, world) := act (platformOf kernel) setting options config world
    let logged := (world.log.toList.filter filter.allows).map logText
    let errors := faults.map LogFilter.SpecFault.warning ++ logged
    match ending with
    | .lines lines => ⟨0, lines, errors⟩
    | .failed text => ⟨1, [], errors ++ [failure text]⟩
    | .stopped text => ⟨101, [], errors ++ [s!"thread 'main' panicked at {setting.site}:\n{text}"]⟩

def run (kernel : Kernel κ) (setting : Setting) (machine : Machine κ) (words : List String) :
    Report :=
  match Options.parse words with
  | .ok options => runOptions kernel setting machine options
  | .error .help => ⟨0, helpLines, []⟩
  | .error .version => ⟨0, [versionLine], []⟩
  | .error (.rejected e) => ⟨2, [], [e.message]⟩

end NativeCall.Probe
