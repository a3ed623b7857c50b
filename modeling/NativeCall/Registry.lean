import NativeCall.Config
import NativeCall.Dispatch

/-!
This module contains registries: tables of named operations that have been checked, and the making
of calls through them.
-/

namespace NativeCall

inductive Policy where
  | raise
  /-- The call gives `-1` or nil and leaves the code in the register. -/
  | passThrough
  | informational
  | unsupported
deriving DecidableEq, Repr

namespace Policy

def all : List Policy := [raise, passThrough, informational, unsupported]

def name : Policy → String
  | raise => "raise"
  | passThrough => "pass-through"
  | informational => "informational"
  | unsupported => "unsupported"

def inspect : Policy → String
  | raise => "Raise"
  | passThrough => "PassThrough"
  | informational => "Informational"
  | unsupported => "Unsupported"

end Policy

/-- What an operation does with the caller's arguments once it has succeeded. -/
abbrev SuccessHook (κ η : Type) := Platform κ η → List Variant → Action κ η Unit

/-- A named operation: how many arguments it takes, what a failure means, and its arms in the order
in which they are tried. -/
structure Operation (κ η : Type) where
  name : String
  arity : Nat
  policy : Policy
  arms : List (Arm (CallPath κ η))
  onSuccess : Option (SuccessHook κ η) := none

namespace Operation

variable {κ η : Type}

def signatures (op : Operation κ η) : String :=
  "; ".intercalate (op.arms.map Arm.signature)

def inspect (op : Operation κ η) : String :=
  let arms := ", ".intercalate (op.arms.map Arm.inspect)
  let name := Text.quote op.name
  s!"OperationDescriptor \x7b name: {name}, arity: {op.arity}, policy: {op.policy.inspect}, " ++
    s!"arms: [{arms}], on_success: {op.onSuccess.isSome} \x7d"

/-- Why an operation cannot stand in a table behind operations with the names `seen`, if it
cannot. -/
def defect? (seen : List String) (op : Operation κ η) : Option String :=
  if op.arms.isEmpty then some s!"{op.name} has no arms"
  else
    match op.arms.find? (·.guard.length ≠ op.arity) with
    | some arm => some s!"{op.name}: arm {arm.signature} does not have {op.arity} shapes"
    | none => if seen.contains op.name then some s!"{op.name} is declared twice" else none

end Operation

namespace Registry

variable {κ η : Type}

/-- The first defect of a table, whose operations stand behind others with the names `seen`. -/
def firstDefect? (seen : List String) : List (Operation κ η) → Option String
  | [] => none
  | op :: rest =>
    match op.defect? seen with
    | some reason => some reason
    | none => firstDefect? (op.name :: seen) rest

end Registry

/-- A table of operations without defects, and the switches that apply to all calls. -/
structure Registry (κ η : Type) where
  table : List (Operation κ η)
  config : BindingConfig
  sound : Registry.firstDefect? [] table = none

namespace Registry

variable {κ η : Type}

def ofTable (table : List (Operation κ η)) (config : BindingConfig) :
    Except CallError (Registry κ η) :=
  match h : firstDefect? [] table with
  | some reason => .error (.invalidTable reason)
  | none => .ok ⟨table, config, h⟩

def announcement (r : Registry κ η) : LogLine :=
  ⟨.debug, .registry, s!"operation registry: {r.table.length} operations"⟩

def find? (r : Registry κ η) (name : String) : Option (Operation κ η) :=
  r.table.find? (·.name == name)

def operations (r : Registry κ η) : List (Operation κ η) :=
  r.table.mergeSort (·.name ≤ ·.name)

end Registry

/-- An operation that has been looked up for calls with a certain number of arguments. -/
structure BoundOperation (κ η : Type) where
  operation : Operation κ η
  config : BindingConfig

namespace BoundOperation

variable {κ η : Type}

/-- The native call has succeeded: run the hook, and leave the register at `register`. -/
def succeed (b : BoundOperation κ η) (platform : Platform κ η) (args : List Variant)
    (register : Errno) (result : Variant) : Action κ η (Except CallError Variant) := do
  if let some hook := b.operation.onSuccess then
    hook platform args
  if b.config.traceCalls then
    platform.note .trace s!"{b.operation.name} -> {result.display}"
  Action.setErrno register
  return .ok result

/-- The native call has failed with the code `e`, for which `result` stands where failures are not
raised. -/
def fail (b : BoundOperation κ η) (platform : Platform κ η) (site : String) (e : Errno)
    (result : Variant) : Action κ η (Except CallError Variant) := do
  if b.config.logOsErrors then
    platform.note .debug s!"{b.operation.name}: {e.message}"
  Action.setErrno e
  if b.operation.policy = .raise then
    return .error (.os b.operation.name e site)
  else
    return .ok result

/-- Log why a path gave up, and leave the register where the path left it. -/
def giveUp (b : BoundOperation κ η) (platform : Platform κ η) (register : Errno) (e : CallError) :
    Action κ η (Except CallError Variant) := do
  if e.isUnsupported then
    platform.noteUnsupported b.operation.name
  else
    platform.noteMisuse e
  Action.setErrno register
  return .error e

/-- Apply the operation's policy to what its path came to. -/
def conclude (b : BoundOperation κ η) (platform : Platform κ η) (site : String)
    (args : List Variant) (register : Errno) :
    Except CallError Outcome → Action κ η (Except CallError Variant)
  | .error e => b.giveUp platform register e
  | .ok (.info v) => b.succeed platform args register (.int v)
  | .ok (.status (.ok v)) => b.succeed platform args register (.int v)
  | .ok (.value (.ok v)) => b.succeed platform args register v
  | .ok (.status (.error e)) => b.fail platform site e (.int (-1))
  | .ok (.value (.error e)) => b.fail platform site e .nil
  | .ok (.redispatch _) => do
    Action.setErrno register
    platform.refuse (.invalidTable s!"{b.operation.name}: substitution escaped dispatch")

/-- Run the arm that takes the arguments, inside a span and with the register as it was on entry. -/
def runArm (b : BoundOperation κ η) (platform : Platform κ η) (args : List Variant)
    (entry : Errno) : Action κ η (Except CallError Outcome) := do
  Action.setErrno entry
  let outcome ← dispatch b.operation.name b.operation.arms platform args
  Span.leave
  return outcome

def noteCall (b : BoundOperation κ η) (platform : Platform κ η) (site : String)
    (args : List Variant) : Action κ η Unit := do
  if b.config.traceCalls then
    let shown := ", ".intercalate (args.map Variant.display)
    platform.note .trace s!"{b.operation.name}({shown}) at {site}"

/-- Make a call; `site` says where in the caller's program. A call that gets to an arm leaves the
register as the native call leaves it, whatever is logged. -/
def call (b : BoundOperation κ η) (platform : Platform κ η) (site : String)
    (args : List Variant) : Action κ η (Except CallError Variant) := do
  let op := b.operation
  if args.length ≠ op.arity then
    platform.refuse (.arityMismatch op.name op.arity args.length)
  else if op.policy = .unsupported then
    platform.noteUnsupported op.name
    return .error (.unsupported op.name)
  else
    let entry ← Action.errno
    b.noteCall platform site args
    match ← Span.enter op.name with
    | .error e => platform.refuse e
    | .ok () =>
      let outcome ← b.runArm platform args entry
      b.conclude platform site args (← Action.errno) outcome

end BoundOperation

namespace Registry

variable {κ η : Type}

def bind (r : Registry κ η) (platform : Platform κ η) (name : String) (count : Nat) :
    Action κ η (Except CallError (BoundOperation κ η)) :=
  match r.find? name with
  | none => platform.refuse (.unknownOperation name)
  | some op =>
    if op.arity ≠ count then platform.refuse (.arityMismatch op.name op.arity count)
    else return .ok ⟨op, r.config⟩

def call (r : Registry κ η) (platform : Platform κ η) (site name : String)
    (args : List Variant) : Action κ η (Except CallError Variant) := do
  match ← r.bind platform name args.length with
  | .error e => return .error e
  | .ok b => b.call platform site args

end Registry

end NativeCall
