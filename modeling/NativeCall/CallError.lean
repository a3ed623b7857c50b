import NativeCall.Errno
import NativeCall.Memory.View
import NativeCall.Text.Quoted

/-!
This module contains the ways in which a call fails: the operating system rejects it, the library
does not offer the operation, or the caller misuses the binding.
-/

namespace NativeCall

inductive CallError where
  /-- The native call failed with this code; `site` is where the call was made. -/
  | os (op : String) (errno : Errno) (site : String)
  | unsupported (op : String)
  | noMatchingArm (op : String) (shapes : String)
  | arityMismatch (op : String) (expected got : Nat)
  | unknownOperation (name : String)
  | memory (op : String) (index : Nat) (fault : MemoryFault)
  | interiorNul (op : String) (index : Nat)
  | outOfRange (op : String) (index : Nat) (value : Int64)
  | invalidArgument (op : String) (reason : String)
  /-- The call was made on a thread that is inside the native call of `active`. -/
  | reentrant (op active : String)
  | unknownConstant (name : String)
  | invalidTable (reason : String)
deriving DecidableEq, Repr

namespace CallError

def name : CallError → String
  | os .. => "Os"
  | unsupported .. => "Unsupported"
  | noMatchingArm .. => "NoMatchingArm"
  | arityMismatch .. => "ArityMismatch"
  | unknownOperation .. => "UnknownOperation"
  | memory .. => "Memory"
  | interiorNul .. => "InteriorNul"
  | outOfRange .. => "OutOfRange"
  | invalidArgument .. => "InvalidArgument"
  | reentrant .. => "Reentrant"
  | unknownConstant .. => "UnknownConstant"
  | invalidTable .. => "InvalidTable"

def message : CallError → String
  | os op errno site => s!"{op} failed: {errno.message} (called at {site})"
  | unsupported op => s!"{op} is not supported on this platform"
  | noMatchingArm op shapes => s!"no arm of {op} accepts arguments ({shapes})"
  | arityMismatch op expected got => s!"{op} expects {expected} arguments, got {got}"
  | unknownOperation name => s!"unknown operation {Text.quote name}"
  | memory op index fault => s!"{op}: argument {index}: {fault.message}"
  | interiorNul op index => s!"{op}: argument {index} contains an interior NUL byte"
  | outOfRange op index value => s!"{op}: argument {index} out of range: {value.toInt}"
  | invalidArgument op reason => s!"{op}: {reason}"
  | reentrant op active => s!"{op} called while {active} is still inside a native span"
  | unknownConstant name => s!"unknown constant {name}"
  | invalidTable reason => s!"invalid operation table: {reason}"

def inspect : CallError → String
  | os op errno site =>
    s!"Os \x7b op: {Text.quote op}, errno: {errno.inspect}, location: {site} \x7d"
  | unsupported op => s!"Unsupported \x7b op: {Text.quote op} \x7d"
  | noMatchingArm op shapes =>
    s!"NoMatchingArm \x7b op: {Text.quote op}, shapes: {Text.quote shapes} \x7d"
  | arityMismatch op expected got =>
    s!"ArityMismatch \x7b op: {Text.quote op}, expected: {expected}, got: {got} \x7d"
  | unknownOperation name => s!"UnknownOperation \x7b name: {Text.quote name} \x7d"
  | memory op index fault =>
    s!"Memory \x7b op: {Text.quote op}, index: {index}, source: {fault.inspect} \x7d"
  | interiorNul op index => s!"InteriorNul \x7b op: {Text.quote op}, index: {index} \x7d"
  | outOfRange op index value =>
    s!"OutOfRange \x7b op: {Text.quote op}, index: {index}, value: {value.toInt} \x7d"
  | invalidArgument op reason =>
    s!"InvalidArgument \x7b op: {Text.quote op}, reason: {Text.quote reason} \x7d"
  | reentrant op active =>
    s!"Reentrant \x7b op: {Text.quote op}, active: {Text.quote active} \x7d"
  | unknownConstant name => s!"UnknownConstant \x7b name: {Text.quote name} \x7d"
  | invalidTable reason => s!"InvalidTable \x7b reason: {Text.quote reason} \x7d"

def isUnsupported : CallError → Bool
  | unsupported .. => true
  | _ => false

/-- The caller is at fault: neither did the system reject the call, nor is the operation missing. -/
def isMisuse : CallError → Bool
  | os .. => false
  | unsupported .. => false
  | _ => true

def errno? : CallError → Option Errno
  | os _ errno _ => some errno
  | _ => none

def operation? : CallError → Option String
  | os op .. => some op
  | unsupported op => some op
  | noMatchingArm op _ => some op
  | arityMismatch op .. => some op
  | unknownOperation name => some name
  | memory op .. => some op
  | interiorNul op _ => some op
  | outOfRange op .. => some op
  | invalidArgument op _ => some op
  | reentrant op _ => some op
  | unknownConstant _ => none
  | invalidTable _ => none

end CallError

end NativeCall
