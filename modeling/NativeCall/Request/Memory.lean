import NativeCall.CallPath
import NativeCall.Device

/-!
This module contains the call paths that need no request to the system: the filling of memory and
the parts of device numbers.
-/

namespace NativeCall.CallPath

variable {κ η : Type}

/-- Fill memory with one byte and give the pointer back. Of the byte's value the low eight bits
count. -/
def memset : CallPath κ η :=
  fun _ inv => do
    let handle ← inv.pointer 0
    let view ← inv.view 0
    let byte := (← inv.int 1).toUInt64.toUInt8
    let size ← inv.size 2
    let memory ← inv.memory 0 (view.fill byte size (← get).memory)
    modify fun w => { w with memory := memory }
    return .value (.ok (.pointer handle))

/-- A part of a device number, of which the low 32 bits count. -/
def device (part : Int32 → Int32) : CallPath κ η :=
  CallPath.pure fun inv => return .info (part (← inv.int 0).toInt32).toInt64

end NativeCall.CallPath
