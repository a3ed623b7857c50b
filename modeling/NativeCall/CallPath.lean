import NativeCall.Host
import NativeCall.Invocation
import NativeCall.Outcome

/-!
This module contains call paths, the ways in which an arm carries out a call. Most of them decode
their arguments and make one native request.
-/

namespace NativeCall

abbrev CallPath (κ η : Type) := Platform κ η → Invocation → Call κ η Outcome

namespace CallPath

variable {κ η : Type}

def carryOut (platform : Platform κ η) (plan : Plan) : Action κ η Outcome := do
  let result ← platform.run plan.primitive
  return plan.conclude result (← Action.errno)

/-- Decode the arguments and make one request. Nothing is requested if decoding fails. -/
def native (decode : Invocation → Except CallError Plan) : CallPath κ η :=
  fun platform inv => do
    let plan ← decode inv
    carryOut platform plan

/-- Decode the arguments, some of which say where in memory others are given, and make one
request. -/
def nativeIn (decode : Memory → Invocation → Except CallError Plan) : CallPath κ η :=
  fun platform inv => do
    let plan ← decode (← get).memory inv
    carryOut platform plan

def pure (outcome : Invocation → Except CallError Outcome) : CallPath κ η :=
  fun _ inv => outcome inv

/-- The path of an operation that is listed but not offered. -/
def unsupported : CallPath κ η :=
  CallPath.pure fun inv => .error inv.unsupported

end CallPath

end NativeCall
