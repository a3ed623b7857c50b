import NativeCall.Posix.Environment
import NativeCall.Posix.State

/-!
This module contains what the in-memory system does with the attributes of the process: identity,
priority, limits, mask and environment.
-/

namespace NativeCall.Posix

variable (s : Posix)

/-- The process group of a process; zero stands for the process itself, and no other is known. -/
def getpgid (pid : Int32) : Except Errno Int64 :=
  if pid = 0 ∨ pid = s.identity.pid then .ok s.identity.processGroup.toInt64
  else .error .esrch

def setsid : Except Errno (Int64 × Posix) :=
  if s.identity.leader then .error .eperm
  else
    let identity := { s.identity with processGroup := s.identity.pid, leader := true }
    .ok (s.identity.pid.toInt64, { s with identity := identity })

def noId : UInt32 := 0xFFFFFFFF

def setuid (id : UInt32) : Except Errno Posix :=
  if id = noId then .error .einval
  else if s.identity.effectiveUser = 0 then
    .ok { s with identity := { s.identity with user := id, effectiveUser := id } }
  else if id = s.identity.user ∨ id = s.identity.effectiveUser then
    .ok { s with identity := { s.identity with effectiveUser := id } }
  else .error .eperm

def seteuid (id : UInt32) : Except Errno Posix :=
  if id = noId then .error .einval
  else if s.identity.effectiveUser = 0 ∨ id = s.identity.user ∨ id = s.identity.effectiveUser then
    .ok { s with identity := { s.identity with effectiveUser := id } }
  else .error .eperm

def setgid (id : UInt32) : Except Errno Posix :=
  if id = noId then .error .einval
  else if s.identity.effectiveUser = 0 then
    .ok { s with identity := { s.identity with group := id, effectiveGroup := id } }
  else if id = s.identity.group ∨ id = s.identity.effectiveGroup then
    .ok { s with identity := { s.identity with effectiveGroup := id } }
  else .error .eperm

/-- The number of the groups, and with room for any of them all of them. -/
def getgroups (size : Int32) : Except Errno IdList :=
  let groups := s.identity.groups
  if size = 0 then .ok ⟨Int32.ofNat groups.length, []⟩
  else if size.toInt < groups.length then .error .einval
  else .ok ⟨Int32.ofNat groups.length, groups⟩

/-- Does the process belong to the processes that a selector names? A selector of zero names the
process's own. -/
def selected (which who : UInt32) : Except Errno Unit :=
  let own : Option UInt32 :=
    match which.toNat with
    | 0 => some s.identity.pid.toUInt32
    | 1 => some s.identity.processGroup.toUInt32
    | 2 => some s.identity.user
    | _ => none
  match own with
  | none => .error .einval
  | some own => if who = 0 ∨ who = own then .ok () else .error .esrch

def getpriority (which who : UInt32) : Except Errno Int64 := do
  s.selected which who
  return s.identity.niceness.toInt64

/-- Set the priority of some processes; the lowest and the highest stand for those beyond. -/
def setpriority (which who : UInt32) (priority : Int32) : Except Errno Posix := do
  s.selected which who
  let niceness := if priority < -20 then -20 else if 19 < priority then 19 else priority
  return { s with identity := { s.identity with niceness := niceness } }

def setUmask (mask : UInt32) : Int64 × Posix :=
  (Int64.ofNat s.umask.toNat, { s with umask := mask &&& 0o777 })

def limit (resource : UInt32) : Except Errno Limit :=
  match s.limits.lookup resource.toNat with
  | some limit => .ok limit
  | none => .error .einval

def setLimit (resource : UInt32) (limit : Limit) : Except Errno Posix := do
  let _ ← s.limit resource
  if limit.hard < limit.soft then throw .einval
  let change (entry : Nat × Limit) : Nat × Limit :=
    if entry.1 = resource.toNat then (entry.1, limit) else entry
  return { s with limits := s.limits.map change }

/-- Set a variable of the environment, if it has no value yet or `overwrite` says so. -/
def setenv (name value : List UInt8) (overwrite : Bool) : Except Errno Posix :=
  if !Environment.isName name then .error .einval
  else if Option.isSome (Environment.get? s.environment name) && !overwrite then .ok s
  else .ok { s with environment := Environment.put s.environment name value }

def unsetenv (name : List UInt8) : Except Errno Posix :=
  if !Environment.isName name then .error .einval
  else .ok { s with environment := Environment.erase s.environment name }

end NativeCall.Posix
