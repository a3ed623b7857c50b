import NativeCall.Posix.Files

/-!
This module contains what the in-memory system does with descriptors: copying and closing them, the
attributes of what they stand for, and locks.
-/

namespace NativeCall.Posix

variable (s : Posix)

def slotOf (fd : Int32) : Option Nat :=
  fd.toInt.toNat?

def descriptor (fd : Int32) : Except Errno (Nat × Descriptor) :=
  match slotOf fd with
  | none => .error .ebadf
  | some n =>
    match s.descriptors.lookup n with
    | some d => .ok (n, d)
    | none => .error .ebadf

def described (fd : Int32) : Except Errno (Nat × Description) := do
  let (_, d) ← s.descriptor fd
  match s.descriptions.lookup d.description with
  | some description => return (d.description, description)
  | none => throw .ebadf

def updateDescription (id : Nat) (f : Description → Description) : Posix :=
  { s with descriptions := s.descriptions.map fun (i, d) => if i = id then (i, f d) else (i, d) }

/-- The lowest number from `low` on that no descriptor has. One of `fuel` candidates is free. -/
def freeSlot (fuel low : Nat) : Nat :=
  match fuel with
  | 0 => low
  | fuel + 1 => if (s.descriptors.lookup low).isSome then freeSlot fuel (low + 1) else low

/-- A new descriptor, numbered from `low` on, for a description. -/
def addDescriptor (low : Nat) (d : Descriptor) : Int64 × Posix :=
  let n := s.freeSlot s.descriptors.length low
  (Int64.ofNat n, { s with descriptors := (n, d) :: s.descriptors })

def openObject (object : OpenObject) (flags mode : UInt32) (closeOnExec : Bool) :
    Int64 × Posix :=
  let id := s.nextDescription
  let s := { s with
    descriptions := (id, ⟨object, flags, mode⟩) :: s.descriptions, nextDescription := id + 1 }
  s.addDescriptor 0 ⟨id, closeOnExec⟩

def readWrite : UInt32 := 2

/-- The flag of files that may be larger than 32 bits can say. -/
def largeFile : UInt32 := 0x8000

def openFile (path : Path) (write : Bool) : Except Errno (Int64 × Posix) := do
  let id ← s.nodeAt path true
  if write && s.files.isDirectory id then throw .eisdir
  return s.openObject (.file id) (largeFile ||| if write then readWrite else 0) 0 true

/-- Forget a description to which no descriptor refers any more, with its locks. -/
def forget (id : Nat) : Posix :=
  if s.descriptors.any (·.2.description = id) then s
  else
    { s with
      descriptions := s.descriptions.filter (·.1 ≠ id)
      locks := s.locks.filter (·.description ≠ id) }

def dup (fd : Int32) : Except Errno (Int64 × Posix) := do
  let (_, d) ← s.descriptor fd
  return s.addDescriptor 0 { d with closeOnExec := false }

def close (fd : Int32) : Except Errno Posix := do
  let (n, d) ← s.descriptor fd
  return { s with descriptors := s.descriptors.filter (·.1 ≠ n) }.forget d.description

def fchmod (fd : Int32) (mode : UInt32) : Except Errno Posix := do
  let (id, d) ← s.described fd
  match d.object with
  | .file node => return s.setMode node mode
  | _ => return s.updateDescription id fun d => { d with mode := mode &&& permissionMask }

def fchown (fd : Int32) (owner group : UInt32) : Except Errno Posix := do
  match (← s.described fd).2.object with
  | .file node => return { s with files := s.files.update node (changeOwner owner group) }
  | _ => return s

def fsync (fd : Int32) : Except Errno Posix := do
  match (← s.described fd).2.object with
  | .file node =>
    match (s.files.node? node).map FileNode.content with
    | some .device => throw .einval
    | _ => return s
  | _ => throw .einval

def isatty (fd : Int32) : Except Errno Int64 := do
  let _ ← s.described fd
  throw .enotty

/-- The node whose locks a description takes part in. Sockets and streams each have their own. -/
def lockedNode (id : Nat) (d : Description) : Nat :=
  match d.object with
  | .file node => 2 * node
  | _ => 2 * id + 1

inductive LockRequest where
  | shared
  | exclusive
  | unlock
deriving DecidableEq, Repr

/-- The request that a number stands for; the bit that asks not to wait does not matter to it. -/
def LockRequest.ofNumber? (operation : Int32) : Option LockRequest :=
  match (operation &&& ~~~4).toInt with
  | 1 => some .shared
  | 2 => some .exclusive
  | 8 => some .unlock
  | _ => none

/-- The bit of lock operations that are accepted and ignored. -/
def mandatoryLockBit : Int32 := 32

/-- Lock or unlock an open file. A lock that is already held is given up before the new one is tried
for, so it is lost if that fails. -/
def flock (fd operation : Int32) : Except Errno Unit × Posix :=
  if operation &&& mandatoryLockBit ≠ 0 then (.ok (), s)
  else
    match LockRequest.ofNumber? operation with
    | none => (.error .einval, s)
    | some request =>
      match s.described fd with
      | .error e => (.error e, s)
      | .ok (id, d) =>
        let node := lockedNode id d
        let kept := s.locks.filter (·.description ≠ id)
        match request with
        | .unlock => (.ok (), { s with locks := kept })
        | request =>
          let exclusive := request == .exclusive
          if s.locks.contains ⟨node, id, exclusive⟩ then (.ok (), s)
          else if kept.any fun l => l.node = node && (l.exclusive || exclusive) then
            (.error .eagain, { s with locks := kept })
          else (.ok (), { s with locks := ⟨node, id, exclusive⟩ :: kept })

def settableFlags : UInt32 := 0x46C00

/-- The flag that asks for transfers past the system's buffers, which only files offer. -/
def directFlag : UInt32 := 0x4000

def fcntl (fd command argument : Int32) : Except Errno (Int64 × Posix) := do
  let (n, d) ← s.descriptor fd
  let (id, description) ← s.described fd
  let duplicate (closeOnExec : Bool) : Except Errno (Int64 × Posix) :=
    let limit := ((s.limits.lookup descriptorResource).map Limit.soft).getD Limit.infinity
    match slotOf argument with
    | some low =>
      if low < limit.toNat then .ok (s.addDescriptor low { d with closeOnExec := closeOnExec })
      else .error .einval
    | none => .error .einval
  match command.toInt with
  | 0 => duplicate false
  | 1 => return (if d.closeOnExec then 1 else 0, s)
  | 2 =>
    let d := { d with closeOnExec := argument &&& 1 ≠ 0 }
    return (0, { s with descriptors := (n, d) :: s.descriptors.filter (·.1 ≠ n) })
  | 3 => return (Int64.ofNat description.flags.toNat, s)
  | 4 =>
    let isFile := match description.object with
      | .file _ => true
      | _ => false
    if !isFile && argument.toUInt32 &&& directFlag ≠ 0 then throw .einval
    let flags (old : UInt32) : UInt32 :=
      (old &&& ~~~settableFlags) ||| (argument.toUInt32 &&& settableFlags)
    return (0, s.updateDescription id fun d => { d with flags := flags d.flags })
  | 5 | 6 | 7 | 12 | 13 | 14 | 15 | 16 | 36 | 37 | 38 => throw .efault
  | 8 => return (0, s)
  | 9 | 11 => return (0, s)
  | 10 => if 0 ≤ argument ∧ argument ≤ 64 then return (0, s) else throw .einval
  | 1025 => return (2, s)
  | 1030 => duplicate true
  | 1031 | 1032 => throw .ebadf
  | _ => throw .einval

end NativeCall.Posix
