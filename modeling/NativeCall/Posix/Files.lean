import NativeCall.Posix.State

/-!
This module contains what the in-memory system does with files given by path. The process has the
privileges that let it pass every permission, execution of a file that nobody may execute apart.
-/

namespace NativeCall.Posix

variable (s : Posix)

def nodeAt (path : Path) (follow : Bool) : Except Errno Nat :=
  s.files.resolve s.cwd path follow

def access (path : Path) (mode : Int32) : Except Errno Posix := do
  if mode &&& 7 ≠ mode then throw .einval
  let id ← s.nodeAt path true
  match s.files.node? id with
  | some n =>
    if mode &&& 1 ≠ 0 && !n.isDirectory && n.mode &&& executeBits = 0 then throw .eacces
    else return s
  | none => throw .enoent

def setMode (id : Nat) (mode : UInt32) : Posix :=
  { s with files := s.files.update id fun n => { n with mode := mode &&& permissionMask } }

def chmod (path : Path) (mode : UInt32) : Except Errno Posix := do
  return s.setMode (← s.nodeAt path true) mode

/-- The id that leaves an owner or a group as it is. -/
def sameId : UInt32 := 0xFFFFFFFF

/-- Give a node an owner and a group. What is not a directory loses the right to run as its owner,
and as its group if members of the group may execute it. -/
def changeOwner (owner group : UInt32) (n : FileNode) : FileNode :=
  let lost :=
    if n.isDirectory then 0
    else if n.mode &&& groupExecuteBit ≠ 0 then setUserBit ||| setGroupBit
    else setUserBit
  { n with
    owner := if owner = sameId then n.owner else owner
    group := if group = sameId then n.group else group
    mode := n.mode &&& ~~~lost }

def chown (path : Path) (owner group : UInt32) : Except Errno Posix := do
  let id ← s.nodeAt path true
  return { s with files := s.files.update id (changeOwner owner group) }

/-- A new node that inherits the group of a directory whose set-group-id bit is set. -/
def newNodeIn (directory : Nat) (content : FileContent) (mode : UInt32) : FileNode :=
  let n := newNode content mode
  match s.files.node? directory with
  | some d =>
    if d.mode &&& setGroupBit ≠ 0 then
      { n with group := d.group, mode := if n.isDirectory then mode ||| setGroupBit else mode }
    else n
  | none => n

def create (directory : Nat) (name : Path) (content : FileContent) (mode : UInt32) :
    Nat × Posix :=
  let (id, files) := place s.files directory name (s.newNodeIn directory content mode)
  (id, { s with files := files })

def link (existing new : Path) : Except Errno Posix := do
  let id ← s.nodeAt existing false
  let (directory, name) ← s.files.vacancy s.cwd new false
  if s.files.isDirectory id then throw .eperm
  if s.files.isGone id then throw .enoent
  return { s with files := (s.files.enter directory name id).countLinks id (· + 1) }

def symlink (target path : Path) : Except Errno Posix := do
  let _ ← FileTree.start s.cwd target
  let (directory, name) ← s.files.vacancy s.cwd path false
  return (s.create directory name (.symlink target) 0o777).2

def mkdir (path : Path) (mode : UInt32) : Except Errno Posix := do
  let (directory, name) ← s.files.vacancy s.cwd path true
  let mode := mode &&& 0o1777 &&& ~~~s.umask
  return (s.create directory name (.directory directory []) mode).2

def present (directory : Nat) (name : Path) : Except Errno Nat := do
  match ← s.files.lookup directory name with
  | some id => return id
  | none => throw .enoent

def drop (directory : Nat) (name : Path) (id : Nat) : Posix :=
  { s with files := (s.files.strike directory name).countLinks id (· - 1) }

def unlink (path : Path) : Except Errno Posix := do
  let site ← s.files.siteOf s.cwd path
  match site.last with
  | .name name =>
    let id ← s.present site.directory name
    if s.files.isDirectory id then throw .eisdir
    if site.slashed then throw .enotdir
    return s.drop site.directory name id
  | _ => throw .eisdir

def rmdir (path : Path) : Except Errno Posix := do
  let site ← s.files.siteOf s.cwd path
  match site.last with
  | .name name =>
    let id ← s.present site.directory name
    if !s.files.isDirectory id then throw .enotdir
    if !(s.files.entries id).isEmpty then throw .enotempty
    return s.drop site.directory name id
  | .dot => throw .einval
  | .dotDot => throw .enotempty
  | .root => throw .ebusy

def move (source target : Nat × Path) (id : Nat) : Posix :=
  let files := (s.files.strike source.1 source.2).enter target.1 target.2 id
  { s with files := if files.isDirectory id then files.setParent id target.1 else files }

/-- Move a file or directory, in place of what stands at the target. -/
def rename (source target : Path) : Except Errno Posix := do
  let here ← s.files.siteOf s.cwd source
  let there ← s.files.siteOf s.cwd target
  match here.last, there.last with
  | .name oldName, .name newName =>
    let old ← s.present here.directory oldName
    let new? ← s.files.lookup there.directory newName
    let isDir := s.files.isDirectory old
    if !isDir && (here.slashed || there.slashed) then throw .enotdir
    if isDir && s.files.isAbove old there.directory then throw .einval
    match new? with
    | none => return s.move (here.directory, oldName) (there.directory, newName) old
    | some new =>
      if s.files.isAbove new here.directory then throw .enotempty
      if new = old then return s
      if isDir && !s.files.isDirectory new then throw .enotdir
      if !isDir && s.files.isDirectory new then throw .eisdir
      if !(s.files.entries new).isEmpty then throw .enotempty
      return (s.drop there.directory newName new).move (here.directory, oldName)
        (there.directory, newName) old
  | _, _ => throw .ebusy

def chdir (path : Path) : Except Errno Posix := do
  let id ← s.nodeAt path true
  if s.files.isDirectory id then return { s with cwd := id }
  else throw .enotdir

/-- The path of the working directory, unless it has been removed. -/
def workingDirectory : Except Errno Path :=
  match s.files.pathOf? s.cwd with
  | some path => .ok path
  | none => .error .enoent

def linkTarget (path : Path) : Except Errno Path := do
  let id ← s.nodeAt path false
  match (s.files.node? id).map FileNode.content with
  | some (.symlink target) => return target
  | _ => throw .einval

def setTimes (path : Path) (accessed modified : Timestamp) : Except Errno Posix := do
  let id ← s.nodeAt path true
  return { s with
    files := s.files.update id fun n => { n with accessed := accessed, modified := modified } }

/-- The absolute path without links to what stands at a path. -/
def canonicalize (path : Path) : Except Errno Path := do
  match s.files.pathOf? (← s.nodeAt path true) with
  | some path => return path
  | none => throw .enoent

/-- Make `data` the content of the file at a path, which is made if nothing stands there. -/
def writeFile (path : Path) (data : List UInt8) : Except Errno Posix := do
  let (id, s) ← match s.nodeAt path true with
    | .ok id => if s.files.isDirectory id then throw .eisdir else pure (id, s)
    | .error e =>
      if e = .enoent then
        let (directory, name) ← s.files.vacantEnd FileTree.maxLinks s.cwd path
        pure (s.create directory name (.regular []) (0o666 &&& ~~~s.umask))
      else throw e
  let fill (n : FileNode) : FileNode :=
    match n.content with
    | .regular _ => { n with content := .regular data }
    | _ => n
  match (s.files.node? id).map FileNode.content with
  | some .socket => throw .enxio
  | _ => return { s with files := s.files.update id fill }

def contentAt (path : Path) : Except Errno (List UInt8) := do
  match (s.files.node? (← s.nodeAt path true)).map FileNode.content with
  | some (.regular data) => return data
  | some (.directory ..) => throw .eisdir
  | some .socket => throw .enxio
  | _ => return []

def list (path : Path) : Except Errno (List Path) := do
  let id ← s.nodeAt path true
  if s.files.isDirectory id then return (s.files.entries id).map (·.1)
  else throw .enotdir

end NativeCall.Posix
