import NativeCall.Path

/-!
This module contains trees of files: numbered nodes, some of which are directories that give names to
other nodes.
-/

namespace NativeCall

structure Timestamp where
  seconds : Int
  nanoseconds : Nat
deriving DecidableEq, Repr

inductive FileContent where
  | regular (data : List UInt8)
  /-- A directory, the node above it, and the names in it. -/
  | directory (parent : Nat) (entries : List (Path × Nat))
  | symlink (target : Path)
  | socket
  | device
deriving DecidableEq, Repr

structure FileNode where
  content : FileContent
  mode : UInt32
  owner : UInt32
  group : UInt32
  /-- How many names the node has. A directory that has been removed has none. -/
  links : Nat
  accessed : Timestamp
  modified : Timestamp
deriving DecidableEq, Repr

namespace FileNode

def isDirectory (n : FileNode) : Bool :=
  match n.content with
  | .directory .. => true
  | _ => false

end FileNode

/-- The nodes by number. Node zero is the topmost directory. -/
structure FileTree where
  nodes : List (Nat × FileNode)
  next : Nat
deriving Repr

namespace FileTree

variable (t : FileTree)

def rootId : Nat := 0

def node? (id : Nat) : Option FileNode :=
  t.nodes.lookup id

def isDirectory (id : Nat) : Bool :=
  (t.node? id).any FileNode.isDirectory

def entries (id : Nat) : List (Path × Nat) :=
  match (t.node? id).map FileNode.content with
  | some (.directory _ entries) => entries
  | _ => []

def parent (id : Nat) : Nat :=
  match (t.node? id).map FileNode.content with
  | some (.directory parent _) => parent
  | _ => rootId

def isGone (id : Nat) : Bool :=
  match t.node? id with
  | some n => n.links == 0
  | none => true

def update (id : Nat) (f : FileNode → FileNode) : FileTree :=
  { t with nodes := t.nodes.map fun (i, n) => if i = id then (i, f n) else (i, n) }

def add (n : FileNode) : Nat × FileTree :=
  (t.next, ⟨(t.next, n) :: t.nodes, t.next + 1⟩)

def updateEntries (id : Nat) (f : List (Path × Nat) → List (Path × Nat)) : FileTree :=
  t.update id fun n =>
    match n.content with
    | .directory parent entries => { n with content := .directory parent (f entries) }
    | _ => n

def enter (directory : Nat) (name : Path) (id : Nat) : FileTree :=
  t.updateEntries directory fun entries => entries ++ [(name, id)]

def strike (directory : Nat) (name : Path) : FileTree :=
  t.updateEntries directory fun entries => entries.filter (·.1 ≠ name)

def countLinks (id : Nat) (f : Nat → Nat) : FileTree :=
  t.update id fun n => { n with links := f n.links }

def setParent (id parent : Nat) : FileTree :=
  t.update id fun n =>
    match n.content with
    | .directory _ entries => { n with content := .directory parent entries }
    | _ => n

/-- The directories from `id` up to the topmost one, at most `fuel` of them. -/
def ancestors (fuel : Nat) (id : Nat) : List Nat :=
  match fuel with
  | 0 => []
  | fuel + 1 => if id = rootId then [id] else id :: ancestors fuel (t.parent id)

def isAbove (upper id : Nat) : Bool :=
  (t.ancestors t.nodes.length id).contains upper

/-- A directory that gives the node a name, and the name. -/
def holder? (id : Nat) : Option (Nat × Path) :=
  t.nodes.findSome? fun (directory, _) =>
    ((t.entries directory).find? (·.2 = id)).map fun (name, _) => (directory, name)

/-- The names from the topmost directory down to a node, if it has a name. -/
def namesTo (fuel : Nat) (id : Nat) (below : List Path) : Option (List Path) :=
  match fuel with
  | 0 => none
  | fuel + 1 =>
    if id = rootId then some below
    else
      match t.holder? id with
      | some (directory, name) => namesTo fuel directory (name :: below)
      | none => none

/-- An absolute path of a node without links on the way, if it has a name. -/
def pathOf? (id : Nat) : Option Path :=
  (t.namesTo (t.nodes.length + 1) id []).map Path.ofNames

end FileTree

end NativeCall
