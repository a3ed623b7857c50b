import NativeCall.Errno
import NativeCall.Posix.FileTree

/-!
This module contains the walk along a path: from a starting directory through names, links and
parents to a node, or to the directory and the name at which a node would be made.
-/

namespace NativeCall

def Path.maxLength : Nat := 4096

def Path.maxName : Nat := 255

namespace FileTree

def maxLinks : Nat := 40

def lookup (t : FileTree) (directory : Nat) (name : Path) : Except Errno (Option Nat) :=
  if t.isGone directory then .error .enoent
  else if Path.maxName < name.length then .error .enametoolong
  else .ok ((t.entries directory).lookup name)

/-- Walk from `here` along `steps`; a link at the end is followed only if `follow` says so. -/
def walk (t : FileTree) (follow : Bool) (links here : Nat) (steps : List Path) :
    Except Errno Nat :=
  match steps with
  | [] => .ok here
  | name :: rest =>
    if !t.isDirectory here then .error .enotdir
    else if name = Path.dot then t.walk follow links here rest
    else if name = Path.dotDot then t.walk follow links (t.parent here) rest
    else
      match t.lookup here name with
      | .error e => .error e
      | .ok none => .error .enoent
      | .ok (some id) =>
        match (t.node? id).map FileNode.content with
        | some (.symlink target) =>
          if rest.isEmpty && !follow then .ok id
          else
            match links with
            | 0 => .error .eloop
            | links + 1 =>
              let start := if target.isAbsolute then rootId else here
              t.walk follow links start (target.steps ++ rest)
        | _ => t.walk follow links id rest
termination_by (links, steps.length)

/-- Where a walk along `path` starts, if the path can be walked along at all. -/
def start (cwd : Nat) (path : Path) : Except Errno Nat :=
  if path.isEmpty then .error .enoent
  else if Path.maxLength ≤ path.length then .error .enametoolong
  else .ok (if path.isAbsolute then rootId else cwd)

/-- The node at a path; a link at its end is followed if `follow` says so. -/
def resolve (t : FileTree) (cwd : Nat) (path : Path) (follow : Bool) : Except Errno Nat := do
  let here ← start cwd path
  t.walk follow maxLinks here path.steps

inductive LastStep where
  | name (name : Path)
  | dot
  | dotDot
  | root
deriving DecidableEq, Repr

def LastStep.ofPath (path : Path) : LastStep :=
  match path.names.getLast? with
  | none => .root
  | some last =>
    if last = Path.dot then .dot else if last = Path.dotDot then .dotDot else .name last

structure Site where
  directory : Nat
  last : LastStep
  slashed : Bool

def siteOf (t : FileTree) (cwd : Nat) (path : Path) : Except Errno Site := do
  let here ← start cwd path
  let directory ← t.walk true maxLinks here path.names.dropLast
  if t.isDirectory directory then
    return ⟨directory, LastStep.ofPath path, path.endsInSlash⟩
  else throw .enotdir

/-- The directory and the name at which a path would make a new node. A slash at the end of the path
is for directories only. -/
def vacancy (t : FileTree) (cwd : Nat) (path : Path) (directory : Bool) :
    Except Errno (Nat × Path) := do
  let site ← t.siteOf cwd path
  match site.last with
  | .name name =>
    match ← t.lookup site.directory name with
    | some _ => throw .eexist
    | none =>
      if site.slashed && !directory then throw .enoent
      else return (site.directory, name)
  | _ => throw .eexist

/-- The directory and the name at which a path would make a regular file, behind the links at its
end; `links` of them are followed. -/
def vacantEnd (t : FileTree) (links cwd : Nat) (path : Path) : Except Errno (Nat × Path) := do
  let site ← t.siteOf cwd path
  match site.last with
  | .name name =>
    if site.slashed then throw .eisdir
    match ← t.lookup site.directory name with
    | none => return (site.directory, name)
    | some id =>
      match (t.node? id).map FileNode.content, links with
      | some (.symlink target), links + 1 => t.vacantEnd links site.directory target
      | some (.symlink _), 0 => throw .eloop
      | _, _ => throw .eexist
  | _ => throw .eisdir

end FileTree

end NativeCall
