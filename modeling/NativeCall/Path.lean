/-!
This module contains paths: bytes in which slashes separate names.
-/

namespace NativeCall

abbrev Path := List UInt8

namespace Path

def slash : UInt8 := 47

def dot : Path := [46]

def dotDot : Path := [46, 46]

def root : Path := [slash]

def isAbsolute (p : Path) : Bool :=
  p.head? == some slash

def endsInSlash (p : Path) : Bool :=
  p.getLast? == some slash

def pieces (p : Path) : List Path :=
  let (current, done) := p.foldr
    (fun b (current, done) => if b = slash then ([], current :: done) else (b :: current, done))
    ([], [])
  current :: done

def names (p : Path) : List Path :=
  p.pieces.filter (!·.isEmpty)

/-- The names that a lookup passes. A slash at the end is a visit to the directory itself. -/
def steps (p : Path) : List Path :=
  if p.endsInSlash then p.names ++ [dot] else p.names

/-- `path` as seen from the directory at `base`. An absolute path stands for itself; otherwise a
slash goes in between unless one is there already. -/
def join (base path : Path) : Path :=
  if path.isAbsolute then path
  else if base.isEmpty || base.endsInSlash then base ++ path
  else base ++ slash :: path

def ofNames (names : List Path) : Path :=
  if names.isEmpty then root else names.flatMap (slash :: ·)

end Path

end NativeCall
