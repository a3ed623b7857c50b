import NativeCall.Config
import NativeCall.Log.Pattern
import NativeCall.Text.WhiteSpace

/-!
This module contains the selection of log lines by their level, target and text, and the
specifications by which a user asks for one.
-/

namespace NativeCall

/-- Up to which level lines are let through whose target starts with a certain name, or the lines that
nothing else is said about. -/
structure Directive where
  target : Option String
  level : LevelFilter
deriving DecidableEq, Repr

namespace Directive

/-- How particular a directive is, in bytes of the name that targets have to start with. -/
def length (d : Directive) : Nat :=
  (d.target.map String.utf8ByteSize).getD 0

def covers (d : Directive) (target : LogTarget) : Bool :=
  match d.target with
  | none => true
  | some name => name.toList.isPrefixOf target.name.toList

end Directive

structure LogFilter where
  directives : List Directive
  pattern : Option Pattern

namespace LogFilter

def ofLevel (level : LevelFilter) : LogFilter :=
  ⟨[⟨none, level⟩], none⟩

/-- The filter with another directive, which takes the place of the one with the same name. -/
def insert (f : LogFilter) (d : Directive) : LogFilter :=
  if f.directives.any (·.target == d.target) then
    { f with directives := f.directives.map fun old => if old.target == d.target then d else old }
  else { f with directives := f.directives ++ [d] }

/-- The most particular directive about a target, of equally particular ones the last. -/
def decisive? (f : LogFilter) (target : LogTarget) : Option Directive :=
  (f.directives.filter (·.covers target)).foldl pick none
where
  pick (best : Option Directive) (d : Directive) : Option Directive :=
    match best with
    | none => some d
    | some b => if b.length ≤ d.length then some d else best

def allows (f : LogFilter) (line : LogLine) : Bool :=
  ((f.decisive? line.target).map (·.level.allows line.level)).getD false &&
    (f.pattern.map (·.isIn line.text)).getD true

/-! ### Specifications -/

inductive SpecFault where
  | directive (part : String)
  | slashes (spec : String)
  | pattern (text : String)
deriving DecidableEq, Repr

def SpecFault.warning : SpecFault → String
  | directive part => s!"warning: invalid logging spec '{part}', ignoring it"
  | slashes spec => s!"warning: invalid logging spec '{spec}' (too many '/'s), ignoring it"
  | pattern text => s!"warning: invalid regex filter - regex parse error: {text}, ignoring it"

/-- The directive that a part of a specification spells: a level for everything, a name, or a name and
a level. A name without a level stands for all lines. -/
def readDirective (part : String) : Except SpecFault Directive :=
  let everything := LevelFilter.upTo .trace
  match part.splitOn "=" with
  | [word] =>
    match LevelFilter.ofName? word with
    | some level => .ok ⟨none, level⟩
    | none => .ok ⟨some word, everything⟩
  | [name, level] =>
    let level := String.ofList (Text.trim level.toList)
    if level.isEmpty then .ok ⟨some name, everything⟩
    else
      match LevelFilter.ofName? level with
      | some level => .ok ⟨some name, level⟩
      | none => .error (.directive level)
  | _ => .error (.directive part)

def readDirectives (text : String) : List (Except SpecFault Directive) :=
  let parts := (text.splitOn ",").map fun part => String.ofList (Text.trim part.toList)
  (parts.filter (!·.isEmpty)).map readDirective

/-- The filter after a specification, and what is wrong with it. A slash separates the directives from
a pattern. -/
def specify (f : LogFilter) (spec : String) : LogFilter × List SpecFault :=
  let take (f : LogFilter) (read : List (Except SpecFault Directive)) : LogFilter :=
    (read.filterMap Except.toOption).foldl insert f
  let faults (read : List (Except SpecFault Directive)) : List SpecFault :=
    read.filterMap fun r =>
      match r with
      | .error fault => some fault
      | .ok _ => none
  match spec.splitOn "/" with
  | [] => (f, [])
  | [directives] =>
    let read := readDirectives directives
    (take f read, faults read)
  | [directives, text] =>
    let read := readDirectives directives
    match Pattern.parse? text with
    | some pattern => ({ take f read with pattern := some pattern }, faults read)
    | none => (take f read, faults read ++ [.pattern text])
  | _ => (f, [.slashes spec])

end LogFilter

end NativeCall
