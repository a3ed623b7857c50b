import NativeCall.Toml.Value

/-!
This module contains documents: the statements on their lines, and the tree that these build up.
-/

namespace NativeCall.Toml

open Text (Span)

inductive Statement where
  | table (path : KeyPath) (span : Span)
  /-- The statements behind this one are about a new element of the array of tables at `path`. -/
  | element (path : KeyPath) (span : Span)
  | assign (path : KeyPath) (value : Node)

namespace Grammar

open Text Reader

def header : Reader Statement := do
  let bracketed (left right : String) : Reader (KeyPath × Span) :=
    spanned do
      text left
      let path ← keyPath
      text right
      return path
  (do let (path, span) ← bracketed "[[" "]]"; return .element path span) <|>
    (do let (path, span) ← bracketed "[" "]"; return .table path span)

def assignment : Reader Statement := do
  let path ← keyPath
  char '='
  blanks
  return .assign path (← value)

def line : Reader (Option Statement) :=
  (do comment; lineStop; return none)
    <|> (do lineEnd; return none)
    <|> (do let s ← header <|> assignment; trailing; return some s)

def statements : Reader (List Statement) := do
  let _ ← optional (char '\uFEFF')
  blanks
  let lines ← many do
    let l ← line
    blanks
    return l
  return lines.filterMap id

end Grammar

inductive Place where
  | top
  | table (path : KeyPath)
  | element (path : KeyPath)

/-- A tree that is being built up, apart from the table that the statements are about. -/
structure Draft where
  tree : Entries
  place : Place
  entries : Entries
  span : Span

namespace Draft

def empty : Draft := ⟨[], .top, [], ⟨0, 0⟩⟩

def close (d : Draft) : Option Entries :=
  let node := Node.table .header d.entries d.span
  let put (path : KeyPath) (change : Edit Unit) : Option Entries :=
    ((Edit.within .implied (fun _ => change) .header path.parents).run d.tree).map (·.2)
  match d.place with
  | .top => some d.entries
  | .table path => put path fun entries => some ((), entries ++ [(path.last, node)])
  | .element path => put path fun entries =>
    match entries.find? path.last.name with
    | some (.tables items _) =>
      let items := items ++ [node]
      let start := ((items.head?.bind Node.span?).getD d.span).start
      some ((), entries.replace path.last.name (.tables items (some ⟨start, d.span.stop⟩)))
    | _ => none

/-- The statements behind are about the table at `path`. It is new, or only the headers of tables
inside it have named it. -/
def beginTable (d : Draft) (path : KeyPath) (span : Span) : Option Draft := do
  let change : Edit Entries := fun entries =>
    match entries.find? path.last.name with
    | none => some ([], entries)
    | some (.table .implied inner _) => some (inner, entries.erase path.last.name)
    | some _ => none
  let (inner, tree) ←
    (Edit.within .implied (fun _ => change) .header path.parents).run (← d.close)
  return ⟨tree, .table path, inner, span⟩

/-- The statements behind are about a new element of the array of tables at `path`. -/
def beginElement (d : Draft) (path : KeyPath) (span : Span) : Option Draft := do
  let change : Edit Unit := fun entries =>
    match entries.find? path.last.name with
    | none => some ((), entries ++ [(path.last, .tables [] none)])
    | some (.tables ..) => some ((), entries)
    | some _ => none
  let ((), tree) ←
    (Edit.within .implied (fun _ => change) .header path.parents).run (← d.close)
  return ⟨tree, .element path, [], span⟩

def state (d : Draft) : Statement → Option Draft
  | .table path span => d.beginTable path span
  | .element path span => d.beginElement path span
  | .assign path value => do
    let ((), entries) ← (Edit.assign path value).run d.entries
    return { d with entries, span.stop := (value.span?.getD d.span).stop }

end Draft

structure Document where
  entries : Entries

namespace Document

def ofStatements? (statements : List Statement) : Option Document := do
  let draft ← statements.foldlM Draft.state Draft.empty
  return ⟨← draft.close⟩

def read? (text : String) : Option Document := do
  ofStatements? (← Grammar.statements.run text)

end Document

end NativeCall.Toml
