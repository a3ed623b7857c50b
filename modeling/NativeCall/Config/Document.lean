import NativeCall.Config.Format
import NativeCall.Text.Quoted
import NativeCall.Toml.Document
import NativeCall.Toml.Excerpt

/-!
This module contains the format of documents: what the values in them are decoded as, and the complaint
about one that cannot be decoded.
-/

namespace NativeCall

open Toml
open Text (Span)

inductive ShapeFault where
  | mistyped (value : Node) (expected : String)
  | missing (name : String)
  | tooShort (length : Nat) (record : String) (fields : Nat)
  | unknownFilter (name : String)
  | notNamed
  | namedNever
  | namedTwice
  | notEmpty (value : Node)

namespace ShapeFault

def describe : Node → String
  | .string text _ => s!"string {Text.quote text}"
  | .integer n _ => s!"integer `{n.toInt}`"
  | .float d _ =>
    let text := d.format ⟨1, none⟩
    s!"floating point `{text}`"
  | .boolean b _ => s!"boolean `{b}`"
  | .date _ | .table .. => "map"
  | .array .. | .tables .. => "sequence"

def emptiness : Node → String
  | .string .. => "expected table, found string"
  | .integer .. => "expected table, found integer"
  | .float .. => "expected table, found float"
  | .boolean .. => "expected table, found boolean"
  | .date .. => "expected table, found datetime"
  | .tables .. => "expected empty array"
  | .array .. | .table .. => "expected empty table"

def message : ShapeFault → String
  | mistyped value expected => s!"invalid type: {describe value}, expected {expected}"
  | missing name => s!"missing field `{name}`"
  | tooShort length record fields =>
    let elements := if fields = 1 then "element" else "elements"
    s!"invalid length {length}, expected struct {record} with {fields} {elements}"
  | unknownFilter name =>
    let names := ", ".intercalate (LevelFilter.all.map fun f => s!"`{f.name}`")
    s!"unknown variant `{name}`, expected one of {names}"
  | notNamed => "wanted string or table"
  | namedNever => "wanted exactly 1 element, found 0 elements"
  | namedTwice => "wanted exactly 1 element, more than 1 element"
  | notEmpty value => emptiness value

end ShapeFault

/-- A fault, and the part of the document that is to blame for it. -/
structure ShapeError where
  fault : ShapeFault
  span : Span

inductive ConfigError where
  | malformed
  | misshapen (error : ShapeError)

namespace ConfigError

def message : ConfigError → String
  | malformed => "invalid TOML document"
  | misshapen e => e.fault.message

def report (text : String) : ConfigError → String
  | malformed => "invalid TOML document"
  | misshapen e => complaint e.span text e.fault.message

end ConfigError

abbrev Shaped := Except ConfigError

def misshapen {α : Type} (fault : ShapeFault) (span : Span) : Shaped α :=
  .error (.misshapen ⟨fault, span⟩)

/-- A value, and the part of the document to blame for it: its own place, or that of its key or of what
it stands in. -/
structure Item where
  node : Node
  span : Span

namespace Item

def entries? (v : Item) : Option (List (String × Item)) :=
  v.node.entries?.map fun entries =>
    entries.map fun (key, node) => (key.name, ⟨node, node.span?.getD key.span⟩)

def items? (v : Item) : Option (List Item) :=
  v.node.items?.map fun items => items.map fun node => ⟨node, node.span?.getD v.span⟩

def boolean (v : Item) : Shaped Bool :=
  match v.node with
  | .boolean b _ => .ok b
  | node => misshapen (.mistyped node "a boolean") v.span

def filterNamed (name : String) (span : Span) : Shaped LevelFilter :=
  match LevelFilter.ofName? name with
  | some filter => .ok filter
  | none => misshapen (.unknownFilter name) span

/-- Nothing stands behind the name of a filter: `node` has no elements or entries. -/
def checkEmpty (node : Node) (span : Span) : Shaped Unit :=
  match node with
  | .array [] _ | .tables [] _ | .table _ [] _ => .ok ()
  | node => misshapen (.notEmpty node) (node.span?.getD span)

/-- The filter that a value stands for: a text, or a table whose only key is the name. -/
def levelFilter (v : Item) : Shaped LevelFilter :=
  match v.node with
  | .string name _ => filterNamed name v.span
  | .table _ [] _ => misshapen .namedNever v.span
  | .table _ [(key, node)] _ => do
    let filter ← filterNamed key.name key.span
    checkEmpty node v.span
    return filter
  | .table .. => misshapen .namedTwice v.span
  | _ => misshapen .notNamed v.span

section

variable {δ σ : Type} (declared : Record Item ConfigError δ σ)

def conclude (v : Item) (fault : String → ShapeFault) (d : δ) : Shaped σ :=
  match declared.finish d with
  | .ok s => .ok s
  | .error name => misshapen (fault name) v.span

/-- A record is decoded from a table by the names of its fields, and from an array by their places. A
date is a table without any of them. -/
def record (v : Item) : Shaped σ :=
  match v.entries?, v.items? with
  | some entries, _ => do
    let d ← entries.foldlM declared.visit declared.start
    v.conclude declared .missing d
  | none, some items => do
    let d ← (declared.fields.zip items).foldlM (fun d (field, item) => field.put item d)
      declared.start
    v.conclude declared (fun _ => .tooShort items.length declared.name declared.fields.length) d
  | none, none =>
    match v.node with
    | .date _ => v.conclude declared .missing declared.start
    | node => misshapen (.mistyped node s!"struct {declared.name}") v.span

end

end Item

def Toml.Document.item (document : Document) : Item :=
  ⟨.table .header document.entries none, ⟨0, 0⟩⟩

namespace Format

@[reducible]
def toml : Format where
  Value := Item
  Fault := ConfigError
  read text :=
    match Document.read? text with
    | some document => .ok document.item
    | none => .error .malformed
  entries? := Item.entries?
  boolean := Item.boolean
  levelFilter := Item.levelFilter
  record := Item.record

end Format

end NativeCall
