import NativeCall.Decimal.Double
import NativeCall.Text.Reader

/-!
This module contains the tree that a document describes: tables of keys and values, each with the
place where the document gives it.
-/

namespace NativeCall.Toml

open Text (Span)

structure Key where
  name : String
  span : Span
deriving DecidableEq, Repr

/-- The keys that lead to a value or table: those of the tables around it, and its own. -/
structure KeyPath where
  parents : List Key
  last : Key
deriving DecidableEq, Repr

inductive Origin where
  | inline
  /-- The table has a header of its own, or is an element of an array of tables. -/
  | header
  /-- The header of a table inside it names the table. -/
  | implied
  | dotted
deriving DecidableEq, Repr

/-- A value or table. Tables that are only named on the way to others have no place. -/
inductive Node where
  | string (text : String) (span : Span)
  | integer (value : Int64) (span : Span)
  | float (value : Decimal.Double) (span : Span)
  | boolean (value : Bool) (span : Span)
  | date (span : Span)
  | array (items : List Node) (span : Span)
  | table (origin : Origin) (entries : List (Key × Node)) (span : Option Span)
  | tables (items : List Node) (span : Option Span)

abbrev Entries := List (Key × Node)

namespace Node

def span? : Node → Option Span
  | string _ span => some span
  | integer _ span => some span
  | float _ span => some span
  | boolean _ span => some span
  | date span => some span
  | array _ span => some span
  | table _ _ span => span
  | tables _ span => span

/-- The elements of an array, in either of its forms. -/
def items? : Node → Option (List Node)
  | array items _ | tables items _ => some items
  | _ => none

def entries? : Node → Option (List (Key × Node))
  | table _ entries _ => some entries
  | _ => none

end Node

namespace Entries

def find? (entries : Entries) (name : String) : Option Node :=
  (List.find? (·.1.name == name) entries).map (·.2)

def erase (entries : Entries) (name : String) : Entries :=
  entries.filter (·.1.name != name)

def replace (entries : Entries) (name : String) (node : Node) : Entries :=
  entries.map fun (key, old) => (key, if key.name == name then node else old)

end Entries

end NativeCall.Toml
