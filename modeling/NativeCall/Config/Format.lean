import NativeCall.Config

/-!
This module contains the reading of a configuration from a document. The format of the document, with
the derived decoding of its tables, comes from libraries and is a parameter.
-/

namespace NativeCall

/-- A field of a record: how a value `ν` of its entry is decoded and kept in a draft `δ`. -/
structure Field (ν ε δ : Type) where
  name : String
  put : ν → δ → Except ε δ

/-- What the decoding of a record `σ` is derived from. A draft that lacks a field which has no default
gives the name of that field. -/
structure Record (ν ε δ σ : Type) where
  name : String
  fields : List (Field ν ε δ)
  start : δ
  finish : δ → Except String σ

/-- Take in an entry of a table; one that no field is for says nothing. -/
def Record.visit {ν ε δ σ : Type} (declared : Record ν ε δ σ) (d : δ) (entry : String × ν) :
    Except ε δ :=
  match declared.fields.find? (·.name == entry.1) with
  | some field => field.put entry.2 d
  | none => .ok d

structure Format where
  Value : Type
  Fault : Type
  /-- The table that a document is, unless it is none. -/
  read : String → Except Fault Value
  /-- The keys and values of a table; none of any other value. -/
  entries? : Value → Option (List (String × Value))
  boolean : Value → Except Fault Bool
  levelFilter : Value → Except Fault LevelFilter
  /-- The decoding that is derived for a record. -/
  record : {δ σ : Type} → Record Value Fault δ σ → Value → Except Fault σ

def Format.loggerConfig (format : Format) :
    Record format.Value format.Fault (Option LevelFilter) LevelFilter where
  name := "LoggerConfig"
  fields := [⟨"level_filter", fun v _ => return some (← format.levelFilter v)⟩]
  start := none
  finish
    | some filter => .ok filter
    | none => .error "level_filter"

namespace BindingConfig

/-- A configuration of which not all fields are known. -/
structure Draft where
  logger : Option LevelFilter := none
  traceCalls : Option Bool := none
  logOsErrors : Option Bool := none

def Draft.getD (d : Draft) (c : BindingConfig) : BindingConfig where
  logger := d.logger.getD c.logger
  traceCalls := d.traceCalls.getD c.traceCalls
  logOsErrors := d.logOsErrors.getD c.logOsErrors

def declared (format : Format) : Record format.Value format.Fault Draft BindingConfig where
  name := "BindingConfig"
  fields := [
    ⟨"logger", fun v d => return { d with logger := ← format.record format.loggerConfig v }⟩,
    ⟨"trace_calls", fun v d => return { d with traceCalls := ← format.boolean v }⟩,
    ⟨"log_os_errors", fun v d => return { d with logOsErrors := ← format.boolean v }⟩]
  start := {}
  finish d := .ok (d.getD {})

def parse (format : Format) (text : String) : Except format.Fault BindingConfig := do
  format.record (declared format) (← format.read text)

end BindingConfig

end NativeCall
