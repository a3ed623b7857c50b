/-!
This module contains the environment: a map from names to values in which neither holds a zero and a
name is neither empty nor holds an equals sign.
-/

namespace NativeCall

/-- Variables with their values, in the order in which they were added. -/
abbrev Environment := List (List UInt8 × List UInt8)

namespace Environment

variable (env : Environment)

def equalsSign : UInt8 := 61

def isName (name : List UInt8) : Bool :=
  !name.isEmpty && !name.contains equalsSign

def get? (name : List UInt8) : Option (List UInt8) :=
  env.lookup name

def put (name value : List UInt8) : Environment :=
  if (env.get? name).isSome then env.map fun (n, v) => if n = name then (n, value) else (n, v)
  else env ++ [(name, value)]

def erase (name : List UInt8) : Environment :=
  env.filter (·.1 ≠ name)

end Environment

end NativeCall
