import NativeCall.Memory.Store
import NativeCall.Net.Address

/-!
This module contains endpoints, addresses together with ports, and their form in memory.
-/

namespace NativeCall.Net

def anyFamily : Nat := 0

def localFamily : Nat := 1

def v4Family : Nat := 2

def v6Family : Nat := 10

/-- An address, its port, and the scope in which an address of sixteen bytes is meant. -/
inductive Endpoint where
  | v4 (address : List UInt8) (port : Nat)
  | v6 (address : List UInt8) (port scope : Nat)
deriving DecidableEq, Repr

namespace Endpoint

def family : Endpoint → Nat
  | v4 .. => v4Family
  | v6 .. => v6Family

def encode : Endpoint → List UInt8
  | v4 address port =>
    littleEndian 2 v4Family ++ bigEndian 2 port ++ address ++ List.replicate 8 0
  | v6 address port scope =>
    littleEndian 2 v6Family ++ bigEndian 2 port ++ List.replicate 4 0 ++ address ++
      littleEndian 4 scope

def size? (family : Nat) : Option Nat :=
  if family = v4Family then some 16 else if family = v6Family then some 28 else none

def decode? (bytes : List UInt8) : Option Endpoint := do
  let family := ofLittleEndian (bytes.take 2)
  if bytes.length < (← size? family) then none
  else
    let port := ofBigEndian ((bytes.drop 2).take 2)
    if family = v4Family then return v4 ((bytes.drop 4).take 4) port
    else
      return v6 ((bytes.drop 8).take 16) port (ofLittleEndian ((bytes.drop 24).take 4))

end Endpoint

end NativeCall.Net
