import NativeCall.Net.Resolver

/-!
This module contains chains of address descriptions in memory, the form in which a resolution hands
over its results. A description has 48 bytes: flags, family, socket type and protocol in four bytes
each, the length of the endpoint in eight, and the addresses of the endpoint, of the canonical name
and of the next description in eight each.
-/

namespace NativeCall.Net.AddressInfo

def size : Nat := 48

/-- Where in a description the address of the next one stands. -/
def nextOffset : Nat := 40

def readHints (m : Memory) (address : Nat) : Hints :=
  let field (i : Nat) : Nat := ofLittleEndian (m.read (address + 4 * i) 4)
  ⟨field 0, field 1, field 2, field 3⟩

/-- The bytes of a description, with the endpoint that follows it at `base + size`. -/
def encode (base : Nat) (r : Resolved) (name next : Nat) : List UInt8 :=
  let endpoint := r.endpoint.encode
  littleEndian 4 r.flags ++ littleEndian 4 r.endpoint.family ++ littleEndian 4 r.socketType ++
    littleEndian 4 r.protocol ++ littleEndian 8 endpoint.length ++
    littleEndian 8 (base + size) ++ littleEndian 8 name ++ littleEndian 8 next ++ endpoint

/-- Write a chain of descriptions, of which the first refers to the canonical name at `name`. Gives
its address. -/
def writeChain (name : Nat) : List Resolved → Memory → Nat × Memory
  | [], m => (0, m)
  | r :: rest, m =>
    let (next, m) := writeChain 0 rest m
    m.allocate (encode m.frontier r name next).toArray

def release (fuel : Nat) (address : Nat) (m : Memory) : Memory :=
  match fuel with
  | 0 => m
  | fuel + 1 =>
    if address = 0 then m
    else
      let next := ofLittleEndian (m.read (address + nextOffset) 8)
      release fuel next (m.release address)

structure Entry where
  family : Nat
  socketType : Nat
  protocol : Int32
  endpoint : List UInt8
deriving DecidableEq, Repr

/-- The entries of the chain that starts at an address, at most `fuel` of them. -/
def readChain (fuel : Nat) (address : Nat) (m : Memory) : List Entry :=
  match fuel with
  | 0 => []
  | fuel + 1 =>
    if address = 0 then []
    else
      let field (offset width : Nat) : Nat := ofLittleEndian (m.read (address + offset) width)
      let protocol := (UInt32.ofNat (field 12 4)).toInt32
      ⟨field 4 4, field 8 4, protocol, m.read (field 24 8) (field 16 4)⟩ ::
        readChain fuel (field nextOffset 8) m

end NativeCall.Net.AddressInfo
