import NativeCall.Net.Endpoint

/-!
This module contains the resolution of numeric hosts and services to endpoints, and back. No name
service is asked: a name that is not a number is not found.
-/

namespace NativeCall.Net

inductive ResolveError where
  | badFlags
  | noName
  | family
  | socketType
  | service
  /-- The host has no address of the family asked for. -/
  | addressFamily
  | overflow
deriving DecidableEq, Repr

def ResolveError.code : ResolveError → Int64
  | badFlags => -1
  | noName => -2
  | family => -6
  | socketType => -7
  | service => -8
  | addressFamily => -9
  | overflow => -12

structure Hints where
  flags : Nat
  family : Nat
  socketType : Nat
  protocol : Nat
deriving DecidableEq, Repr

namespace Hints

/-- The hints that stand in for missing ones: nothing in particular, addresses of four bytes as ones
of sixteen if need be, and only families in use. -/
def default : Hints := ⟨0x28, 0, 0, 0⟩

def knownFlags : Nat := 0x7FF

def canonicalName : Nat := 0x2

/-- The flag that accepts addresses of four bytes as ones of sixteen. -/
def mapped : Nat := 0x8

/-- The flag that keeps services from being looked up by name. -/
def numericService : Nat := 0x400

def has (h : Hints) (flag : Nat) : Bool :=
  h.flags &&& flag ≠ 0

end Hints

/-- A transport: the type of its sockets and its protocol. -/
structure Transport where
  socketType : Nat
  protocol : Nat
  raw : Bool
  /-- It is among the results when none is asked for in particular. -/
  common : Bool
deriving DecidableEq, Repr

def transports : List Transport := [
  ⟨1, 6, false, true⟩, ⟨2, 17, false, true⟩, ⟨6, 33, false, false⟩, ⟨2, 136, false, false⟩,
  ⟨1, 132, false, false⟩, ⟨5, 132, false, false⟩, ⟨3, 0, true, true⟩]

/-- The number at the beginning of a text and what follows it: blanks and a sign may come first, and
the sign of a negative number wraps it around. Too large a number stands for the largest. -/
def leadingNumber (text : List Char) : Nat × List Char :=
  let blank (c : Char) : Bool := c = ' ' || ('\t' ≤ c && c ≤ '\r')
  let body := text.dropWhile blank
  let (negative, digits) :=
    match body with
    | '-' :: rest => (true, rest)
    | '+' :: rest => (false, rest)
    | rest => (false, rest)
  let number := digits.takeWhile Char.isDigit
  if number.isEmpty then (0, text)
  else
    let n := (Text.digitsValue 10 number).getD 0
    let n :=
      if UInt64.size ≤ n then UInt64.size - 1
      else if negative then (UInt64.size - n) % UInt64.size
      else n
    (n, digits.dropWhile Char.isDigit)

/-- A service to resolve: none, a port, or a name that is not a number. -/
inductive Service where
  | unspecified
  | port (number : Nat)
  | named
deriving DecidableEq, Repr

/-- Read a service. An empty one is none; a number counts by its low 32 bits, which have to be
positive as a signed number, and its low 16 bits are the port. -/
def Service.ofText (text : Option (List Char)) (hints : Hints) : Except ResolveError Service :=
  match text with
  | none => .ok .unspecified
  | some [] => .ok .unspecified
  | some text =>
    match leadingNumber text with
    | (n, []) =>
      let n := n % UInt32.size
      if n < 0x80000000 then .ok (.port (n % UInt16.size)) else .ok .named
    | _ => if hints.has Hints.numericService then .error .noName else .ok .named

def endpointsFor (hints : Hints) (service : Service) :
    Except ResolveError (List (Nat × Nat × Nat)) := do
  let suits (t : Transport) : Bool :=
    (hints.socketType = 0 || hints.socketType = t.socketType) &&
      (hints.protocol = 0 || t.raw || hints.protocol = t.protocol)
  match transports.find? suits with
  | none => throw (if hints.socketType ≠ 0 then .socketType else .service)
  | some t =>
    if t.raw ∧ service ≠ .unspecified then throw .service
    let port ← match service with
      | .unspecified => pure 0
      | .port n => pure n
      | .named => throw .service
    if hints.socketType = 0 ∧ hints.protocol = 0 then
      return (transports.filter Transport.common).map fun t => (t.socketType, t.protocol, port)
    else return [(t.socketType, if t.raw then hints.protocol else t.protocol, port)]

/-- An address of sixteen bytes that is meant on one link only. -/
def isLinkLocal (address : List UInt8) : Bool :=
  match address with
  | 0xFE :: b :: _ => b &&& 0xC0 = 0x80
  | 0xFF :: b :: _ => b &&& 0x0F = 2
  | _ => false

/-- The name and the number of the one link that every machine has, the one to itself. -/
def loopback : String × Nat := ("lo", 1)

/-- The scope that the text behind a percent sign spells for an address: a number, or the name of a
link if the address is meant on one. -/
def scopeValue? (address : List UInt8) (text : List Char) : Option Nat := do
  if text.isEmpty then none
  else if isLinkLocal address && text = loopback.1.toList then some loopback.2
  else (← Text.digitsValue 10 text) |> fun n => if n < UInt32.size then some n else none

def scopeText (address : List UInt8) (scope : Nat) : String :=
  if isLinkLocal address && scope = loopback.2 then loopback.1 else toString scope

def hostAddress (host : List Char) (hints : Hints) : Except ResolveError Endpoint := do
  match parseV4 host with
  | some bytes =>
    if hints.family = anyFamily ∨ hints.family = v4Family then return .v4 bytes 0
    else if hints.has Hints.mapped then return .v6 (mapV4 bytes) 0 0
    else throw .addressFamily
  | none =>
    match parseV6 (host.takeWhile (· ≠ '%')) with
    | none => throw .noName
    | some bytes =>
      let endpoint ←
        if hints.family = anyFamily ∨ hints.family = v6Family then
          pure (Endpoint.v6 bytes 0 0)
        else
          match unmapV4? bytes with
          | some v4 => pure (Endpoint.v4 v4 0)
          | none => throw .addressFamily
      match host.dropWhile (· ≠ '%'), endpoint with
      | [], endpoint => return endpoint
      | _ :: scope, endpoint =>
        match scopeValue? bytes scope, endpoint with
        | some n, .v6 bytes port _ => return .v6 bytes port n
        | some _, endpoint => return endpoint
        | none, _ => throw .noName

structure Resolved where
  flags : Nat
  socketType : Nat
  protocol : Nat
  endpoint : Endpoint
deriving DecidableEq, Repr

def resolve (host : List Char) (service : Option (List Char)) (hints : Hints) :
    Except ResolveError (List Resolved) := do
  if hints.flags ||| Hints.knownFlags ≠ Hints.knownFlags then throw .badFlags
  unless [anyFamily, v4Family, v6Family].contains hints.family do throw .family
  let service ← Service.ofText service hints
  let triples ← endpointsFor hints service
  let endpoint ← hostAddress host hints
  return triples.map fun (socketType, protocol, port) =>
    let endpoint :=
      match endpoint with
      | .v4 address _ => Endpoint.v4 address port
      | .v6 address _ scope => Endpoint.v6 address port scope
    ⟨hints.flags, socketType, protocol, endpoint⟩

def nameFlags : Nat := 0xFF

def numericHostFlag : Nat := 0x1

def nameRequiredFlag : Nat := 0x8

def hostText : Endpoint → String
  | .v4 address _ => formatV4 address
  | .v6 address _ scope =>
    if scope = 0 then formatV6 address
    else s!"{formatV6 address}%{scopeText address scope}"

def serviceText : Endpoint → String
  | .v4 _ port => toString port
  | .v6 _ port _ => toString port

end NativeCall.Net
