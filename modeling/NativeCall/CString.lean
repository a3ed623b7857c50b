import NativeCall.Text.Utf8

/-!
This module contains the strings that native calls take: bytes that end at the first zero.
-/

namespace NativeCall

/-- Bytes without a zero among them. In memory a zero follows them. -/
structure CString where
  bytes : List UInt8
  nul_free : 0 ∉ bytes
deriving DecidableEq, Repr

namespace CString

/-- The string with the bytes of a text; none if the text contains a zero. -/
def ofText? (text : String) : Option CString :=
  let bytes := Text.encode text
  if h : 0 ∈ bytes then none else some ⟨bytes, h⟩

def terminated (s : CString) : List UInt8 :=
  s.bytes ++ [0]

def text (s : CString) : String :=
  Text.decodeLossy s.bytes

end CString

end NativeCall
