import NativeCall.Errno
import NativeCall.Primitive
import NativeCall.Variant

/-!
This module contains outcomes, the raw results of call paths, and plans: a native request together
with the outcome that its answer means.
-/

namespace NativeCall

/-- The raw result of a call path, before the operation's policy is applied. -/
inductive Outcome where
  /-- The result of a native call that reports failure by `-1`. -/
  | status (result : Except Errno Int64)
  /-- A value made from the result of a native call that can fail. -/
  | value (result : Except Errno Variant)
  /-- An integer that is a result even when it is negative. -/
  | info (result : Int64)
  | redispatch (args : List Variant)
deriving Repr

namespace Outcome

def inspectResult {α : Type} (inspect : α → String) : Except Errno α → String
  | .ok a => s!"Ok({inspect a})"
  | .error e => s!"Err({e.inspect})"

def inspect : Outcome → String
  | status r => s!"Status({inspectResult (toString ·.toInt) r})"
  | value r => s!"Value({inspectResult Variant.inspect r})"
  | info v => s!"Info({v.toInt})"
  | redispatch args => "Redispatch([" ++ ", ".intercalate (args.map Variant.inspect) ++ "])"

end Outcome

/-- A native request and what its answer means, given the error register after the call. -/
structure Plan where
  {reply : Reply}
  primitive : Primitive reply
  conclude : reply.Value → Errno → Outcome

namespace Plan

def status (p : Primitive .number) : Plan :=
  ⟨p, fun result register => .status (sentinel result register)⟩

/-- A request whose answer is a result whatever it is. -/
def info (p : Primitive .number) : Plan :=
  ⟨p, fun result _ => .info result⟩

def value {reply : Reply} (p : Primitive reply) (make : reply.Value → Variant) : Plan :=
  ⟨p, fun result _ => .value (.ok (make result))⟩

end Plan

end NativeCall
