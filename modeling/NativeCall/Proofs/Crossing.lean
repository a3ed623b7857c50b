import Mathlib.Data.List.TakeWhile
import NativeCall.Proofs.Buffers
import NativeCall.Proofs.Reading

/-!
This module contains texts that cross into native memory and back. A text is handed over as its encoding
with a zero behind it, and what is read from a buffer ends in front of the first zero, so that a text
comes back whatever stands behind it.
-/

namespace NativeCall

namespace CString

/-- The bytes in front of the first zero, which are all of them if there is none. -/
def Leads (front bytes : List UInt8) : Prop :=
  0 ∉ front ∧ (bytes = front ∨ ∃ rest, bytes = front ++ 0 :: rest)

theorem exists_leads (bytes : List UInt8) : ∃ front, Leads front bytes := by
  induction bytes with
  | nil => exact ⟨[], List.not_mem_nil, .inl rfl⟩
  | cons b bytes ih =>
    by_cases hb : b = 0
    . exact ⟨[], List.not_mem_nil, .inr ⟨bytes, by rw [hb, List.nil_append]⟩⟩
    . have ⟨front, hzero, hbytes⟩ := ih
      refine ⟨b :: front, List.not_mem_cons_of_ne_of_not_mem (Ne.symm hb) hzero, ?_⟩
      cases hbytes with
      | inl hall => exact .inl (congrArg _ hall)
      | inr hrest =>
        have ⟨rest, hrest⟩ := hrest
        exact .inr ⟨rest, congrArg _ hrest⟩

theorem Leads.takeWhile_eq {front bytes : List UInt8} (h : Leads front bytes)
    : bytes.takeWhile (· ≠ 0) = front := by
  have hfront : ∀ b ∈ front, decide (b ≠ 0) = true := by
    intro b hb
    rw [decide_eq_true_iff]
    rintro rfl
    exact h.1 hb
  rcases h.2 with rfl | ⟨rest, rfl⟩
  . exact List.takeWhile_eq_self_iff.mpr hfront
  . rw [List.takeWhile_append_of_pos hfront, List.takeWhile_cons_of_neg (by decide),
      List.append_nil]

end CString

namespace Buffer.Owns

variable {b : Buffer} {m : Memory} {bytes : List UInt8} (h : b.Owns m bytes)
include h

theorem readText_eq {front : List UInt8} (hfront : CString.Leads front bytes)
    : b.readText m = String.ofList (Text.decodePatched front) := by
  unfold readText
  rw [h.toList_eq, hfront.takeWhile_eq, Text.decodeLossy_eq]

theorem readText_of_encode {text : String} (hfront : CString.Leads (Text.encode text) bytes)
    : b.readText m = text := by
  rw [h.readText_eq hfront, Text.decodePatched_encode, String.ofList_toList]

end Buffer.Owns

theorem Invocation.cString_eq_error_iff {inv : Invocation} {index : Nat} {text : String}
    (harg : inv.args[index]? = some (.str text))
    : inv.cString index = .error (.interiorNul inv.op index) ↔ '\x00' ∈ text.toList := by
  constructor
  . intro herror
    by_contra hzero
    have ⟨s, hs, _⟩ := CString.ofText?_eq_some hzero
    cases herror.symm.trans (cString_of_text harg hs)
  . intro hzero
    exact cString_of_zero harg (CString.ofText?_eq_none.mpr hzero)

namespace CString

/-- A text without a zero is handed over as its encoding and read back from it, and a buffer reads as what
is in front of its first zero. -/
theorem texts_survive {inv : Invocation} {index : Nat} {text : String} {b : Buffer} {m : Memory}
    {bytes : List UInt8} (harg : inv.args[index]? = some (.str text)) (h : b.Owns m bytes)
    : let encoded := text.toList.flatMap String.utf8EncodeChar
      (inv.cString index = .error (.interiorNul inv.op index) ↔ '\x00' ∈ text.toList) ∧
      ('\x00' ∉ text.toList →
        0 ∉ encoded ∧
        (∃ s, inv.cString index = .ok s ∧ s.terminated = encoded ++ [0]) ∧
        (Leads encoded bytes → b.readText m = text)) ∧
      ∃ front, Leads front bytes ∧ b.readText m = String.ofList (Text.decodePatched front) ∧
        ∀ (b' : Buffer) (m' : Memory) (bytes' : List UInt8), b'.Owns m' bytes' →
          Leads front bytes' → b'.readText m' = b.readText m := by
  intro encoded
  have hencoded : Text.encode text = encoded := by
    exact Text.encode_eq_flatMap text
  refine ⟨Invocation.cString_eq_error_iff harg, ?handed, ?read⟩
  case handed =>
    intro hzero
    have ⟨s, hs, hbytes⟩ := ofText?_eq_some hzero
    have hterminated : s.terminated = encoded ++ [0] := by
      unfold terminated
      rw [hbytes, hencoded]
    refine ⟨?_, ⟨s, Invocation.cString_of_text harg hs, hterminated⟩, ?_⟩
    . rw [← hencoded, ← hbytes]
      exact s.nul_free
    . rw [← hencoded]
      exact h.readText_of_encode
  case read =>
    have ⟨front, hfront⟩ := exists_leads bytes
    have hread := h.readText_eq hfront
    refine ⟨front, hfront, hread, ?_⟩
    intro b' m' bytes' h' hfront'
    rw [h'.readText_eq hfront', hread]

/-- A text of two and three bytes a character, with a zero and bytes that are no text behind it, and the
same text in a buffer that it fills. -/
theorem texts_survive_greek
    : let inv : Invocation := ⟨"rename", [.str "a", .str "λ→"]⟩
      let b : Buffer := ⟨32, 8⟩
      let m : Memory := ⟨[⟨32, #[0xCE, 0xBB, 0xE2, 0x86, 0x92, 0, 0xFF, 0x80]⟩], 64⟩
      let b' : Buffer := ⟨16, 5⟩
      let m' : Memory := ⟨[⟨16, #[0xCE, 0xBB, 0xE2, 0x86, 0x92]⟩], 64⟩
      inv.args[1]? = some (.str "λ→") ∧
        b.Owns m [0xCE, 0xBB, 0xE2, 0x86, 0x92, 0, 0xFF, 0x80] ∧
        (∃ s, inv.cString 1 = .ok s ∧ s.terminated = [0xCE, 0xBB, 0xE2, 0x86, 0x92, 0]) ∧
        b.readText m = "λ→" ∧ b'.readText m' = "λ→" := by
  intro inv b m b' m'
  have hown : b.Owns m [0xCE, 0xBB, 0xE2, 0x86, 0x92, 0, 0xFF, 0x80] := by
    exact ⟨by decide, by decide, by decide, by decide⟩
  have hown' : b'.Owns m' [0xCE, 0xBB, 0xE2, 0x86, 0x92] := by
    exact ⟨by decide, by decide, by decide, by decide⟩
  have harg : inv.args[1]? = some (.str "λ→") := rfl
  have ⟨_, hhanded, _⟩ := texts_survive harg hown
  have ⟨_, hhanded', _⟩ := texts_survive harg hown'
  have ⟨hzero, hs, hread⟩ := hhanded (by decide)
  have ⟨_, _, hread'⟩ := hhanded' (by decide)
  exact ⟨harg, hown, hs, hread ⟨hzero, .inr ⟨[0xFF, 0x80], rfl⟩⟩, hread' ⟨hzero, .inl rfl⟩⟩

end CString

end NativeCall
