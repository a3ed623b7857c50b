import NativeCall.CString

/-!
This module contains how texts are encoded: an encoding is read back as the text it is of, the bytes
of ASCII characters stand only for these, and encodings compare byte by byte as the texts do character
by character.
-/

namespace NativeCall

namespace Text

theorem toList_loop (before rest read : List UInt8)
    : ByteArray.toList.loop (before ++ rest).toByteArray before.length read =
        read.reverse ++ rest := by
  induction rest generalizing before read with
  | nil =>
    rw [ByteArray.toList.loop]
    simp
  | cons b rest ih =>
    have hnext := ih (before ++ [b]) (b :: read)
    rw [ByteArray.toList.loop]
    simp only [List.size_toByteArray, List.length_append, List.length_cons, List.append_assoc,
      List.cons_append, List.nil_append, List.length_nil] at hnext ⊢
    rw [if_pos (by omega)]
    have hb : (before ++ b :: rest).toByteArray.get! before.length = b := by
      simp [ByteArray.get!]
    rw [hb, hnext]
    simp

theorem toList_toByteArray (bytes : List UInt8) : bytes.toByteArray.toList = bytes := by
  unfold ByteArray.toList
  exact toList_loop [] bytes []

theorem encode_eq_flatMap (text : String)
    : encode text = text.toList.flatMap String.utf8EncodeChar := by
  have hbytes : text.toByteArray = text.toList.utf8Encode := by
    rw [← String.toByteArray_ofList, String.ofList_toList]
  unfold encode String.toUTF8
  rw [hbytes]
  exact toList_toByteArray _

theorem ascii_mem_utf8EncodeChar {a : Char} (ha : a.toNat < 128) (c : Char)
    : UInt8.ofNat a.toNat ∈ String.utf8EncodeChar c ↔ c = a := by
  have hc : c = a ↔ c.val.toNat = a.toNat := by
    rw [← Char.toNat_inj]
    rfl
  rw [hc]
  unfold String.utf8EncodeChar
  dsimp only
  repeat' split
  all_goals
    simp only [List.mem_cons, List.not_mem_nil, or_false, ← UInt8.toNat_inj, UInt8.toNat_ofNat']
    omega

/-- An ASCII character is a byte of its own, and none of the bytes of another character. -/
theorem ascii_mem_encode {a : Char} (ha : a.toNat < 128) (text : String)
    : UInt8.ofNat a.toNat ∈ encode text ↔ a ∈ text.toList := by
  rw [encode_eq_flatMap, List.mem_flatMap]
  constructor
  . intro h
    have ⟨c, hc, hmem⟩ := h
    rw [ascii_mem_utf8EncodeChar ha] at hmem
    rw [← hmem]
    exact hc
  . intro h
    exact ⟨a, h, (ascii_mem_utf8EncodeChar ha a).mpr rfl⟩

theorem zero_mem_encode (text : String) : 0 ∈ encode text ↔ '\x00' ∈ text.toList := by
  exact ascii_mem_encode (a := '\x00') (by decide) text

theorem encode_eq_nil {text : String} : encode text = [] ↔ text = "" := by
  rw [encode_eq_flatMap, List.flatMap_eq_nil_iff, ← String.toList_inj]
  constructor
  . intro h
    apply List.eq_nil_iff_forall_not_mem.mpr
    intro c hc
    exact String.utf8EncodeChar_ne_nil (h c hc)
  . intro h
    rw [h]
    nofun

theorem decodeLossy_encode (text : String) : decodeLossy (encode text) = text := by
  have hbytes : (⟨(encode text).toArray⟩ : ByteArray) = text.toByteArray := by
    rw [encode_eq_flatMap, ← List.data_toByteArray]
    exact (String.toByteArray_ofList).symm.trans (congrArg _ String.ofList_toList)
  unfold decodeLossy
  rw [hbytes]
  unfold String.fromUTF8?
  rw [dif_pos text.isValidUTF8]
  rfl

theorem encode_inj {s t : String} : encode s = encode t ↔ s = t := by
  constructor
  . intro h
    rw [← decodeLossy_encode s, h, decodeLossy_encode]
  . exact congrArg encode

/-- The first byte tells how long the encoding of a character is, so that what follows it does not
matter. -/
theorem utf8EncodeChar_append_lt {c d : Char} (h : c < d) (s t : List UInt8)
    : String.utf8EncodeChar c ++ s < String.utf8EncodeChar d ++ t := by
  have hlt : c.val.toNat < d.val.toNat := by
    exact h
  have hmax : d.val.toNat < 0x110000 := by
    rcases d.valid with h | h
    . exact Nat.lt_trans h (by decide)
    . exact h.2
  unfold String.utf8EncodeChar
  dsimp only
  -- the encodings have one to four bytes each, which are compared as digits
  repeat' split
  all_goals
    simp (disch := omega) only [List.cons_append, List.nil_append, List.cons_lt_cons_iff,
      UInt8.lt_iff_toNat_lt, ← UInt8.toNat_inj, UInt8.toNat_ofNat', Nat.mod_eq_of_lt]
    omega

theorem encode_lt {s t : String} (h : s < t) : encode s < encode t := by
  rw [encode_eq_flatMap, encode_eq_flatMap]
  rw [String.lt_iff] at h
  generalize s.toList = cs, t.toList = ds at h
  induction h with
  | nil =>
    rw [List.flatMap_nil, List.flatMap_cons]
    unfold String.utf8EncodeChar
    dsimp only
    repeat' split
    all_goals exact .nil
  | rel h =>
    rw [List.flatMap_cons, List.flatMap_cons]
    apply utf8EncodeChar_append_lt h
  | cons _ ih =>
    rw [List.flatMap_cons, List.flatMap_cons]
    apply List.append_left_lt ih

end Text

namespace CString

theorem ofText?_eq_some {text : String} (h : '\x00' ∉ text.toList)
    : ∃ s : CString, ofText? text = some s ∧ s.bytes = Text.encode text := by
  unfold ofText?
  rw [← Text.zero_mem_encode] at h
  exact ⟨⟨Text.encode text, h⟩, dif_neg h, rfl⟩

theorem ofText?_eq_none {text : String} : ofText? text = none ↔ '\x00' ∈ text.toList := by
  unfold ofText?
  rw [← Text.zero_mem_encode]
  simp

end CString

end NativeCall
