import NativeCall.Proofs.Encoding

/-!
This module contains how bytes are read as text: the encoding of a text is read as that text, character
by character, so that well-formed bytes need no reading of their own.
-/

namespace NativeCall.Text

theorem isContinuation_iff {b : UInt8} : isContinuation b ↔ 128 ≤ b.toNat ∧ b.toNat ≤ 191 := by
  unfold isContinuation
  rw [Bool.and_eq_true, decide_eq_true_iff, decide_eq_true_iff, UInt8.le_iff_toNat_le,
    UInt8.le_iff_toNat_le]
  rfl

theorem sequenceLength_eq (b : UInt8)
    : sequenceLength b =
        if b.toNat < 128 then some 1
        else if 194 ≤ b.toNat ∧ b.toNat ≤ 223 then some 2
        else if 224 ≤ b.toNat ∧ b.toNat ≤ 239 then some 3
        else if 240 ≤ b.toNat ∧ b.toNat ≤ 244 then some 4
        else none := by
  unfold sequenceLength
  simp only [Bool.and_eq_true, decide_eq_true_eq, UInt8.lt_iff_toNat_lt, UInt8.le_iff_toNat_le]
  rfl

theorem secondByteRange_eq (b : UInt8)
    : secondByteRange b =
        if b.toNat = 224 then (160, 191)
        else if b.toNat = 237 then (128, 159)
        else if b.toNat = 240 then (144, 191)
        else if b.toNat = 244 then (128, 143)
        else (128, 191) := by
  unfold secondByteRange
  simp only [beq_iff_eq, ← UInt8.toNat_inj]
  rfl

/-- The byte may follow the first byte `b` of a character of at least three bytes. -/
def Second (b c : UInt8) : Prop :=
  (secondByteRange b).1 ≤ c ∧ c ≤ (secondByteRange b).2

theorem second_iff {b c : UInt8}
    : Second b c ↔
        (128 ≤ c.toNat ∧ c.toNat ≤ 191) ∧
          (b.toNat = 224 → 160 ≤ c.toNat) ∧ (b.toNat = 237 → c.toNat ≤ 159) ∧
          (b.toNat = 240 → 144 ≤ c.toNat) ∧ (b.toNat = 244 → c.toNat ≤ 143) := by
  unfold Second
  rw [secondByteRange_eq]
  repeat' split
  all_goals
    simp only [UInt8.le_iff_toNat_le, UInt8.reduceToNat]
    omega

/-- A first byte and as many good ones behind it as it asks for are read as one character. -/
theorem decodePatched_of_whole {b : UInt8} {rest : List UInt8} (tail : List UInt8)
    (hlength : sequenceLength b = some (tail.length + 1))
    (hgood : goodTail b (tail.length + 1) (tail ++ rest) = tail.length)
    : decodePatched (b :: (tail ++ rest)) = sequenceChar b tail :: decodePatched rest := by
  rw [decodePatched, hlength]
  dsimp only
  rw [hgood, if_pos rfl, List.take_left, List.drop_left]

section

variable {b c d e : UInt8} (rest : List UInt8)

theorem decodePatched_one (hb : b.toNat < 128)
    : decodePatched (b :: rest) = Char.ofNat b.toNat :: decodePatched rest := by
  have hlength : sequenceLength b = some 1 := by
    rw [sequenceLength_eq, if_pos hb]
  exact decodePatched_of_whole [] hlength rfl

theorem decodePatched_two (hb : 194 ≤ b.toNat ∧ b.toNat ≤ 223) (hc : isContinuation c)
    : decodePatched (b :: c :: rest) =
        Char.ofNat (b.toNat % 32 * 64 + c.toNat % 64) :: decodePatched rest := by
  have hlength : sequenceLength b = some 2 := by
    rw [sequenceLength_eq, if_neg (by omega), if_pos hb]
  have hgood : goodTail b 2 ([c] ++ rest) = 1 := by
    exact if_pos hc
  exact decodePatched_of_whole [c] hlength hgood

theorem decodePatched_three (hb : 224 ≤ b.toNat ∧ b.toNat ≤ 239) (hc : Second b c)
    (hd : isContinuation d)
    : decodePatched (b :: c :: d :: rest) =
        Char.ofNat ((b.toNat % 16 * 64 + c.toNat % 64) * 64 + d.toNat % 64) ::
          decodePatched rest := by
  have hlength : sequenceLength b = some 3 := by
    rw [sequenceLength_eq, if_neg (by omega), if_neg (by omega), if_pos hb]
  have hgood : goodTail b 3 ([c, d] ++ rest) = 2 := by
    unfold goodTail
    unfold Second at hc
    simp [hc, hd]
  exact decodePatched_of_whole [c, d] hlength hgood

theorem decodePatched_four (hb : 240 ≤ b.toNat ∧ b.toNat ≤ 244) (hc : Second b c)
    (hd : isContinuation d) (he : isContinuation e)
    : decodePatched (b :: c :: d :: e :: rest) =
        Char.ofNat (((b.toNat % 8 * 64 + c.toNat % 64) * 64 + d.toNat % 64) * 64 + e.toNat % 64) ::
          decodePatched rest := by
  have hlength : sequenceLength b = some 4 := by
    rw [sequenceLength_eq, if_neg (by omega), if_neg (by omega), if_neg (by omega), if_pos hb]
  have hgood : goodTail b 4 ([c, d, e] ++ rest) = 3 := by
    unfold goodTail
    unfold Second at hc
    simp [hc, hd, he]
  exact decodePatched_of_whole [c, d, e] hlength hgood

end

/-- The encoding of a character is read as that character, whatever follows it. -/
theorem decodePatched_utf8EncodeChar (c : Char) (rest : List UInt8)
    : decodePatched (String.utf8EncodeChar c ++ rest) = c :: decodePatched rest := by
  have hvalid : c.val.toNat < 0xD800 ∨ 0xDFFF < c.val.toNat ∧ c.val.toNat < 0x110000 := by
    exact c.valid
  have hbyte : ∀ n < 256, (UInt8.ofNat n).toNat = n := by
    intro n hn
    exact UInt8.toNat_ofNat_of_lt' hn
  have hread : ∀ n, n = c.val.toNat →
      Char.ofNat n :: decodePatched rest = c :: decodePatched rest := by
    rintro n rfl
    congr 1
    exact c.ofNat_toNat
  unfold String.utf8EncodeChar
  dsimp only
  generalize c.val.toNat = v at hvalid hread ⊢
  -- the encoding has one to four bytes, which carry the character's digits to base 64
  split
  . have hlead := hbyte v (by omega)
    refine (decodePatched_one rest ?_).trans (hread _ hlead)
    omega
  . have hlast := hbyte (v % 64 + 128) (by omega)
    have hend : isContinuation (UInt8.ofNat (v % 64 + 128)) := by
      rw [isContinuation_iff, hlast]
      omega
    split
    . have hlead := hbyte (v / 64 % 32 + 192) (by omega)
      refine (decodePatched_two rest ?_ hend).trans (hread _ ?_) <;> omega
    . have hnext := hbyte (v / 64 % 64 + 128) (by omega)
      split
      . have hlead := hbyte (v / 4096 % 16 + 224) (by omega)
        have hsecond : Second (UInt8.ofNat (v / 4096 % 16 + 224))
            (UInt8.ofNat (v / 64 % 64 + 128)) := by
          rw [second_iff, hlead, hnext]
          omega
        refine (decodePatched_three rest ?_ hsecond hend).trans (hread _ ?_) <;> omega
      . have hlead := hbyte (v / 262144 % 8 + 240) (by omega)
        have hover := hbyte (v / 4096 % 64 + 128) (by omega)
        have hsecond : Second (UInt8.ofNat (v / 262144 % 8 + 240))
            (UInt8.ofNat (v / 4096 % 64 + 128)) := by
          rw [second_iff, hlead, hover]
          omega
        have hthird : isContinuation (UInt8.ofNat (v / 64 % 64 + 128)) := by
          rw [isContinuation_iff, hnext]
          omega
        refine (decodePatched_four rest ?_ hsecond hthird hend).trans (hread _ ?_) <;> omega

theorem decodePatched_encode (text : String) : decodePatched (encode text) = text.toList := by
  rw [encode_eq_flatMap]
  induction text.toList with
  | nil => rw [List.flatMap_nil, decodePatched]
  | cons c cs ih => rw [List.flatMap_cons, decodePatched_utf8EncodeChar, ih]

theorem encode_of_fromUTF8? {bytes : List UInt8} {text : String}
    (h : String.fromUTF8? ⟨bytes.toArray⟩ = some text) : encode text = bytes := by
  have hbytes : (⟨bytes.toArray⟩ : ByteArray) = bytes.toByteArray := by
    rw [← List.data_toByteArray]
  unfold String.fromUTF8? at h
  split at h
  . cases h
    show ByteArray.toList ⟨bytes.toArray⟩ = bytes
    rw [hbytes, toList_toByteArray]
  . cases h

/-- Well-formed bytes are read as all bytes are. -/
theorem decodeLossy_eq (bytes : List UInt8)
    : decodeLossy bytes = String.ofList (decodePatched bytes) := by
  unfold decodeLossy
  split
  . next text htext =>
    rw [← encode_of_fromUTF8? htext, decodePatched_encode, String.ofList_toList]
  . rfl

end NativeCall.Text
