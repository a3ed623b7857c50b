import Mathlib.Data.List.Forall2
import Mathlib.Data.Nat.Digits.Defs
import Mathlib.Tactic.IntervalCases
import NativeCall.Text.Number

/-!
This module contains the numerals that are read from text: which texts spell a number, and that the
readers accept exactly these.
-/

namespace NativeCall.Text

/-- The character stands for the digit `d` of the base, in either case. -/
structure Digit (base : Nat) (c : Char) (d : Nat) : Prop where
  lt : d < base
  char : c = d.digitChar ∨ c = d.digitChar.toUpper

/-- The text consists of the digits of `n` in the base, possibly behind zeros. -/
def Numeral (base : Nat) (text : List Char) (n : Nat) : Prop :=
  text ≠ [] ∧ ∃ digits, List.Forall₂ (Digit base) text digits ∧ Nat.ofDigits base digits.reverse = n

/-- The text is a numeral behind an optional sign. -/
inductive SignedNumeral (base : Nat) : List Char → Int → Prop where
  | bare {text : List Char} {n : Nat} (h : Numeral base text n) : SignedNumeral base text n
  | plus {text : List Char} {n : Nat} (h : Numeral base text n) : SignedNumeral base ('+' :: text) n
  | minus {text : List Char} {n : Nat} (h : Numeral base text n)
      : SignedNumeral base ('-' :: text) (-n)

theorem toNat_digitChar {d : Nat} (h : d < 16)
    : d.digitChar.toNat = if d < 10 then 48 + d else 87 + d := by
  interval_cases d <;> rfl

theorem toNat_toUpper_digitChar {d : Nat} (h : d < 16)
    : d.digitChar.toUpper.toNat = if d < 10 then 48 + d else 55 + d := by
  interval_cases d <;> rfl

variable {base : Nat}

theorem signedNumeral_bare_iff {text : List Char} {v : Int} (hplus : text.head? ≠ some '+')
    (hminus : text.head? ≠ some '-')
    : SignedNumeral base text v ↔ ∃ n : Nat, Numeral base text n ∧ v = n := by
  constructor
  . rintro (h | h | h)
    . exact ⟨_, h, rfl⟩
    . exact absurd rfl hplus
    . exact absurd rfl hminus
  . rintro ⟨n, h, rfl⟩
    exact .bare h

section

variable (hbase : base ≤ 16)
include hbase

theorem digitValue_eq_some_iff {c : Char} {d : Nat}
    : digitValue base c = some d ↔ Digit base c d := by
  have hdigit : Digit base c d ↔
      d < base ∧ (c.toNat = d.digitChar.toNat ∨ c.toNat = d.digitChar.toUpper.toNat) := by
    simp only [Char.toNat_inj]
    exact ⟨fun h => ⟨h.lt, h.char⟩, fun h => ⟨h.1, h.2⟩⟩
  have hle (c c' : Char) : c ≤ c' ↔ c.toNat ≤ c'.toNat := Iff.rfl
  rw [hdigit]
  unfold digitValue
  simp only [hle, Char.reduceToNat, Option.ite_none_right_eq_some, Option.some.injEq]
  constructor
  . rintro ⟨hlt, rfl⟩
    refine ⟨hlt, ?_⟩
    rw [toNat_digitChar (by omega), toNat_toUpper_digitChar (by omega)]
    split_ifs at * <;> omega
  . rintro ⟨hlt, h⟩
    rw [toNat_digitChar (by omega), toNat_toUpper_digitChar (by omega)] at h
    split_ifs at * <;> omega

theorem readDigits_eq_ok_iff (hpos : 0 < base) {limit acc n : Nat} {beyond : NumberError}
    {text : List Char} (hacc : acc ≤ limit)
    : readDigits base limit beyond acc text = .ok n ↔
        n ≤ limit ∧ ∃ digits, List.Forall₂ (Digit base) text digits ∧
          Nat.ofDigits base digits.reverse + base ^ digits.length * acc = n := by
  -- The value so far counts for as much as there are digits left to read.
  induction text generalizing acc with
  | nil =>
    unfold readDigits
    simp only [Except.ok.injEq, List.forall₂_nil_left_iff, exists_eq_left, List.reverse_nil,
      Nat.ofDigits_nil, List.length_nil, pow_zero, one_mul, zero_add]
    omega
  | cons c text ih =>
    have hvalue (d : Nat) (digits : List Nat)
        : Nat.ofDigits base (d :: digits).reverse + base ^ (d :: digits).length * acc =
            Nat.ofDigits base digits.reverse + base ^ digits.length * (acc * base + d) := by
      rw [List.reverse_cons, Nat.ofDigits_append, Nat.ofDigits_singleton, List.length_reverse,
        List.length_cons]
      ring
    have hiff : (∃ digits, List.Forall₂ (Digit base) (c :: text) digits ∧
        Nat.ofDigits base digits.reverse + base ^ digits.length * acc = n) ↔
          ∃ d, digitValue base c = some d ∧ ∃ digits, List.Forall₂ (Digit base) text digits ∧
            Nat.ofDigits base digits.reverse + base ^ digits.length * (acc * base + d) = n := by
      simp only [digitValue_eq_some_iff hbase, List.forall₂_cons_left_iff]
      constructor
      . rintro ⟨_, ⟨d, digits, hd, hdigits, rfl⟩, hn⟩
        exact ⟨d, hd, digits, hdigits, hvalue d digits ▸ hn⟩
      . rintro ⟨d, hd, digits, hdigits, hn⟩
        exact ⟨_, ⟨d, digits, hd, hdigits, rfl⟩, hvalue d digits ▸ hn⟩
    rw [hiff]
    unfold readDigits
    cases digitValue base c with
    | none => simp
    | some d =>
      simp only [Option.some.injEq, exists_eq_left']
      split
      . next hbeyond =>
        simp only [reduceCtorEq, false_iff, not_and, not_exists]
        intro hn digits _ hvalue
        have hpow : 0 < base ^ digits.length := Nat.pow_pos hpos
        have := Nat.le_mul_of_pos_left (acc * base + d) hpow
        omega
      . next hlimit => exact ih (by omega)

theorem readDigits_eq_ok_iff_numeral (hpos : 0 < base) {limit n : Nat} {beyond : NumberError}
    {text : List Char} (hne : text ≠ [])
    : readDigits base limit beyond 0 text = .ok n ↔ n ≤ limit ∧ Numeral base text n := by
  rw [readDigits_eq_ok_iff hbase hpos (Nat.zero_le limit)]
  simp only [Nat.mul_zero, Nat.add_zero, Numeral, hne, ne_eq, not_false_eq_true, true_and]

theorem Numeral.head_isSome {c : Char} {text : List Char} {n : Nat}
    (h : Numeral base (c :: text) n) : (digitValue base c).isSome := by
  have ⟨_, digits, hdigits, _⟩ := h
  cases hdigits with
  | cons hd _ =>
    rw [(digitValue_eq_some_iff hbase).mpr hd]
    rfl

theorem not_numeral_of_sign {sign : Char} (hsign : sign = '+' ∨ sign = '-') (text : List Char)
    (n : Nat) : ¬ Numeral base (sign :: text) n := by
  intro h
  have := h.head_isSome hbase
  rcases hsign with rfl | rfl <;> simp [digitValue] at this

theorem signedNumeral_plus_iff {text : List Char} {v : Int}
    : SignedNumeral base ('+' :: text) v ↔ ∃ n : Nat, Numeral base text n ∧ v = n := by
  constructor
  . rintro (h | h | h)
    . exact absurd h (not_numeral_of_sign hbase (.inl rfl) text _)
    . exact ⟨_, h, rfl⟩
  . rintro ⟨n, h, rfl⟩
    exact .plus h

theorem signedNumeral_minus_iff {text : List Char} {v : Int}
    : SignedNumeral base ('-' :: text) v ↔ ∃ n : Nat, Numeral base text n ∧ v = -n := by
  constructor
  . rintro (h | h | h)
    . exact absurd h (not_numeral_of_sign hbase (.inr rfl) text _)
    . exact ⟨_, h, rfl⟩
  . rintro ⟨n, h, rfl⟩
    exact .minus h

/-- The limit up to which digits are read is the last number for which the result is exact. -/
theorem ofDigits_eq_ok_iff (hpos : 0 < base) {limit : Nat} {beyond : NumberError}
    {text : List Char} (hne : text ≠ []) {make : Nat → Int64} {value : Nat → Int} {v : Int64}
    (hmake : ∀ n ≤ limit, (make n).toInt = value n) (hlimit : ∀ n, v.toInt = value n → n ≤ limit)
    : (do return make (← readDigits base limit beyond 0 text) : Except NumberError Int64) = .ok v ↔
        ∃ n, Numeral base text n ∧ v.toInt = value n := by
  have hread (n : Nat)
      : readDigits base limit beyond 0 text = .ok n ↔ n ≤ limit ∧ Numeral base text n := by
    exact readDigits_eq_ok_iff_numeral hbase hpos hne
  have hbind : (do return make (← readDigits base limit beyond 0 text)) = Except.ok v ↔
      ∃ n, readDigits base limit beyond 0 text = .ok n ∧ make n = v := by
    cases readDigits base limit beyond 0 text with
    | error e => simp [bind, Except.bind]
    | ok n => simp [bind, Except.bind, pure, Except.pure]
  rw [hbind]
  apply exists_congr
  intro n
  rw [hread, ← Int64.toInt_inj]
  constructor
  . rintro ⟨⟨hn, hnumeral⟩, hv⟩
    exact ⟨hnumeral, by rw [← hv, hmake n hn]⟩
  . rintro ⟨hnumeral, hv⟩
    have hn := hlimit n hv
    exact ⟨⟨hn, hnumeral⟩, by rw [hmake n hn, hv]⟩

theorem readInt64_eq_ok_iff (hpos : 0 < base) {text : List Char} {v : Int64}
    : readInt64 base text = .ok v ↔ SignedNumeral base text v.toInt := by
  have hlow := v.le_toInt
  have hhigh := v.toInt_lt
  have hpositive (n : Nat) (hn : n ≤ 0x7FFFFFFFFFFFFFFF) : (Int64.ofNat n).toInt = n := by
    exact Int64.toInt_ofNat_of_lt (by omega)
  have hnegative (n : Nat) (hn : n ≤ 0x8000000000000000) : (Int64.ofInt (-n)).toInt = -n := by
    exact Int64.toInt_ofInt_of_le (by omega) (by omega)
  unfold readInt64
  split
  . rw [signedNumeral_bare_iff (by simp) (by simp)]
    simp [Numeral]
  . simp [signedNumeral_plus_iff hbase, Numeral]
  . simp [signedNumeral_minus_iff hbase, Numeral]
  . next digits hne =>
    rw [signedNumeral_minus_iff hbase]
    exact ofDigits_eq_ok_iff hbase hpos (by simpa using hne) hnegative (by omega)
  . next digits hne =>
    rw [signedNumeral_plus_iff hbase]
    exact ofDigits_eq_ok_iff hbase hpos (by simpa using hne) hpositive (by omega)
  . next hne _ _ hminus hplus =>
    have hplus : text.head? ≠ some '+' := by
      intro h
      cases text <;> simp_all
    have hminus : text.head? ≠ some '-' := by
      intro h
      cases text <;> simp_all
    rw [signedNumeral_bare_iff hplus hminus]
    exact ofDigits_eq_ok_iff hbase hpos hne hpositive (by omega)

end

theorem Digit.isDigit {c : Char} {d : Nat} (h : Digit 10 c d) : c.isDigit := by
  have ⟨hlt, hchar⟩ := h
  rcases hchar with rfl | rfl <;> interval_cases d <;> rfl

theorem Numeral.isDigit {text : List Char} {n : Nat} (h : Numeral 10 text n)
    : ∀ c ∈ text, c.isDigit := by
  obtain ⟨-, digits, hdigits, -⟩ := h
  induction hdigits with
  | nil => simp
  | cons hd _ ih =>
    simp only [List.mem_cons, forall_eq_or_imp]
    exact ⟨hd.isDigit, ih⟩

theorem Numeral.concat {text : List Char} {n : Nat} (h : Numeral base text n) {c : Char} {d : Nat}
    (hd : Digit base c d)
    : Numeral base (text ++ [c]) (base * n + d) := by
  have ⟨_, digits, hdigits, hn⟩ := h
  refine ⟨by simp, digits ++ [d], List.rel_append hdigits (.cons hd .nil), ?_⟩
  rw [List.reverse_concat, Nat.ofDigits_cons, hn, Nat.add_comm]

theorem numeral_toDigits (hbase : 1 < base) (n : Nat) : Numeral base (Nat.toDigits base n) n := by
  induction n using Nat.strongRecOn with
  | ind n ih =>
    by_cases hn : n < base
    . rw [Nat.toDigits_of_lt_base hn]
      exact ⟨by simp, [n], .cons ⟨hn, .inl rfl⟩ .nil, by simp⟩
    . rw [Nat.toDigits_of_base_le hbase (by omega)]
      have hdigit : Digit base (n % base).digitChar (n % base) := by
        exact ⟨Nat.mod_lt n (by omega), .inl rfl⟩
      have := (ih (n / base) (Nat.div_lt_self (by omega) hbase)).concat hdigit
      rwa [Nat.div_add_mod] at this

end NativeCall.Text
