import NativeCall.Probe.Argument
import NativeCall.Proofs.Numerals

/-!
This module contains what the arguments of a probe are read as: which texts are read as integers,
and that plain values come back from the text they are written as.
-/

namespace NativeCall.Probe.Argument

open Text

inductive Mark : Char → Nat → Prop where
  | hexadecimal : Mark 'x' 16
  | octal : Mark 'o' 8

/-- The text spells `n` without a sign: hexadecimal digits behind `0x`, octal digits behind `0o`, or
decimal digits. -/
inductive Magnitude : List Char → Nat → Prop where
  | marked {c : Char} {base n : Nat} {digits : List Char} (hmark : Mark c base)
      (h : Numeral base digits n) : Magnitude ('0' :: c :: digits) n
  | decimal {n : Nat} {digits : List Char} (h : Numeral 10 digits n) : Magnitude digits n

/-- The text spells `v` with an optional minus sign in front of everything else. -/
inductive Integer : List Char → Int → Prop where
  | positive {text : List Char} {n : Nat} (h : Magnitude text n) : Integer text n
  | negative {text : List Char} {n : Nat} (h : Magnitude text n) : Integer ('-' :: text) (-n)

/-- The text spells `v` with a sign between the mark of the base and the digits. -/
inductive LateSigned : List Char → Int → Prop where
  | plus {c : Char} {base n : Nat} {digits : List Char} (hmark : Mark c base)
      (h : Numeral base digits n) : LateSigned ('0' :: c :: '+' :: digits) n
  | minus {c : Char} {base n : Nat} {digits : List Char} (hmark : Mark c base)
      (h : Numeral base digits n) : LateSigned ('0' :: c :: '-' :: digits) (-n)

/-- The text is read as the integer `v`. -/
inductive Reads : List Char → Int64 → Prop where
  | integer {text : List Char} {v : Int64} (h : Integer text v.toInt) (hv : v ≠ Int64.minValue)
      : Reads text v
  | lateSigned {text : List Char} {v : Int64} (h : LateSigned text v.toInt) : Reads text v
  | lateNegated {text : List Char} {v : Int64} (h : LateSigned text v.toInt)
      : Reads ('-' :: text) (-v)

/-- Texts that stand for something else than an integer or themselves. -/
inductive Reserved : List Char → Prop where
  | nil : Reserved ['n', 'i', 'l']
  | buffer (size : List Char) : Reserved ('b' :: 'u' :: 'f' :: ':' :: size)
  | symbol (name : List Char) : Reserved (':' :: name)
  | quoted (inner : List Char) : Reserved ('\'' :: (inner ++ ['\'']))

theorem toOption_readInt64_eq_some_iff {base : Nat} (hbase : base ≤ 16) (hpos : 0 < base)
    {digits : List Char} {v : Int64}
    : (readInt64 base digits).toOption = some v ↔ SignedNumeral base digits v.toInt := by
  rw [← readInt64_eq_ok_iff hbase hpos]
  cases readInt64 base digits <;> simp [Except.toOption]

section

variable {c : Char} {base : Nat} {digits : List Char}

theorem Mark.base_le (hmark : Mark c base) : base ≤ 16 := by
  cases hmark <;> decide

theorem Mark.base_pos (hmark : Mark c base) : 0 < base := by
  cases hmark <;> decide

theorem Mark.not_isDigit (hmark : Mark c base) : ¬ c.isDigit := by
  cases hmark <;> decide

theorem magnitude_marked_iff (hmark : Mark c base) {n : Nat}
    : Magnitude ('0' :: c :: digits) n ↔ Numeral base digits n := by
  constructor
  . intro h
    cases h with
    | marked hmark' h =>
      cases hmark <;> cases hmark' <;> exact h
    | decimal h => exact absurd (h.isDigit c (by simp)) hmark.not_isDigit
  . exact .marked hmark

theorem readInt64_marked_iff (hmark : Mark c base) {v : Int64}
    : (readInt64 base digits).toOption = some v ↔
        (∃ n : Nat, Magnitude ('0' :: c :: digits) n ∧ v.toInt = n) ∨
          LateSigned ('0' :: c :: digits) v.toInt := by
  rw [toOption_readInt64_eq_some_iff hmark.base_le hmark.base_pos]
  generalize v.toInt = x
  constructor
  . rintro (h | h | h)
    . exact .inl ⟨_, .marked hmark h, rfl⟩
    . exact .inr (.plus hmark h)
    . exact .inr (.minus hmark h)
  . rintro (⟨n, h, rfl⟩ | h)
    . exact .bare ((magnitude_marked_iff hmark).mp h)
    . cases h with
      | plus hmark' h => cases hmark <;> cases hmark' <;> exact .plus h
      | minus hmark' h => cases hmark <;> cases hmark' <;> exact .minus h

end

theorem Magnitude.not_minus {text : List Char} {n : Nat} : ¬ Magnitude ('-' :: text) n := by
  rintro (_ | h)
  exact absurd (h.isDigit '-' (by simp)) (by decide)

theorem magnitude?_eq_some_iff {text : List Char} {v : Int64}
    : magnitude? text = some v ↔
        (∃ n : Nat, Magnitude text n ∧ v.toInt = n) ∨ LateSigned text v.toInt := by
  unfold magnitude?
  split
  . exact readInt64_marked_iff .hexadecimal
  . exact readInt64_marked_iff .octal
  . next hhexadecimal hoctal =>
    have hmarked {c : Char} {base : Nat} {digits : List Char} (hmark : Mark c base)
        : text ≠ '0' :: c :: digits := by
      cases hmark with
      | hexadecimal => exact fun h => hhexadecimal _ h
      | octal => exact fun h => hoctal _ h
    have hmagnitude {n : Nat} : Magnitude text n ↔ Numeral 10 text n := by
      constructor
      . intro h
        cases h with
        | marked hmark h => exact absurd rfl (hmarked hmark)
        | decimal h => exact h
      . exact .decimal
    have hlate {x : Int} : ¬ LateSigned text x := by
      rintro (⟨hmark, _⟩ | ⟨hmark, _⟩)
      . exact hmarked hmark rfl
      . exact hmarked hmark rfl
    simp only [hmagnitude, hlate, or_false]
    split
    . next h =>
      have ⟨_, hdigits⟩ : text ≠ [] ∧ ∀ c ∈ text, c.isDigit := by simpa using h
      have hhead {sign : Char} (hsign : ¬ sign.isDigit) : text.head? ≠ some sign := by
        exact fun h => hsign (hdigits sign (List.mem_of_mem_head? h))
      rw [toOption_readInt64_eq_some_iff (by decide) (by decide)]
      exact signedNumeral_bare_iff (hhead (by decide)) (hhead (by decide))
    . next h =>
      simp only [reduceCtorEq, false_iff, not_exists, not_and]
      intro n hn
      exact absurd (by simpa using ⟨hn.1, hn.isDigit⟩) h

theorem toInt_neg_eq_iff {u : Int64} : (-u).toInt = -u.toInt ↔ u ≠ Int64.minValue := by
  have hlow := u.le_toInt
  have hhigh := u.toInt_lt
  constructor
  . rintro h rfl
    exact absurd h (by decide)
  . intro hu
    have hmin : u.toInt ≠ -2 ^ 63 := by
      rwa [ne_eq, ← Int64.toInt_minValue, Int64.toInt_inj]
    rw [Int64.toInt_neg]
    exact Int.bmod_eq_of_le (by omega) (by omega)

theorem ne_minValue {v : Int64} {n : Nat} (h : v.toInt = n) : v ≠ Int64.minValue := by
  rintro rfl
  rw [Int64.toInt_minValue] at h
  omega

/-- The integer that a text spells where a negation wraps around. -/
def wrapped? (text : List Char) : Option Int64 :=
  match text with
  | '-' :: rest => (magnitude? rest).map (- ·)
  | text => magnitude? text

theorem wrapped?_eq_some_iff {text : List Char} {v : Int64} : wrapped? text = some v ↔ Reads text v := by
  unfold wrapped?
  split
  . next rest =>
    simp only [Option.map_eq_some_iff, magnitude?_eq_some_iff]
    constructor
    . rintro ⟨u, ⟨n, h, hu⟩ | h, rfl⟩
      . have hneg : (-u).toInt = -n := by
          rw [toInt_neg_eq_iff.mpr (ne_minValue hu), hu]
        refine .integer (hneg ▸ .negative h) (toInt_neg_eq_iff.mp ?_)
        rw [Int64.neg_neg, hneg, hu, neg_neg]
      . exact .lateNegated h
    . rintro (⟨h, hv⟩ | h | h)
      . generalize hx : v.toInt = x at h
        cases h with
        | positive h => exact absurd h Magnitude.not_minus
        | negative h =>
          exact ⟨-v, .inl ⟨_, h, by rw [toInt_neg_eq_iff.mpr hv, hx, neg_neg]⟩, Int64.neg_neg⟩
      . generalize v.toInt = x at h
        cases h
      . exact ⟨_, .inr h, rfl⟩
  . next hminus =>
    rw [magnitude?_eq_some_iff]
    constructor
    . rintro (⟨n, h, hv⟩ | h)
      . exact .integer (hv ▸ .positive h) (ne_minValue hv)
      . exact .lateSigned h
    . rintro (⟨h, hv⟩ | h | h)
      . generalize hx : v.toInt = x at h
        cases h with
        | positive h => exact .inl ⟨_, h, rfl⟩
        | negative h => exact absurd rfl (hminus _)
      . exact .inr h
      . exact absurd rfl (hminus _)

/-- The text stops a build that does not let a negation overflow. -/
def Overflows (overflow : Overflow) (text : List Char) : Prop :=
  overflow = .stops ∧ ∃ rest, text = '-' :: rest ∧ LateSigned rest Int64.minValue.toInt

theorem magnitude?_eq_minValue_iff {text : List Char}
    : magnitude? text = some Int64.minValue ↔ LateSigned text Int64.minValue.toInt := by
  rw [magnitude?_eq_some_iff]
  constructor
  . rintro (⟨n, _, hn⟩ | h)
    . exact absurd rfl (ne_minValue hn)
    . exact h
  . exact .inr

section

variable {overflow : Overflow} {text : List Char}

theorem int?_of_overflows (h : Overflows overflow text)
    : int? overflow text = .error .overflow := by
  obtain ⟨rfl, rest, rfl, hrest⟩ := h
  unfold int?
  simp only [magnitude?_eq_minValue_iff.mpr hrest]
  rfl

theorem int?_of_not_overflows (h : ¬ Overflows overflow text)
    : int? overflow text = .ok (wrapped? text) := by
  unfold int?
  split
  . next rest =>
    show _ = Except.ok ((magnitude? rest).map (- ·))
    cases hmagnitude : magnitude? rest with
    | none => rfl
    | some n =>
      have hneg : ¬ (overflow = .stops ∧ n = Int64.minValue) := by
        rintro ⟨hstops, rfl⟩
        exact h ⟨hstops, rest, rfl, magnitude?_eq_minValue_iff.mp hmagnitude⟩
      unfold Overflow.neg?
      simp only [if_neg hneg]
      rfl
  . next hminus =>
    unfold wrapped?
    split
    . exact absurd rfl (hminus _)
    . rfl

theorem int?_eq_some_iff {v : Int64}
    : int? overflow text = .ok (some v) ↔ Reads text v ∧ ¬ Overflows overflow text := by
  by_cases hover : Overflows overflow text
  . simp [int?_of_overflows hover, hover]
  . rw [int?_of_not_overflows hover, Except.ok.injEq, wrapped?_eq_some_iff, and_iff_left hover]

theorem Overflows.reads (h : Overflows overflow text) : Reads text (-Int64.minValue) := by
  obtain ⟨_, rest, rfl, hrest⟩ := h
  exact .lateNegated hrest

theorem int?_of_not_reads (h : ∀ v, ¬ Reads text v) : int? overflow text = .ok none := by
  have hover : ¬ Overflows overflow text := fun hover => h _ hover.reads
  have hnone : wrapped? text = none := by
    rw [Option.eq_none_iff_forall_not_mem]
    exact fun v hv => h v (wrapped?_eq_some_iff.mp hv)
  rw [int?_of_not_overflows hover, hnone]

end

theorem quoted?_eq_some_iff {text inner : List Char}
    : quoted? text = some inner ↔ text = '\'' :: (inner ++ ['\'']) := by
  unfold quoted?
  split
  . next rest =>
    simp only [Option.ite_none_right_eq_some, Option.some.injEq, List.cons.injEq, true_and]
    constructor
    . rintro ⟨hlast, rfl⟩
      exact (List.dropLast_append_getLast? _ hlast).symm
    . rintro rfl
      simp
  . next h =>
    simp only [reduceCtorEq, false_iff]
    exact fun htext => h _ htext

section

variable {overflow : Overflow} {text : String}

theorem parse_of_not_reserved (h : ¬ Reserved text.toList)
    : parse overflow text =
        (int? overflow text.toList).map fun n => .value (n.elim (.str text) .int) := by
  unfold parse
  generalize text.toList = chars at *
  split
  . exact absurd .nil h
  . exact absurd (.buffer _) h
  . exact absurd (.symbol []) h
  . exact absurd (.symbol _) h
  . have hquoted : quoted? chars = none := by
      rw [Option.eq_none_iff_forall_not_mem]
      intro inner hinner
      rw [quoted?_eq_some_iff.mp hinner] at h
      exact h (.quoted inner)
    rw [hquoted]
    dsimp only
    rcases int? overflow chars with e | ⟨_ | n⟩ <;> rfl

theorem parse_quoted {inner : List Char} (h : text.toList = '\'' :: (inner ++ ['\'']))
    : parse overflow text = .ok (.value (.str (String.ofList inner))) := by
  unfold parse
  split
  . next hnil => simp [h] at hnil
  . next hbuffer => simp [h] at hbuffer
  . next hempty => simp [h] at hempty
  . next hsymbol => simp [h] at hsymbol
  . rw [quoted?_eq_some_iff.mpr h]

theorem parse_symbol {name : List Char} (hname : name ≠ []) (h : text.toList = ':' :: name)
    : parse overflow text = .ok (.value (.symbol (String.ofList name))) := by
  unfold parse
  rw [h]
  cases name with
  | nil => exact absurd rfl hname
  | cons => rfl

theorem parse_of_reserved (h : Reserved text.toList)
    : (∀ v, parse overflow text ≠ .ok (.value (.int v))) ∧
        parse overflow text ≠ .error .overflow := by
  generalize hchars : text.toList = chars at h
  cases h with
  | nil => simp [parse, hchars]
  | buffer size =>
    simp only [parse, hchars]
    split <;> simp
  | symbol name =>
    cases name with
    | nil => simp [parse, hchars]
    | cons => simp [parse_symbol (List.cons_ne_nil _ _) hchars]
  | quoted inner => simp [parse_quoted hchars]

end

theorem Magnitude.head_isDigit {text : List Char} {n : Nat} (h : Magnitude text n)
    : ∃ c ∈ text.head?, c.isDigit := by
  cases h with
  | marked => exact ⟨'0', rfl, by decide⟩
  | decimal h =>
    cases text with
    | nil => exact absurd rfl h.1
    | cons c _ => exact ⟨c, rfl, h.isDigit c (by simp)⟩

theorem Reads.head {text : List Char} {v : Int64} (h : Reads text v)
    : ∃ c ∈ text.head?, c = '-' ∨ c.isDigit := by
  rcases h with ⟨h, _⟩ | h | h
  . generalize v.toInt = x at h
    cases h with
    | positive h =>
      have ⟨c, hc, hdigit⟩ := h.head_isDigit
      exact ⟨c, hc, .inr hdigit⟩
    | negative => exact ⟨'-', rfl, .inl rfl⟩
  . generalize v.toInt = x at h
    cases h <;> exact ⟨'0', rfl, .inr (by decide)⟩
  . exact ⟨'-', rfl, .inl rfl⟩

theorem Reads.not_reserved {text : List Char} {v : Int64} (h : Reads text v) : ¬ Reserved text := by
  have ⟨c, hc, hhead⟩ := h.head
  intro hreserved
  cases hreserved <;> cases hc <;> revert hhead <;> decide

theorem integer_toString (x : Int) : Integer (toString x).toList x := by
  rw [Int.toString_eq_repr, Int.repr_eq_if]
  split
  . next hx =>
    have h := Integer.positive (.decimal (numeral_toDigits (by decide) x.toNat))
    rwa [Int.toNat_of_nonneg hx, ← Nat.toList_repr] at h
  . next hx =>
    have h := Integer.negative (.decimal (numeral_toDigits (by decide) (-x).toNat))
    rw [Int.toNat_of_nonneg (by omega), neg_neg, ← Nat.toList_repr] at h
    simpa using h

/-- Integers are read with the sign in front, but for the lowest one, or with a late sign; the negation
of one that overflows stops the program or wraps around. -/
theorem parse_int_iff_reads (overflow : Overflow) (text : String)
    : (∀ v, parse overflow text = .ok (.value (.int v)) ↔
        Reads text.toList v ∧ ¬ Overflows overflow text.toList) ∧
      (∀ rest, text.toList = '-' :: rest →
        ((∃ u, magnitude? rest = some u ∧ (-u).toInt ≠ -u.toInt) ↔
          LateSigned rest Int64.minValue.toInt)) ∧
      (parse overflow text = .error .overflow ↔ Overflows overflow text.toList) ∧
      (¬ Reserved text.toList → (∀ v, ¬ Reads text.toList v) →
        parse overflow text = .ok (.value (.str text))) := by
  refine ⟨fun v => ?reads, fun rest _ => ?exact, ?stops, fun hreserved hreads => ?text⟩
  case reads =>
    by_cases hreserved : Reserved text.toList
    . exact iff_of_false ((parse_of_reserved hreserved).1 v)
        (fun h => h.1.not_reserved hreserved)
    . rw [parse_of_not_reserved hreserved, ← int?_eq_some_iff]
      rcases int? overflow text.toList with e | ⟨_ | n⟩ <;> simp [Except.map]
  case exact =>
    simp only [ne_eq, toInt_neg_eq_iff, not_not, exists_eq_right, magnitude?_eq_minValue_iff]
  case stops =>
    constructor
    . intro hparse
      by_contra hover
      by_cases hreserved : Reserved text.toList
      . exact (parse_of_reserved hreserved).2 hparse
      . rw [parse_of_not_reserved hreserved, int?_of_not_overflows hover] at hparse
        cases hparse
    . intro hover
      rw [parse_of_not_reserved hover.reads.not_reserved, int?_of_overflows hover]
      rfl
  case text =>
    rw [parse_of_not_reserved hreserved, int?_of_not_reads hreads]
    rfl

theorem reads_beyond_integer
    : (Integer "-9223372036854775808".toList Int64.minValue.toInt ∧
        parse .stops "-9223372036854775808" = .ok (.value (.str "-9223372036854775808"))) ∧
      ((∀ v, ¬ Integer "0x-10".toList v) ∧
        parse .stops "0x-10" = .ok (.value (.int (-16)))) ∧
      (magnitude? "0x-8000000000000000".toList = some Int64.minValue ∧
        (-Int64.minValue).toInt ≠ -Int64.minValue.toInt ∧
        parse .stops "-0x-8000000000000000" = .error .overflow ∧
        parse .wraps "-0x-8000000000000000" = .ok (.value (.int Int64.minValue))) := by
  have hlowest : toString Int64.minValue.toInt = "-9223372036854775808" := by decide
  refine ⟨⟨hlowest ▸ integer_toString _, by decide⟩, ⟨fun v h => ?_, by decide⟩, by decide,
    by decide, by decide, by decide⟩
  rcases h with h | _
  exact not_numeral_of_sign (by decide) (.inr rfl) _ _ ((magnitude_marked_iff .hexadecimal).mp h)

def written : Variant → String
  | .str text => "'" ++ text ++ "'"
  | v => v.display

/-- The values that can be written on the command line. -/
inductive Plain : Variant → Prop where
  | nil : Plain .nil
  | int (v : Int64) : Plain (.int v)
  | symbol {name : String} (h : name ≠ "") : Plain (.symbol name)
  | str (text : String) : Plain (.str text)

theorem Integer.not_overflows {overflow : Overflow} {text : List Char} {x : Int}
    (h : Integer text x) : ¬ Overflows overflow text := by
  rintro ⟨_, rest, rfl, hrest⟩
  cases h with
  | positive h => exact Magnitude.not_minus h
  | negative h =>
    generalize Int64.minValue.toInt = y at hrest
    rcases hrest with ⟨hmark, _⟩ | ⟨hmark, _⟩
    . exact not_numeral_of_sign hmark.base_le (.inl rfl) _ _ ((magnitude_marked_iff hmark).mp h)
    . exact not_numeral_of_sign hmark.base_le (.inr rfl) _ _ ((magnitude_marked_iff hmark).mp h)

/-- All but the lowest integer come back from the text they are written as. -/
theorem parse_written (overflow : Overflow) {v : Variant} (h : Plain v)
    : parse overflow (written v) =
        .ok (.value (if v = .int Int64.minValue then .str (written v) else v)) := by
  cases h with
  | nil => rfl
  | int v =>
    by_cases hv : v = Int64.minValue
    . subst hv
      cases overflow <;> decide
    . have hinteger := integer_toString v.toInt
      have hreads : Reads (toString v.toInt).toList v := .integer hinteger hv
      have hparse := @parse_of_not_reserved overflow _ hreads.not_reserved
      rw [int?_eq_some_iff.mpr ⟨hreads, hinteger.not_overflows⟩] at hparse
      simpa [written, Variant.display, hv, Except.map] using hparse
  | @symbol name hname =>
    have hchars : (":" ++ name).toList = ':' :: name.toList := String.toList_append
    simpa [written, Variant.display] using parse_symbol (by simpa using hname) hchars
  | str text =>
    have hchars : ("'" ++ text ++ "'").toList = '\'' :: (text.toList ++ ['\'']) := by
      simp
    simpa [written] using parse_quoted hchars

theorem parse_written_quoted
    : Plain (.str "0x10") ∧ parse .stops "'0x10'" = .ok (.value (.str "0x10")) := by
  exact ⟨.str _, parse_written .stops (.str "0x10")⟩

theorem parse_written_lowest
    : Plain (.int Int64.minValue) ∧
        parse .stops (written (.int Int64.minValue)) ≠ .ok (.value (.int Int64.minValue)) := by
  exact ⟨.int _, by decide⟩

end NativeCall.Probe.Argument
