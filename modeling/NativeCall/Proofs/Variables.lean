import NativeCall.Proofs.Encoding
import NativeCall.Proofs.Residence

/-!
This module contains what a system does about the variables of the environment, and that the in-memory
system does it.
-/

namespace NativeCall

variable {κ : Type}

namespace Environment

theorem isName_bytes {text : String} {name : CString} (h : name.bytes = Text.encode text)
    : isName name.bytes ↔ text ≠ "" ∧ '=' ∉ text.toList := by
  have hequals : equalsSign ∈ Text.encode text ↔ '=' ∈ text.toList :=
    Text.ascii_mem_encode (a := '=') (by decide) text
  unfold isName
  rw [h, ← hequals, ne_eq, ← Text.encode_eq_nil]
  simp

theorem get?_cons (env : Environment) (other name value : List UInt8)
    : get? ((name, value) :: env) other = if other = name then some value else get? env other := by
  unfold get?
  rw [List.lookup_cons]
  by_cases h : other = name
  . subst h
    simp
  . rw [beq_eq_false_iff_ne.mpr h, if_neg h]

theorem get?_replace (env : Environment) (other name value : List UInt8)
    : get? (env.map fun (n, v) => if n = name then (n, value) else (n, v)) other =
        if other = name ∧ (get? env name).isSome then some value else get? env other := by
  -- nothing keeps a name from occurring twice; all of its occurrences are replaced
  induction env with
  | nil => simp [get?]
  | cons first env ih =>
    rcases first with ⟨n, v⟩
    rw [List.map_cons]
    dsimp only
    by_cases hn : n = name
    . subst hn
      rw [if_pos rfl, get?_cons, get?_cons, get?_cons, ih]
      by_cases hother : other = n <;> simp [hother]
    . rw [if_neg hn, get?_cons, get?_cons, get?_cons, ih, if_neg (Ne.symm hn)]
      by_cases hother : other = n
      . subst hother
        simp [hn]
      . simp [hother]

theorem get?_put (env : Environment) (other name value : List UInt8)
    : get? (put env name value) other = if other = name then some value else get? env other := by
  unfold put
  split
  . next hsome =>
    rw [get?_replace]
    simp only [hsome, and_true]
  . next hnone =>
    have hname : get? env name = none := by simpa using hnone
    have happend : get? (env ++ [(name, value)]) other =
        (get? env other).or (get? [(name, value)] other) := List.lookup_append
    rw [happend, get?_cons]
    by_cases hother : other = name
    . subst hother
      simp [hname]
    . rw [if_neg hother, if_neg hother]
      exact Option.or_none

theorem get?_erase (env : Environment) (other name : List UInt8)
    : get? (erase env name) other = if other = name then none else get? env other := by
  unfold erase
  induction env with
  | nil => simp [get?]
  | cons first env ih =>
    rcases first with ⟨n, v⟩
    rw [List.filter_cons, get?_cons]
    by_cases hn : n = name
    . subst hn
      rw [if_neg (by simp), ih]
      by_cases hother : other = n <;> simp [hother]
    . rw [if_pos (by simpa using hn), get?_cons, ih]
      by_cases hother : other = n
      . subst hother
        simp [hn]
      . simp [hother]

end Environment

/-- What a system does about the environment: it keeps a map from names to values, and refuses names
that are empty or hold an equals sign. -/
structure Kernel.KeepsVariables (kernel : Kernel κ)
    (valueOf : κ → List UInt8 → Option (List UInt8)) : Prop where
  getenv : ∀ name m, (kernel.run (.getenv name) m).1 = valueOf m.os name.bytes ∧
    valueOf (kernel.run (.getenv name) m).2.os = valueOf m.os
  setenv : ∀ name value overwrite m, Environment.isName name.bytes →
    (kernel.run (.setenv name value overwrite) m).1 = 0 ∧
      ∀ other, valueOf (kernel.run (.setenv name value overwrite) m).2.os other =
        if other = name.bytes ∧ (overwrite ≠ 0 ∨ valueOf m.os name.bytes = none)
        then some value.bytes
        else valueOf m.os other
  unsetenv : ∀ name m, Environment.isName name.bytes →
    (kernel.run (.unsetenv name) m).1 = 0 ∧
      ∀ other, valueOf (kernel.run (.unsetenv name) m).2.os other =
        if other = name.bytes then none else valueOf m.os other
  setenv_refused : ∀ name value overwrite m, ¬ Environment.isName name.bytes →
    (kernel.run (.setenv name value overwrite) m).1 = -1 ∧
      (kernel.run (.setenv name value overwrite) m).2.errno = .einval ∧
      valueOf (kernel.run (.setenv name value overwrite) m).2.os = valueOf m.os
  unsetenv_refused : ∀ name m, ¬ Environment.isName name.bytes →
    (kernel.run (.unsetenv name) m).1 = -1 ∧
      (kernel.run (.unsetenv name) m).2.errno = .einval ∧
      valueOf (kernel.run (.unsetenv name) m).2.os = valueOf m.os

namespace Posix

def valueOf (s : Posix) (name : List UInt8) : Option (List UInt8) :=
  Environment.get? s.environment name

theorem setenv_eq {s : Posix} {name : List UInt8} (h : Environment.isName name)
    (value : List UInt8) (overwrite : Bool)
    : ∃ s', s.setenv name value overwrite = .ok s' ∧
        ∀ other, s'.valueOf other =
          if other = name ∧ (overwrite ∨ s.valueOf name = none) then some value
          else s.valueOf other := by
  unfold setenv
  rw [h, Bool.not_true, if_neg Bool.false_ne_true]
  split
  . next hkept =>
    refine ⟨s, rfl, ?_⟩
    intro other
    have ⟨hsome, hoverwrite⟩ := Bool.and_eq_true_iff.mp hkept
    have hset : s.valueOf name ≠ none := Option.isSome_iff_ne_none.mp hsome
    rw [if_neg]
    rintro ⟨_, h | h⟩
    . simp [h] at hoverwrite
    . exact hset h
  . next hput =>
    refine ⟨_, rfl, ?_⟩
    intro other
    have hwritten : overwrite ∨ s.valueOf name = none := by
      unfold valueOf
      cases overwrite
      . exact Or.inr (by simpa using hput)
      . exact Or.inl rfl
    unfold valueOf at hwritten ⊢
    rw [Environment.get?_put]
    simp only [hwritten, and_true]

theorem unsetenv_eq {s : Posix} {name : List UInt8} (h : Environment.isName name)
    : ∃ s', s.unsetenv name = .ok s' ∧
        ∀ other, s'.valueOf other = if other = name then none else s.valueOf other := by
  unfold unsetenv
  rw [h, Bool.not_true, if_neg Bool.false_ne_true]
  exact ⟨_, rfl, fun other => Environment.get?_erase s.environment other name⟩

theorem kernel_keepsVariables : kernel.KeepsVariables valueOf := by
  refine ⟨?getenv, ?setenv, ?unsetenv, ?setenv_refused, ?unsetenv_refused⟩
  case getenv =>
    intro name m
    exact ⟨rfl, rfl⟩
  case setenv =>
    intro name value overwrite m hname
    have ⟨s', hset, hafter⟩ := setenv_eq (s := m.os) hname value.bytes (overwrite ≠ 0)
    have hrun : kernel.run (.setenv name value overwrite) m = _ := number_change_of_ok hset
    rw [hrun]
    simp only [decide_eq_true_eq] at hafter
    exact ⟨rfl, hafter⟩
  case unsetenv =>
    intro name m hname
    have ⟨s', hunset, hafter⟩ := unsetenv_eq (s := m.os) hname
    have hrun : kernel.run (.unsetenv name) m = _ := number_change_of_ok hunset
    rw [hrun]
    exact ⟨rfl, hafter⟩
  case setenv_refused =>
    intro name value overwrite m hname
    have hrefused : m.os.setenv name.bytes value.bytes (overwrite ≠ 0) = .error .einval := by
      simp [Posix.setenv, hname]
    have hrun : kernel.run (.setenv name value overwrite) m = _ :=
      number_change_of_error hrefused
    rw [hrun]
    exact ⟨rfl, rfl, rfl⟩
  case unsetenv_refused =>
    intro name m hname
    have hrefused : m.os.unsetenv name.bytes = .error .einval := by
      simp [Posix.unsetenv, hname]
    have hrun : kernel.run (.unsetenv name) m = _ := number_change_of_error hrefused
    rw [hrun]
    exact ⟨rfl, rfl, rfl⟩

end Posix

end NativeCall
