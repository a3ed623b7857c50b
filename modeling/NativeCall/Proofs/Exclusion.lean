import NativeCall.Proofs.Calling
import NativeCall.Proofs.Choice
import NativeCall.Proofs.Validation
import NativeCall.Table.BuiltIn

/-!
This module contains that no two arms of an operation of the library accept the same arguments, and
that the order of arms decides nothing where this is so.
-/

namespace NativeCall

variable {κ η π : Type}

def Shape.Apart (shape other : Shape) : Prop :=
  shape ≠ .any ∧ other ≠ .any ∧ shape ≠ other

instance (shape other : Shape) : Decidable (shape.Apart other) :=
  inferInstanceAs (Decidable (_ ∧ _ ∧ _))

theorem Shape.Apart.not_admits {shape other : Shape} (h : shape.Apart other) {v : Variant}
    (hv : shape.Admits v) : ¬ other.Admits v := by
  intro hv'
  have ⟨hshape, hother, hne⟩ := h
  cases hv <;> cases hv' <;> contradiction

def Guard.Apart (guard other : Guard) : Prop :=
  ∃ pair ∈ guard.zip other, pair.1.Apart pair.2

instance (guard other : Guard) : Decidable (guard.Apart other) :=
  inferInstanceAs (Decidable (∃ pair ∈ guard.zip other, pair.1.Apart pair.2))

theorem Guard.Apart.not_accepts {guard other : Guard} (h : guard.Apart other) {args : List Variant}
    (haccepts : guard.accepts args) : ¬ other.accepts args := by
  rw [accepts_iff] at haccepts ⊢
  have ⟨pair, hmem, hapart⟩ := h
  intro haccepts'
  obtain ⟨i, hi, hpair⟩ := List.mem_iff_getElem.mp hmem
  rw [List.getElem_zip] at hpair
  subst hpair
  rw [List.length_zip] at hi
  have hlength := haccepts.length_eq
  have hv := haccepts.get (i := i) (by omega) (by omega)
  have hv' := haccepts'.get (i := i) (by omega) (by omega)
  exact hapart.not_admits hv hv'

namespace Dispatch

/-- No arguments are accepted by two of the arms. -/
def Exclusive (arms : List (Arm π)) : Prop :=
  arms.Pairwise fun arm other => ∀ args, arm.accepts args → ¬ other.accepts args

namespace Exclusive

variable {arms arms' : List (Arm π)} {arm other : Arm π} {args : List Variant}

theorem index_eq (h : Exclusive arms) {i j : Nat} (harm : arms[i]? = some arm)
    (hother : arms[j]? = some other) (haccepts : arm.accepts args)
    (haccepts' : other.accepts args) : i = j := by
  have hpairs := List.pairwise_iff_getElem.mp h
  obtain ⟨hi, rfl⟩ := List.getElem?_eq_some_iff.mp harm
  obtain ⟨hj, rfl⟩ := List.getElem?_eq_some_iff.mp hother
  rcases Nat.lt_trichotomy i j with hlt | heq | hgt
  . exact absurd haccepts' (hpairs i j hi hj hlt args haccepts)
  . exact heq
  . exact absurd haccepts (hpairs j i hj hi hgt args haccepts')

theorem select_eq (h : Exclusive arms) (hmem : arm ∈ arms) (haccepts : arm.accepts args)
    (op : String) : select op arms args = .ok arm := by
  cases hselect : select op arms args with
  | error e =>
    have hnone := (select_eq_error_iff.mp hselect).2 arm hmem
    exact absurd ((arm.accepts_iff args).mp haccepts) hnone
  | ok found =>
    have ⟨hfound, haccepts'⟩ := select_eq_ok hselect
    obtain ⟨i, harm⟩ := List.mem_iff_getElem?.mp hmem
    obtain ⟨j, hother⟩ := List.mem_iff_getElem?.mp hfound
    rw [h.index_eq harm hother haccepts haccepts', hother] at harm
    rw [Option.some.inj harm]

theorem perm (h : Exclusive arms) (hperm : arms.Perm arms') : Exclusive arms' := by
  refine (hperm.pairwise_iff ?_).mp h
  intro arm other hpair args haccepts haccepts'
  exact hpair args haccepts' haccepts

theorem select_perm (h : Exclusive arms) (hperm : arms.Perm arms') (op : String)
    (args : List Variant) : select op arms' args = select op arms args := by
  cases hselect : select op arms args with
  | error e =>
    have ⟨he, hnone⟩ := select_eq_error_iff.mp hselect
    refine select_eq_error_iff.mpr ⟨he, ?_⟩
    intro arm hmem
    exact hnone arm (hperm.mem_iff.mpr hmem)
  | ok arm =>
    have ⟨hmem, haccepts⟩ := select_eq_ok hselect
    exact (h.perm hperm).select_eq (hperm.mem_iff.mp hmem) haccepts op

end Exclusive

theorem dispatch_perm {arms arms' : List (Arm (CallPath κ η))} (h : Exclusive arms)
    (hperm : arms.Perm arms') (op : String) (platform : Platform κ η) (args : List Variant)
    : dispatch op arms' platform args = dispatch op arms platform args := by
  unfold dispatch again
  simp only [h.select_perm hperm]

end Dispatch

def Operation.Rearranged (op other : Operation κ η) : Prop :=
  ∃ arms, op.arms.Perm arms ∧ other = { op with arms := arms }

theorem Operation.Rearranged.fitting {op other : Operation κ η} (h : op.Rearranged other)
    (hfits : op.Fitting) : other.Fitting := by
  obtain ⟨arms, hperm, rfl⟩ := h
  constructor
  . intro hnil
    dsimp only at hnil
    rw [hnil] at hperm
    exact hfits.armed hperm.eq_nil
  . intro arm hmem
    exact hfits.shaped arm (hperm.mem_iff.mpr hmem)

theorem BoundOperation.call_rearranged {op other : Operation κ η} (h : op.Rearranged other)
    (hexclusive : Dispatch.Exclusive op.arms) (config : BindingConfig) (platform : Platform κ η)
    (site : String) (args : List Variant)
    : call ⟨other, config⟩ platform site args = call ⟨op, config⟩ platform site args := by
  obtain ⟨arms, hperm, rfl⟩ := h
  have hrun (entry : Errno) : runArm ⟨{ op with arms := arms }, config⟩ platform args entry =
      runArm ⟨op, config⟩ platform args entry := by
    unfold runArm
    rw [Dispatch.dispatch_perm hexclusive hperm]
  unfold call
  simp only [hrun]
  rfl

namespace Registry

section Rearranged

variable {table table' : List (Operation κ η)}
  (h : List.Forall₂ Operation.Rearranged table table')
include h

theorem map_name_rearranged : table'.map Operation.name = table.map Operation.name := by
  induction h with
  | nil => rfl
  | cons hop _ ih =>
    obtain ⟨arms, _, rfl⟩ := hop
    rw [List.map_cons, List.map_cons, ih]

theorem sound_rearranged (hsound : Sound table) : Sound table' := by
  constructor
  . have hfitting := hsound.fitting
    clear hsound
    induction h with
    | nil => exact hfitting
    | cons hop _ ih =>
      have ⟨hfits, hrest⟩ := List.forall_mem_cons.mp hfitting
      exact List.forall_mem_cons.mpr ⟨hop.fitting hfits, ih hrest⟩
  . rw [map_name_rearranged h]
    exact hsound.distinct

theorem find?_rearranged (name : String)
    : Option.Rel Operation.Rearranged (table.find? (·.name == name))
        (table'.find? (·.name == name)) := by
  induction h with
  | nil => exact .none
  | cons hop _ ih =>
    have hname := hop
    obtain ⟨arms, _, rfl⟩ := hname
    rw [List.find?_cons, List.find?_cons]
    dsimp only
    split
    . exact .some hop
    . exact ih

end Rearranged

theorem call_rearranged (r s : Registry κ η) (hconfig : s.config = r.config)
    (htable : List.Forall₂ Operation.Rearranged r.table s.table)
    (hexclusive : ∀ op ∈ r.table, Dispatch.Exclusive op.arms) (platform : Platform κ η)
    (site name : String) (args : List Variant)
    : s.call platform site name args = r.call platform site name args := by
  have hfound := find?_rearranged htable name
  generalize hr : r.table.find? (·.name == name) = f at hfound
  generalize hs : s.table.find? (·.name == name) = g at hfound
  cases hfound with
  | none =>
    rw [r.call_of_find?_eq_none platform site args hr, s.call_of_find?_eq_none platform site args hs]
  | some hop =>
    rw [r.call_of_find?_eq_some platform site args hr, s.call_of_find?_eq_some platform site args hs,
      hconfig]
    apply BoundOperation.call_rearranged hop
    exact hexclusive _ (List.mem_of_find?_eq_some hr)

end Registry

namespace Table

def guards : List (List Guard) :=
  (builtIn : List (Operation Unit Unit)).map fun op => op.arms.map Arm.guard

theorem mem_guards {op : Operation κ η} (h : op ∈ builtIn) : op.arms.map Arm.guard ∈ guards := by
  have : guards = (builtIn : List (Operation κ η)).map fun op => op.arms.map Arm.guard := by
    rfl
  rw [this]
  exact List.mem_map_of_mem h

theorem guards_apart : ∀ arms ∈ guards, arms.Pairwise Guard.Apart := by
  decide

theorem builtIn_exclusive : ∀ op ∈ (builtIn : List (Operation κ η)),
    Dispatch.Exclusive op.arms := by
  intro op hop
  have hapart := List.pairwise_map.mp (guards_apart _ (mem_guards hop))
  refine hapart.imp ?_
  intro arm other h args
  exact h.not_accepts

end Table

end NativeCall
