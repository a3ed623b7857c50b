import Mathlib.Data.List.Nodup
import NativeCall.Proofs.Encoding
import NativeCall.Registry

/-!
This module contains the exactness of checking a table: which tables are accepted, what the others
are blamed for, and that an accepted table is looked up and listed whole.
-/

namespace NativeCall

variable {κ η : Type}

namespace Operation

/-- The operation has arms, and each of them looks at each argument. -/
structure Fitting (op : Operation κ η) : Prop where
  armed : op.arms ≠ []
  shaped : ∀ arm ∈ op.arms, arm.guard.length = op.arity

/-- What is wrong with an operation that stands behind others with the names `seen`. An operation
with several defects has the first of them only. -/
inductive Defect (seen : List String) (op : Operation κ η) : String → Prop where
  | armless (h : op.arms = []) : Defect seen op s!"{op.name} has no arms"
  | misfit {before after : List (Arm (CallPath κ η))} {arm : Arm (CallPath κ η)}
      (harms : op.arms = before ++ arm :: after)
      (hbefore : ∀ earlier ∈ before, earlier.guard.length = op.arity)
      (h : arm.guard.length ≠ op.arity)
      : Defect seen op s!"{op.name}: arm {arm.signature} does not have {op.arity} shapes"
  | repeated (hfits : op.Fitting) (h : op.name ∈ seen)
      : Defect seen op s!"{op.name} is declared twice"

theorem find?_misfit_eq_none {op : Operation κ η}
    : op.arms.find? (·.guard.length ≠ op.arity) = none ↔
        ∀ arm ∈ op.arms, arm.guard.length = op.arity := by
  simp [List.find?_eq_none]

theorem find?_misfit_eq_some {op : Operation κ η} {arm : Arm (CallPath κ η)}
    : op.arms.find? (·.guard.length ≠ op.arity) = some arm ↔
        arm.guard.length ≠ op.arity ∧ ∃ before after, op.arms = before ++ arm :: after ∧
          ∀ earlier ∈ before, earlier.guard.length = op.arity := by
  simp [List.find?_eq_some_iff_append]

theorem defect?_eq_some_iff {seen : List String} {op : Operation κ η} {reason : String}
    : op.defect? seen = some reason ↔ op.Defect seen reason := by
  constructor
  . intro h
    unfold defect? at h
    split at h
    . next harms =>
      cases h
      exact .armless (List.isEmpty_iff.mp harms)
    . next harms =>
      split at h
      . next arm hfind =>
        cases h
        have ⟨hmisfit, before, after, harms, hbefore⟩ := find?_misfit_eq_some.mp hfind
        exact .misfit harms hbefore hmisfit
      . next hfind =>
        split at h
        . next hseen =>
          cases h
          rw [List.isEmpty_iff] at harms
          exact .repeated ⟨harms, find?_misfit_eq_none.mp hfind⟩ (List.contains_iff_mem.mp hseen)
        . cases h
  . intro h
    unfold defect?
    cases h with
    | armless h => rw [if_pos (List.isEmpty_iff.mpr h)]
    | @misfit before after arm harms hbefore h =>
      have hne : ¬ op.arms.isEmpty := by
        simp [harms]
      rw [if_neg hne, find?_misfit_eq_some.mpr ⟨h, before, after, harms, hbefore⟩]
    | repeated hfits h =>
      have hne : ¬ op.arms.isEmpty := by
        rw [List.isEmpty_iff]
        exact hfits.armed
      rw [if_neg hne, find?_misfit_eq_none.mpr hfits.shaped]
      dsimp only
      rw [if_pos (List.contains_iff_mem.mpr h)]

theorem defect?_eq_none_iff {seen : List String} {op : Operation κ η}
    : op.defect? seen = none ↔ op.Fitting ∧ op.name ∉ seen := by
  unfold defect?
  split
  . next harms =>
    rw [List.isEmpty_iff] at harms
    constructor
    . intro h
      cases h
    . intro h
      exact absurd harms h.1.armed
  . next harms =>
    rw [List.isEmpty_iff] at harms
    split
    . next arm hfind =>
      constructor
      . intro h
        cases h
      . intro h
        rw [find?_misfit_eq_none.mpr h.1.shaped] at hfind
        cases hfind
    . next hfind =>
      have hfits : op.Fitting := by
        exact ⟨harms, find?_misfit_eq_none.mp hfind⟩
      simp [hfits]

theorem Defect.of_mem_iff {seen seen' : List String} {op : Operation κ η} {reason : String}
    (h : op.Defect seen reason) (hseen : ∀ name, name ∈ seen ↔ name ∈ seen')
    : op.Defect seen' reason := by
  cases h with
  | armless h => exact .armless h
  | misfit harms hbefore h => exact .misfit harms hbefore h
  | repeated hfits h => exact .repeated hfits ((hseen _).mp h)

end Operation

namespace Registry

/-- Nothing is wrong with a table: all of its operations fit, and no two have the same name. -/
structure Sound (table : List (Operation κ η)) : Prop where
  fitting : ∀ op ∈ table, op.Fitting
  distinct : (table.map Operation.name).Nodup

/-- The earliest operation of a table at which something is wrong is wrong for this reason. -/
def Flawed (table : List (Operation κ η)) (reason : String) : Prop :=
  ∃ before op after, table = before ++ op :: after ∧ Sound before ∧
    op.Defect (before.map Operation.name) reason

theorem sound_cons {op : Operation κ η} {rest : List (Operation κ η)}
    : Sound (op :: rest) ↔ op.Fitting ∧ (∀ other ∈ rest, other.name ≠ op.name) ∧ Sound rest := by
  constructor
  . intro h
    have ⟨hfits, hrest⟩ := List.forall_mem_cons.mp h.fitting
    have hdistinct := h.distinct
    rw [List.map_cons, List.nodup_cons] at hdistinct
    refine ⟨hfits, ?_, hrest, hdistinct.2⟩
    intro other hmem hname
    rw [← hname] at hdistinct
    exact hdistinct.1 (List.mem_map_of_mem hmem)
  . intro h
    have ⟨hfits, hother, hrest⟩ := h
    refine ⟨List.forall_mem_cons.mpr ⟨hfits, hrest.fitting⟩, ?_⟩
    rw [List.map_cons, List.nodup_cons]
    refine ⟨?_, hrest.distinct⟩
    intro hmem
    have ⟨other, hmem, hname⟩ := List.mem_map.mp hmem
    exact hother other hmem hname

theorem firstDefect?_cons_eq_none_iff {seen : List String} {op : Operation κ η}
    {rest : List (Operation κ η)}
    : firstDefect? seen (op :: rest) = none ↔
        (op.Fitting ∧ op.name ∉ seen) ∧ firstDefect? (op.name :: seen) rest = none := by
  rw [← Operation.defect?_eq_none_iff, firstDefect?]
  cases op.defect? seen <;> simp

theorem firstDefect?_eq_none_iff {seen : List String} {table : List (Operation κ η)}
    : firstDefect? seen table = none ↔ Sound table ∧ ∀ op ∈ table, op.name ∉ seen := by
  induction table generalizing seen with
  | nil =>
    refine ⟨fun _ => ⟨⟨nofun, List.nodup_nil⟩, nofun⟩, fun _ => rfl⟩
  | cons op rest ih =>
    rw [firstDefect?_cons_eq_none_iff, ih, sound_cons]
    simp only [List.mem_cons, forall_eq_or_imp, not_or, forall_and, ne_eq]
    tauto

theorem firstDefect?_nil_eq_none_iff {table : List (Operation κ η)}
    : firstDefect? [] table = none ↔ Sound table := by
  simp [firstDefect?_eq_none_iff]

/-- Once the operations before them are found to be in order, the others are looked at with the
names of those before in mind. -/
theorem firstDefect?_append {seen : List String} {before : List (Operation κ η)}
    (h : firstDefect? seen before = none) (rest : List (Operation κ η))
    : firstDefect? seen (before ++ rest) =
        firstDefect? ((before.map Operation.name).reverse ++ seen) rest := by
  induction before generalizing seen with
  | nil => rfl
  | cons op before ih =>
    rw [firstDefect?_cons_eq_none_iff, ← Operation.defect?_eq_none_iff] at h
    rw [List.cons_append, firstDefect?, h.1]
    dsimp only
    rw [ih h.2]
    simp

theorem firstDefect?_eq_some {seen : List String} {table : List (Operation κ η)} {reason : String}
    (h : firstDefect? seen table = some reason)
    : ∃ before op after, table = before ++ op :: after ∧ firstDefect? seen before = none ∧
        op.Defect ((before.map Operation.name).reverse ++ seen) reason := by
  induction table generalizing seen with
  | nil => cases h
  | cons op rest ih =>
    rw [firstDefect?] at h
    split at h
    . next hdefect =>
      cases h
      exact ⟨[], op, rest, rfl, rfl, Operation.defect?_eq_some_iff.mp hdefect⟩
    . next hnone =>
      have ⟨before, found, after, htable, hbefore, hdefect⟩ := ih h
      refine ⟨op :: before, found, after, ?_, ?_, ?_⟩
      . rw [htable, List.cons_append]
      . rw [firstDefect?, hnone]
        exact hbefore
      . simpa using hdefect

theorem firstDefect?_eq_some_iff {table : List (Operation κ η)} {reason : String}
    : firstDefect? [] table = some reason ↔ Flawed table reason := by
  have hmem (before : List (Operation κ η)) (name : String)
      : name ∈ (before.map Operation.name).reverse ++ [] ↔ name ∈ before.map Operation.name := by
    simp
  constructor
  . intro h
    have ⟨before, op, after, htable, hnone, hdefect⟩ := firstDefect?_eq_some h
    exact ⟨before, op, after, htable, firstDefect?_nil_eq_none_iff.mp hnone,
      hdefect.of_mem_iff (hmem before)⟩
  . intro h
    have ⟨before, op, after, htable, hsound, hdefect⟩ := h
    have hdefect' := hdefect.of_mem_iff fun name => (hmem before name).symm
    rw [← Operation.defect?_eq_some_iff] at hdefect'
    rw [htable, firstDefect?_append (firstDefect?_nil_eq_none_iff.mpr hsound), firstDefect?,
      hdefect']

theorem ofTable_eq_error_iff {table : List (Operation κ η)} {config : BindingConfig}
    {e : CallError}
    : ofTable table config = .error e ↔
        ∃ reason, Flawed table reason ∧ e = .invalidTable reason := by
  simp only [← firstDefect?_eq_some_iff]
  unfold ofTable
  split
  . next reason hdefect => simp [hdefect, eq_comm]
  . next hdefect => simp [hdefect]

theorem ofTable_eq_ok_iff {table : List (Operation κ η)} {config : BindingConfig}
    {r : Registry κ η}
    : ofTable table config = .ok r ↔ Sound table ∧ r.table = table ∧ r.config = config := by
  rw [← firstDefect?_nil_eq_none_iff]
  unfold ofTable
  split
  . next reason hdefect => simp [hdefect]
  . next hdefect =>
    obtain ⟨table', config', sound⟩ := r
    simp [hdefect, eq_comm]

variable (r : Registry κ η)

theorem table_sound : Sound r.table := by
  exact firstDefect?_nil_eq_none_iff.mp r.sound

theorem find?_eq_none_iff {name : String}
    : r.find? name = none ↔ ∀ op ∈ r.table, op.name ≠ name := by
  unfold find?
  simp [List.find?_eq_none]

theorem find?_eq_some_iff {name : String} {op : Operation κ η}
    : r.find? name = some op ↔ op ∈ r.table ∧ op.name = name := by
  constructor
  . intro h
    exact ⟨List.mem_of_find?_eq_some h, by simpa using List.find?_some h⟩
  . intro h
    have ⟨hmem, hname⟩ := h
    cases hfind : r.find? name with
    | none =>
      rw [find?_eq_none_iff] at hfind
      exact absurd hname (hfind op hmem)
    | some found =>
      have hfound : found.name = name := by
        simpa using List.find?_some hfind
      have heq : found = op := by
        apply List.inj_on_of_nodup_map r.table_sound.distinct (List.mem_of_find?_eq_some hfind) hmem
        rw [hfound, hname]
      rw [heq]

theorem operations_perm : r.operations.Perm r.table := by
  apply List.mergeSort_perm

theorem operations_sorted
    : r.operations.Pairwise (fun a b => Text.encode a.name < Text.encode b.name) := by
  have hle : r.operations.Pairwise (fun a b => a.name ≤ b.name) := by
    have hsorted : r.operations.Pairwise (fun a b => decide (a.name ≤ b.name)) := by
      apply List.pairwise_mergeSort
      . intro a b c hab hbc
        simp only [decide_eq_true_eq] at hab hbc ⊢
        exact String.le_trans hab hbc
      . intro a b
        simpa using String.le_total a.name b.name
    simpa using hsorted
  have hne : r.operations.Pairwise (fun a b => a.name ≠ b.name) := by
    have hdistinct := (r.operations_perm.map Operation.name).nodup_iff.mpr r.table_sound.distinct
    exact List.pairwise_map.mp hdistinct
  refine (hle.and hne).imp ?_
  intro a b h
  apply Text.encode_lt
  exact Std.lt_of_le_of_ne h.1 h.2

variable (table : List (Operation κ η)) (config : BindingConfig)

/-- A table is accepted if nothing is wrong with it, and otherwise refused for the earliest operation at
which something is. -/
theorem ofTable_exact
    : ((∃ r, ofTable table config = .ok r) ↔
        (∀ op ∈ table, op.arms ≠ [] ∧ ∀ arm ∈ op.arms, arm.guard.length = op.arity) ∧
          (table.map Operation.name).Nodup) ∧
      (∀ e, ofTable table config = .error e ↔
        ∃ reason, Flawed table reason ∧ e = .invalidTable reason) ∧
      ∀ r, ofTable table config = .ok r →
        r.config = config ∧
        (∀ name op, r.find? name = some op ↔ op ∈ table ∧ op.name = name) ∧
        (∀ name, r.find? name = none ↔ ∀ op ∈ table, op.name ≠ name) ∧
        r.operations.Perm table ∧
        r.operations.Pairwise (fun a b => Text.encode a.name < Text.encode b.name) := by
  refine ⟨?_, ?_, ?_⟩
  . constructor
    . intro h
      have ⟨r, hr⟩ := h
      have hsound := (ofTable_eq_ok_iff.mp hr).1
      exact ⟨fun op hmem => ⟨(hsound.fitting op hmem).armed, (hsound.fitting op hmem).shaped⟩,
        hsound.distinct⟩
    . intro h
      have hsound : Sound table := by
        exact ⟨fun op hmem => ⟨(h.1 op hmem).1, (h.1 op hmem).2⟩, h.2⟩
      let r : Registry κ η := ⟨table, config, firstDefect?_nil_eq_none_iff.mpr hsound⟩
      exact ⟨r, ofTable_eq_ok_iff.mpr ⟨hsound, rfl, rfl⟩⟩
  . intro e
    apply ofTable_eq_error_iff
  . intro r hr
    have ⟨_, htable, hconfig⟩ := ofTable_eq_ok_iff.mp hr
    rw [← htable]
    exact ⟨hconfig, fun _ _ => r.find?_eq_some_iff, fun _ => r.find?_eq_none_iff,
      r.operations_perm, r.operations_sorted⟩

end Registry

end NativeCall
