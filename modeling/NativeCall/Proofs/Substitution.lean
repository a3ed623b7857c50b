import NativeCall.Proofs.CallBlame
import NativeCall.Proofs.Exclusion

/-!
This module contains that substituted arguments come from one arm of the library only and are never
substituted again, so that no call finds fault with the table of operations.
-/

namespace NativeCall

variable {κ η : Type}

namespace Registry

/-- At most one arm accepts the arguments, and the one that substitutes some only puts a host in the place
of nil. -/
theorem arms_exclusive (config : BindingConfig)
    : (∀ op ∈ (Table.builtIn : List (Operation κ η)), ∀ args, ∀ i j : Nat,
        ∀ arm other : Arm (CallPath κ η), op.arms[i]? = some arm → op.arms[j]? = some other →
          arm.accepts args → other.accepts args → i = j) ∧
      (∀ table : List (Operation κ η), List.Forall₂ Operation.Rearranged Table.builtIn table →
        ∃ r, ofTable table config = .ok r ∧
          ∀ platform site name args w, r.call platform site name args w =
            (builtIn config).call platform site name args w) ∧
      (∀ op ∈ (Table.builtIn : List (Operation κ η)), ∀ arm ∈ op.arms,
        arm.Substitutes op.name → op.name = "_getaddrinfo" ∧ arm = Table.nilHost) ∧
      (∃ op ∈ (Table.builtIn : List (Operation κ η)),
        op.name = "_getaddrinfo" ∧ Table.nilHost ∈ op.arms) ∧
      (∀ (platform : Platform κ η) args w, (Table.nilHost : Arm (CallPath κ η)).accepts args →
        ∃ substituted,
          Table.nilHost.path platform ⟨"_getaddrinfo", args⟩ w =
            (.ok (.redispatch substituted), w) ∧
          substituted.length = args.length ∧ substituted[0]? = some (.str Request.wildcardHost) ∧
          (∀ i, i ≠ 0 → substituted[i]? = args[i]?) ∧
          ∀ op ∈ (Table.builtIn : List (Operation κ η)), ∀ arm ∈ op.arms,
            arm.Substitutes op.name → ¬ arm.accepts substituted) ∧
      ∀ (platform : Platform κ η) site name args w reason,
        ((builtIn config).call platform site name args w).1 ≠ .error (.invalidTable reason) := by
  refine ⟨?exclusive, ?rearranged, ?unique, ?listed, ?substituted, ?sound⟩
  case exclusive =>
    intro op hop args i j arm other harm hother
    exact (Table.builtIn_exclusive op hop).index_eq harm hother
  case rearranged =>
    intro table htable
    have hsound := sound_rearranged htable (builtIn config).table_sound
    let r : Registry κ η := ⟨table, config, firstDefect?_nil_eq_none_iff.mpr hsound⟩
    refine ⟨r, ofTable_eq_ok_iff.mpr ⟨hsound, rfl, rfl⟩, ?_⟩
    intro platform site name args w
    rw [call_rearranged (builtIn config) r rfl htable Table.builtIn_exclusive]
  case unique =>
    intro op hop arm harm
    exact Table.eq_nilHost_of_substitutes hop harm
  case listed =>
    cases hfind : (builtIn config : Registry κ η).find? "_getaddrinfo" with
    | none => cases hfind
    | some op =>
      have ⟨hop, hname⟩ := find?_eq_some_iff _ |>.mp hfind
      refine ⟨op, hop, hname, ?_⟩
      rw [Table.arms_getaddrinfo hop hname]
      exact List.mem_cons_self
  case substituted =>
    intro platform args w haccepts
    refine ⟨_, Table.nilHost_path platform _ args w, List.length_set, ?_, ?_, ?_⟩
    . cases args with
      | nil => simp [Table.nilHost, Arm.accepts, Guard.accepts] at haccepts
      | cons => rfl
    . intro i hi
      exact List.getElem?_set_ne hi.symm
    . intro op hop arm harm hsubstitutes
      rw [(Table.eq_nilHost_of_substitutes hop harm hsubstitutes).2]
      apply Table.not_nilHost_accepts_set
  case sound =>
    intro platform site name args w reason h
    rcases (call_blames h).operation?_eq with hop | ⟨constant, hconstant⟩
    . cases hop
    . cases hconstant

end Registry

end NativeCall
