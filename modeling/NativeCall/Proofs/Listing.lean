import NativeCall.Posix.Kernel
import NativeCall.Proofs.Trace
import NativeCall.Request.Process

/-!
This module contains the listing of the groups of the process, which takes two requests: one for their
number, and one for as many ids as that.
-/

namespace NativeCall

variable {κ η : Type}

theorem Posix.run_getgroups (size : Int32) (m : Machine Posix)
    : run (.getgroups size) m =
        match m.os.getgroups size with
        | .ok answer => (answer, m)
        | .error e => (⟨-1, []⟩, { m with errno := e }) := by
  have hcall : (do (← Syscall.system).getgroups size : Syscall IdList).run m =
      (m.os.getgroups size, m) := by
    rfl
  unfold run idList
  show StateT.bind (ExceptT.run _) _ m = _
  unfold StateT.bind
  rw [hcall]
  cases m.os.getgroups size <;> rfl

theorem Posix.keeps_of_getgroups (size : Int32) (m : Machine Posix)
    (h : (Posix.kernel.run (.getgroups size) m).1.count ≠ -1)
    : (Posix.kernel.run (.getgroups size) m).2 = m := by
  change (run (.getgroups size) m).1.count ≠ -1 at h
  show (run (.getgroups size) m).2 = m
  rw [run_getgroups] at h ⊢
  split at h
  . rfl
  . exact absurd rfl h

theorem toInt64_eq_neg_one_iff {n : Int32} : n.toInt64 = -1 ↔ n = -1 := by
  rw [← Int64.toInt_inj, ← Int32.toInt_inj, Int32.toInt_toInt64]
  rfl

theorem IdList.length_within_le (answer : IdList) (size : Nat)
    : (answer.within size).length ≤ size := by
  unfold within
  simp only [List.length_take, List.length_append, List.length_drop, List.length_replicate]
  omega

/-- An answer that says how many ids it has written, and has room for them, is taken as it is. -/
theorem IdList.within_length {ids : List UInt32} (h : ids.length ≤ 0x7FFFFFFF)
    : (⟨Int32.ofNat ids.length, ids⟩ : IdList).within ids.length = ids := by
  have hcount : (Int32.ofNat ids.length).toNatClampNeg = ids.length := by
    rw [Int32.toNatClampNeg_ofNat_of_lt (by omega)]
  unfold within
  simp [hcount]

/-- What the listing of the groups comes to from the world `w`. -/
inductive Platform.Listed (platform : Platform κ η) (w : World κ η)
    : Except Errno (List UInt32) → World κ η → Prop where
  | uncounted {answer : IdList} {w₁ : World κ η}
      (hcount : platform.run (.getgroups 0) w = (answer, w₁)) (h : answer.count = -1)
      : Listed platform w (.error w₁.errno) w₁
  | unlisted {counted answer : IdList} {w₁ w₂ : World κ η}
      (hcount : platform.run (.getgroups 0) w = (counted, w₁)) (h : counted.count ≠ -1)
      (hlist : platform.run (.getgroups counted.count) w₁ = (answer, w₂)) (h' : answer.count = -1)
      : Listed platform w (.error w₂.errno) w₂
  | listed {counted answer : IdList} {w₁ w₂ : World κ η}
      (hcount : platform.run (.getgroups 0) w = (counted, w₁)) (h : counted.count ≠ -1)
      (hlist : platform.run (.getgroups counted.count) w₁ = (answer, w₂)) (h' : answer.count ≠ -1)
      : Listed platform w (.ok (answer.within counted.count.toNatClampNeg)) w₂

namespace Platform

variable {platform : Platform κ η} {w w' : World κ η} {groups : Except Errno (List UInt32)}

theorem askGroups_eq {size : Int32} {answer : IdList}
    (h : platform.run (.getgroups size) w = (answer, w'))
    : platform.askGroups size w =
        (if answer.count = -1 then .error w'.errno else .ok answer, w') := by
  unfold askGroups
  simp only [Action.run_bind, h, Action.run_errno, Action.run_pure, sentinel,
    toInt64_eq_neg_one_iff]
  split <;> rfl

theorem groups_listed (platform : Platform κ η) (w : World κ η)
    : platform.Listed w (platform.groups w).1 (platform.groups w).2 := by
  rcases hcount : platform.run (.getgroups 0) w with ⟨counted, w₁⟩
  rcases hlist : platform.run (.getgroups counted.count) w₁ with ⟨answer, w₂⟩
  unfold groups
  rw [Action.run_bind, askGroups_eq hcount]
  by_cases h : counted.count = -1
  . rw [if_pos h]
    exact .uncounted hcount h
  . rw [if_neg h]
    dsimp only
    rw [Action.run_bind, askGroups_eq hlist]
    by_cases h' : answer.count = -1
    . rw [if_pos h']
      exact .unlisted hcount h hlist h'
    . rw [if_neg h']
      exact .listed hcount h hlist h'

/-- The number of ids is an integer of 32 bits with a sign. -/
theorem Listed.length_le {ids : List UInt32} (h : platform.Listed w (.ok ids) w')
    : ids.length ≤ 0x7FFFFFFF := by
  cases h with
  | @listed counted answer =>
    have hle := answer.length_within_le counted.count.toNatClampNeg
    have := counted.count.toInt_lt
    unfold Int32.toNatClampNeg at hle ⊢
    omega

theorem Listed.error_eq {e : Errno} (h : platform.Listed w (.error e) w') : e = w'.errno := by
  cases h with
  | uncounted => rfl
  | unlisted => rfl

/-- What the requests of a listing that succeeds keep is kept. -/
theorem Listed.keep {P : World κ η → Prop} {ids : List UInt32} (h : platform.Listed w (.ok ids) w')
    (hkeep : ∀ size w, (platform.run (.getgroups size) w).1.count ≠ -1 → P w →
      P (platform.run (.getgroups size) w).2)
    (hw : P w) : P w' := by
  cases h with
  | @listed counted _ w₁ _ hcount h hlist h' =>
    have hcounted := hkeep 0 w
    rw [hcount] at hcounted
    have hlisted := hkeep counted.count w₁
    rw [hlist] at hlisted
    exact hlisted h' (hcounted h hw)

end Platform

/-- The events of a listing of the groups, with what it gives and the register after it. -/
inductive Event.Listing : Except Errno (List UInt32) → Errno → List Event → Prop where
  | uncounted (memory : Memory) {answer : IdList} {register : Errno} (h : answer.count = -1)
      : Listing (.error register) register [.request (.getgroups 0) memory answer register]
  | unlisted (memory memory' : Memory) {counted answer : IdList} (register : Errno) {register' : Errno}
      (h : counted.count ≠ -1) (h' : answer.count = -1)
      : Listing (.error register') register'
          [.request (.getgroups 0) memory counted register,
            .request (.getgroups counted.count) memory' answer register']
  | listed (memory memory' : Memory) {counted answer : IdList} (register : Errno) {register' : Errno}
      (h : counted.count ≠ -1) (h' : answer.count ≠ -1)
      : Listing (.ok (answer.within counted.count.toNatClampNeg)) register'
          [.request (.getgroups 0) memory counted register,
            .request (.getgroups counted.count) memory' answer register']

theorem Event.Listing.forall_mem {P : Event → Prop} {groups : Except Errno (List UInt32)}
    {register : Errno} {events : List Event} (h : Listing groups register events)
    (hP : ∀ size memory answer register, P (.request (.getgroups size) memory answer register))
    : ∀ event ∈ events, P event := by
  cases h with
  | uncounted => exact List.forall_mem_singleton.mpr (hP ..)
  | unlisted => exact List.forall_mem_cons.mpr ⟨hP .., List.forall_mem_singleton.mpr (hP ..)⟩
  | listed => exact List.forall_mem_cons.mpr ⟨hP .., List.forall_mem_singleton.mpr (hP ..)⟩

theorem Platform.Listed.events {platform : Platform κ η} {w w' : World (Traced κ) η}
    {groups : Except Errno (List UInt32)} (h : platform.traced.Listed w groups w')
    : ∃ events, w'.os.events = w.os.events ++ events ∧ Event.Listing groups w'.errno events := by
  have hstep {size : Int32} {w w' : World (Traced κ) η} {answer : IdList}
      (h : platform.traced.run (.getgroups size) w = (answer, w'))
      : w'.os.events = w.os.events ++ [.request (.getgroups size) w.memory answer w'.errno] := by
    have hevents := platform.traced_run_events (.getgroups size) w
    rw [h] at hevents
    exact hevents
  cases h with
  | uncounted hcount h => exact ⟨_, hstep hcount, .uncounted w.memory h⟩
  | @unlisted _ _ w₁ _ hcount h hlist h' =>
    refine ⟨_, ?_, .unlisted w.memory w₁.memory w₁.errno h h'⟩
    rw [hstep hlist, hstep hcount, List.append_assoc]
    rfl
  | @listed _ _ w₁ _ hcount h hlist h' =>
    refine ⟨_, ?_, .listed w.memory w₁.memory w₁.errno h h'⟩
    rw [hstep hlist, hstep hcount, List.append_assoc]
    rfl

end NativeCall
