import NativeCall.Proofs.Filling
import NativeCall.Proofs.Listing

/-!
This module contains the listing of the groups of the process: that counting and writing them agree,
and which of them are written where.
-/

namespace NativeCall

variable {κ η : Type}

/-- Asked on this machine, the system says how many groups there are, not more than an integer of 32
bits with a sign can count, lists them where there is room for all of them, and changes nothing. -/
structure Kernel.Lists (kernel : Kernel κ) (m : Machine κ) (ids : List UInt32) : Prop where
  count : kernel.run (.getgroups 0) m = (⟨Int32.ofNat ids.length, []⟩, m)
  list (size : Int32) (hsize : 0 < size.toInt) (hroom : ids.length ≤ size.toInt)
    : kernel.run (.getgroups size) m = (⟨Int32.ofNat ids.length, ids⟩, m)
  counted : ids.length ≤ 0x7FFFFFFF

theorem Posix.lists (m : Machine Posix) (hcounted : m.os.identity.groups.length ≤ 0x7FFFFFFF)
    : Posix.kernel.Lists m m.os.identity.groups := by
  refine ⟨rfl, ?_, hcounted⟩
  intro size hsize hroom
  have hne : size ≠ 0 := by
    rintro rfl
    exact absurd hsize (by decide)
  show Posix.run (.getgroups size) m = _
  rw [run_getgroups]
  unfold getgroups
  simp [hne, Int.not_lt.mpr hroom]

namespace Kernel.Lists

variable {kernel : Kernel κ} {m : Machine κ} {ids : List UInt32} (h : kernel.Lists m ids)
include h

theorem toInt_length : (Int32.ofNat ids.length).toInt = ids.length := by
  exact Int32.toInt_ofNat_of_lt (Nat.lt_succ_of_le h.counted)

/-- Having room for no groups is asking for their number, which is zero. -/
theorem run_length
    : kernel.run (.getgroups (Int32.ofNat ids.length)) m = (⟨Int32.ofNat ids.length, ids⟩, m) := by
  cases ids with
  | nil => exact h.count
  | cons id ids =>
    have hlength := h.toInt_length
    apply h.list
    . rw [hlength]
      exact Int.natCast_pos.mpr (Nat.succ_pos _)
    . exact Int.le_of_eq hlength.symm

theorem ofNat_length_ne : Int32.ofNat ids.length ≠ -1 := by
  intro heq
  have hlength := h.toInt_length
  rw [heq] at hlength
  change (-1 : Int) = _ at hlength
  omega

end Kernel.Lists

/-- The library's list of the groups is the system's. -/
theorem Kernel.Lists.groups_eq {platform : Platform κ η} {w : World κ η} {ids : List UInt32}
    (h : platform.kernel.Lists w.toMachine ids) : platform.groups w = (.ok ids, w) := by
  have hcount : platform.run (.getgroups 0) w = (⟨Int32.ofNat ids.length, []⟩, w) := by
    unfold Platform.run Action.run
    rw [h.count]
  have hlist : platform.run (.getgroups (Int32.ofNat ids.length)) w =
      (⟨Int32.ofNat ids.length, ids⟩, w) := by
    unfold Platform.run Action.run
    rw [h.run_length]
  have hsize : (Int32.ofNat ids.length).toNatClampNeg = ids.length := by
    unfold Int32.toNatClampNeg
    rw [h.toInt_length, Int.toNat_natCast]
  unfold Platform.groups
  rw [Action.run_bind, Platform.askGroups_eq hcount, if_neg h.ofNat_length_ne]
  dsimp only
  rw [Action.run_bind, Platform.askGroups_eq hlist, if_neg h.ofNat_length_ne]
  dsimp only
  rw [hsize, IdList.within_length h.counted]
  rfl

namespace View

variable {view : View} {ids : List UInt32} {limit : UInt64} {count : Nat}
  (hcount : count = min ids.length limit.toNat) (hend : 4 * count < UInt64.size)
include hcount

theorem take_groups
    : (ids.map UInt32.toUInt64).take limit.toNat = (ids.take count).map UInt32.toUInt64 := by
  rw [← List.map_take, hcount, Nat.min_comm, ← List.take_eq_take_min]

theorem length_take_groups : ((ids.take count).map UInt32.toUInt64).length = count := by
  rw [List.length_map, List.length_take]
  omega

theorem size_take_groups
    : ((ids.take count).map UInt32.toUInt64).length * (4 : UInt64).toNat = 4 * count := by
  rw [length_take_groups hcount, Nat.mul_comm]
  rfl

include hend

theorem writeGroups_of_fits (hfits : view.Fits (4 * count)) (m : Memory)
    : ∃ after, view.writeIds 4 (ids.map UInt32.toUInt64) limit m = .ok (count, after) ∧
        (view.base.toNat + 4 * count ≤ UInt64.size →
          m.Stored view.base.toNat ((ids.take count).flatMap fun id => littleEndian 4 id.toNat)
            after) := by
  rw [← size_take_groups hcount] at hend hfits
  have ⟨after, hwritten, hstored⟩ := writeIds_of_fits (take_groups hcount) hend rfl hfits m
  rw [length_take_groups hcount] at hwritten
  rw [size_take_groups hcount, List.flatMap_map] at hstored
  exact ⟨after, hwritten, hstored⟩

theorem writeGroups_of_short {length : UInt64} (hlength : view.length = some length)
    (h : length.toNat < 4 * count) (m : Memory)
    : view.writeIds 4 (ids.map UInt32.toUInt64) limit m =
        .error (.outOfBounds (UInt64.ofNat (4 * count)) length) := by
  rw [← size_take_groups hcount] at hend h ⊢
  exact writeIds_of_short (take_groups hcount) hend hlength h m

end View

namespace CallPath

variable {platform : Platform κ η} {inv : Invocation} {max : Int64}
  (hmax : inv.args[0]? = some (.int max)) (w : World κ η)
include hmax

theorem groupCount_of_negative (h : max.toInt < 0)
    : groupCount platform inv w = (.error (.outOfRange inv.op 0 max), w) := by
  unfold groupCount
  rw [Call.run_bind, Call.run_liftExcept, Invocation.size_of_negative hmax h]

theorem groupCount_of_lists (h : 0 ≤ max.toInt) {ids : List UInt32}
    (hlists : platform.kernel.Lists w.toMachine ids)
    : groupCount platform inv w = (.ok (.status (.ok (Int64.ofNat ids.length))), w) := by
  unfold groupCount
  simp only [Call.run_bind, Call.run_liftExcept, Call.run_liftAction, Call.run_pure,
    Invocation.size_of_nonneg hmax h, hlists.groups_eq]
  rfl

theorem groups_of_negative (h : max.toInt < 0)
    : groups platform inv w = (.error (.outOfRange inv.op 0 max), w) := by
  unfold groups
  rw [Call.run_bind, Call.run_liftExcept, Invocation.size_of_negative hmax h]

variable (h : 0 ≤ max.toInt) {p : Pointer} (hpointer : inv.args[1]? = some (.pointer p))
include h hpointer

theorem groups_of_null (hp : p.address = 0)
    : groups platform inv w = (.error (.memory inv.op 1 .null), w) := by
  unfold groups
  simp only [Call.run_bind, Call.run_liftExcept, Invocation.size_of_nonneg hmax h,
    Invocation.view_of_null hpointer hp]

theorem groups_of_lists (hp : p.address ≠ 0) {ids : List UInt32}
    (hlists : platform.kernel.Lists w.toMachine ids)
    : groups platform inv w =
        match inv.memory 1 (View.writeIds ⟨p.address, p.length, hp⟩ 4 (ids.map UInt32.toUInt64)
          max.toUInt64 w.memory) with
        | .ok (_, after) =>
          (.ok (.status (.ok (Int64.ofNat ids.length))), { w with memory := after })
        | .error e => (.error e, w) := by
  unfold groups
  simp only [Call.run_bind, Call.run_liftExcept, Call.run_liftAction, Call.run_get,
    Call.run_modify, Call.run_pure, Invocation.size_of_nonneg hmax h,
    Invocation.view_of_pointer hpointer hp, hlists.groups_eq]
  cases inv.memory 1 (View.writeIds ⟨p.address, p.length, hp⟩ 4 (ids.map UInt32.toUInt64)
    max.toUInt64 w.memory) <;> rfl

end CallPath

namespace Table

theorem find?_getgroups (config : BindingConfig)
    : (Registry.builtIn config : Registry κ η).find? "getgroups" = some getgroups := by
  rfl

end Table

/-- What writing at most `max` of these groups at the pointer into the memory `m` gives, and the
memory that it leaves. No region reaches beyond the end of the address space. -/
inductive Pointer.Takes (p : Pointer) (ids : List UInt32) (max : Int64) (m : Memory)
    : Except CallError Variant → Memory → Prop where
  | tooShort {count : Nat} {length : UInt64} (hcount : count = min ids.length max.toInt.toNat)
      (hlength : p.length = some length) (h : length.toNat < 4 * count)
      : Takes p ids max m
          (.error (.memory "getgroups" 1 (.outOfBounds (UInt64.ofNat (4 * count)) length))) m
  | taken {count : Nat} {after : Memory} (hcount : count = min ids.length max.toInt.toNat)
      (hfits : ∀ length, p.length = some length → 4 * count ≤ length.toNat)
      (h : p.address.toNat + 4 * count ≤ UInt64.size →
        m.Stored p.address.toNat
          ((ids.take count).flatMap fun id => littleEndian 4 id.toNat) after)
      : Takes p ids max m (.ok (.int (Int64.ofNat ids.length))) after

namespace Registry

variable (config : BindingConfig) (platform : Platform κ η) (site : String) {w : World κ η}
  {max : Int64}

/-- The call gives what the path of its arm comes to. -/
theorem listing_gives (hspan : w.span = none) {arg : Variant} {arm : Arm (CallPath κ η)}
    (hselect : Dispatch.select "getgroups" Table.getgroups.arms [.int max, arg] = .ok arm)
    (outcome : Except CallError Outcome) {after : Memory}
    (hquiet : BoundOperation.registerAfter w.errno outcome = w.errno)
    (hfinal : ∀ substituted, outcome ≠ .ok (.redispatch substituted))
    (h : ∀ log span, arm.path platform ⟨"getgroups", [.int max, arg]⟩
      { w with log := log, span := span } =
        (outcome, { w with memory := after, log := log, span := span }))
    : Gives config platform site "getgroups" [.int max, arg] w
        ((⟨Table.getgroups, config⟩ : BoundOperation κ η).settle site outcome) after := by
  refine gives_of_dispatch Table.getgroups outcome (Table.find?_getgroups config) rfl
    ⟨rfl, nofun, hspan⟩ hquiet ?_
  intro log span
  exact Dispatch.dispatch_of_final hselect (h log span) hfinal

theorem listing_gives_of_negative (hspan : w.span = none) (h : max.toInt < 0) {arg : Variant}
    (harg : arg = .nil ∨ ∃ p, arg = .pointer p)
    : Gives config platform site "getgroups" [.int max, arg] w
        (.error (.outOfRange "getgroups" 0 max)) w.memory := by
  rcases harg with rfl | ⟨p, rfl⟩
  . refine listing_gives config platform site hspan rfl (.error _) rfl nofun ?_
    intro log span
    exact CallPath.groupCount_of_negative rfl _ h
  . refine listing_gives config platform site hspan rfl (.error _) rfl nofun ?_
    intro log span
    exact CallPath.groups_of_negative rfl _ h

theorem exists_writing_gives (hspan : w.span = none) (h : 0 ≤ max.toInt) {p : Pointer}
    (hp : p.address ≠ 0) {ids : List UInt32} (hlists : platform.kernel.Lists w.toMachine ids)
    : ∃ result after, p.Takes ids max w.memory result after ∧
        Gives config platform site "getgroups" [.int max, .pointer p] w result after := by
  have hnat : max.toUInt64.toNat = max.toInt.toNat := by
    rw [← Invocation.toNat_toUInt64 h, Int.toNat_natCast]
  have hend : 4 * min ids.length max.toUInt64.toNat < UInt64.size := by
    have := hlists.counted
    simp only [UInt64.size]
    omega
  let view : View := ⟨p.address, p.length, hp⟩
  by_cases hfits : view.Fits (4 * min ids.length max.toUInt64.toNat)
  . have ⟨after, hwritten, hstored⟩ := View.writeGroups_of_fits rfl hend hfits w.memory
    rw [hnat] at hfits hstored
    refine ⟨_, after, .taken rfl hfits hstored, ?_⟩
    refine listing_gives config platform site hspan rfl (.ok (.status (.ok _))) rfl nofun ?_
    intro log span
    refine (CallPath.groups_of_lists rfl { w with log := log, span := span } h rfl hp
      hlists).trans ?_
    rw [hwritten]
    rfl
  . simp only [View.Fits, not_forall, Nat.not_le] at hfits
    have ⟨length, hlength, hshort⟩ := hfits
    have hwritten := View.writeGroups_of_short rfl hend hlength hshort w.memory
    rw [hnat] at hshort hwritten
    refine ⟨_, _, .tooShort rfl hlength hshort, ?_⟩
    refine listing_gives config platform site hspan rfl (.error _) rfl nofun ?_
    intro log span
    refine (CallPath.groups_of_lists rfl { w with log := log, span := span } h rfl hp
      hlists).trans ?_
    rw [hwritten]
    rfl

/-- Both arms give the number of all groups, and as many as are asked for are written, or none at all. -/
theorem getgroups_fills (w : World κ η)
    : (w.span = none → ∀ max : Int64,
        (max.toInt < 0 → ∀ arg, (arg = .nil ∨ ∃ p, arg = .pointer p) →
          Gives config platform site "getgroups" [.int max, arg] w
            (.error (.outOfRange "getgroups" 0 max)) w.memory) ∧
        (0 ≤ max.toInt →
          (∀ p : Pointer, p.address = 0 →
            Gives config platform site "getgroups" [.int max, .pointer p] w
              (.error (.memory "getgroups" 1 .null)) w.memory) ∧
          ∀ ids, platform.kernel.Lists w.toMachine ids →
            Gives config platform site "getgroups" [.int max, .nil] w
              (.ok (.int (Int64.ofNat ids.length))) w.memory ∧
            ∀ p : Pointer, p.address ≠ 0 → ∃ result after, p.Takes ids max w.memory result after ∧
              Gives config platform site "getgroups" [.int max, .pointer p] w result after)) ∧
      ∀ args active, args.length = 2 → w.span = some active →
        (builtIn config).call platform site "getgroups" args w =
          (.error (.reentrant "getgroups" active),
            platform.wrote (config.refusalLines site args (.reentrant "getgroups" active)) w) := by
  refine ⟨?_, ?_⟩
  . intro hspan max
    refine ⟨?negative, ?nonnegative⟩
    case negative =>
      intro h arg harg
      exact listing_gives_of_negative config platform site hspan h harg
    case nonnegative =>
      intro h
      refine ⟨?_, ?_⟩
      . intro p hp
        refine listing_gives config platform site hspan rfl (.error _) rfl nofun ?_
        intro log span
        exact CallPath.groups_of_null rfl _ h rfl hp
      . intro ids hlists
        refine ⟨?_, ?_⟩
        . refine listing_gives config platform site hspan rfl (.ok (.status (.ok _))) rfl nofun ?_
          intro log span
          exact CallPath.groupCount_of_lists rfl _ h hlists
        . intro p hp
          exact exists_writing_gives config platform site hspan h hp hlists
  . intro args active harity hspan
    exact call_of_open Table.getgroups (Table.find?_getgroups config) harity nofun hspan

theorem getgroups_fills_two
    : let platform : Platform Posix TrackedDirectory :=
        ⟨Posix.kernel, .tracking Posix.kernel, .undisturbing⟩
      let os : Posix := { Posix.initial with
        identity := { Posix.initial.identity with groups := [7, 0x102, 9] } }
      let w : World Posix TrackedDirectory :=
        ⟨⟨⟨[⟨16, #[1, 1, 1, 1, 1, 1, 1, 1, 1]⟩], 64⟩, ⟨0⟩, os⟩, none, #[], ⟨Path.root⟩⟩
      ∃ after, Gives {} platform "here" "getgroups" [.int 2, .pointer ⟨16, some 8⟩] w
          (.ok (.int 3)) after ∧
        (List.range' 16 9).map after.byte? =
          [some 7, some 0, some 0, some 0, some 2, some 1, some 0, some 0, some 1] := by
  intro platform os w
  have ⟨_, hnonnegative⟩ := (getgroups_fills {} platform "here" w).1 rfl 2
  have ⟨_, hlisted⟩ := hnonnegative (by decide)
  have ⟨_, hwriting⟩ := hlisted _ (Posix.lists w.toMachine (by decide))
  have ⟨result, after, htakes, hgives⟩ := hwriting ⟨16, some 8⟩ (by decide)
  cases htakes with
  | tooShort hcount hlength h =>
    cases hcount
    cases hlength
    exact absurd h (by decide)
  | taken hcount _ hstored =>
    cases hcount
    refine ⟨after, hgives, ?_⟩
    rw [funext (hstored (by decide))]
    decide

end Registry

end NativeCall
