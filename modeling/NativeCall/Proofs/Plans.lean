import NativeCall.Proofs.Handover
import NativeCall.Registry
import NativeCall.Request.Files
import NativeCall.Request.Process

/-!
This module contains what every decoded request promises: its regions lie inside the handles of the
caller, and its answer means what the operation's policy says.
-/

namespace NativeCall

namespace Reply

/-- The answer stands for a failure, whose code is in the register. -/
def failed : (reply : Reply) → reply.Value → Bool
  | number, n => n == -1
  | flag, found => !found
  | ids, answer => answer.count == -1
  | text, _ => false
  | address, _ => false
  | done, _ => false

end Reply

/-- The outcome that an answer of the system means for an operation with a policy. -/
def Outcome.ofAnswer (policy : Policy) (args : List Variant)
    : (reply : Reply) → reply.Value → Errno → Outcome
  | .number, n, register =>
    if policy = .informational then .info n else .status (sentinel n register)
  | .flag, found, register => .value (if found then .ok (args.headD .nil) else .error register)
  | .text, text, _ => .value (.ok (Variant.ofOption (fun s => .str (Text.decodeLossy s)) text))
  | .ids, answer, register => .status (sentinel answer.count.toInt64 register)
  | .address, address, _ => .value (.ok (.pointer ⟨address, none⟩))
  | .done, (), _ => .value (.ok .nil)

theorem Outcome.ofAnswer_ne_redispatch (policy : Policy) (args : List Variant) (reply : Reply)
    (answer : reply.Value) (register : Errno) (substituted : List Variant)
    : ofAnswer policy args reply answer register ≠ .redispatch substituted := by
  cases reply with
  | number =>
    simp only [ofAnswer]
    split <;> simp
  | flag | text | ids | address | done => simp [ofAnswer]

/-- What a plan that was decoded from `args` on `memory` promises. -/
structure Plan.Sound (policy : Policy) (memory : Memory) (args : List Variant) (plan : Plan)
    : Prop where
  handovers : ∀ handover ∈ plan.primitive.handovers memory, handover.Sound args
  conclude : ∀ answer register,
    plan.conclude answer register = Outcome.ofAnswer policy args plan.reply answer register
  reply : plan.reply ≠ .ids ∧ (policy = .informational → plan.reply ≠ .flag)

namespace Plan

variable {policy : Policy} {memory : Memory} {args : List Variant}

theorem sound_status {p : Primitive .number}
    (h : ∀ handover ∈ p.handovers memory, handover.Sound args)
    (hpolicy : policy ≠ .informational) : Sound policy memory args (status p) := by
  constructor
  . exact h
  . intro answer register
    simp only [status, Outcome.ofAnswer, hpolicy, ↓reduceIte]
  . exact ⟨nofun, nofun⟩

theorem sound_info {p : Primitive .number}
    (h : ∀ handover ∈ p.handovers memory, handover.Sound args)
    : Sound .informational memory args (info p) := by
  constructor
  . exact h
  . intro answer register
    rfl
  . exact ⟨nofun, nofun⟩

end Plan

section Plain

variable {policy : Policy} {memory : Memory} {args : List Variant}

theorem Decodes.status {p : Primitive .number} (h : p.handovers memory = [])
    (hpolicy : policy ≠ .informational)
    : Decodes (Pure.pure (Plan.status p)) (Plan.Sound policy memory args) := by
  apply Decodes.pure
  apply Plan.sound_status
  . rw [h]
    apply List.forall_mem_nil
  . exact hpolicy

theorem Decodes.info {p : Primitive .number} (h : p.handovers memory = [])
    : Decodes (Pure.pure (Plan.info p)) (Plan.Sound .informational memory args) := by
  apply Decodes.pure
  apply Plan.sound_info
  rw [h]
  apply List.forall_mem_nil

end Plain

namespace Request

variable (memory : Memory) (inv : Invocation)

theorem getcwd_sound : Decodes (getcwd inv) (Plan.Sound .passThrough memory inv.args) := by
  unfold getcwd
  apply (inv.decodes_pointer 0).bind
  intro handle hhandle
  apply (inv.decodes_view 0).bind
  intro view hview
  apply (inv.decodes_size 1).bind
  intro size hsize
  apply (inv.decodes_memory 0 _).bind
  intro _ hcheck
  apply Decodes.pure
  constructor
  . refine List.forall_mem_singleton.mpr ?_
    exact Handover.sound_of_view hview (View.fits_of_check hcheck)
      (Handover.stated_of_decodes hsize) false
  . intro found register
    have : inv.args.headD .nil = .pointer handle := by
      rw [List.headD_eq_head?_getD, List.head?_eq_getElem?, hhandle]
      rfl
    simp only [Outcome.ofAnswer, this]
  . exact ⟨nofun, nofun⟩

theorem readlink_sound : Decodes (readlink inv) (Plan.Sound .raise memory inv.args) := by
  unfold readlink
  apply (inv.decodes_cString 0).bind
  intro path _
  apply (inv.decodes_view 1).bind
  intro view hview
  apply (inv.decodes_size 2).bind
  intro size hsize
  apply (inv.decodes_memory 1 _).bind
  intro _ hcheck
  apply Decodes.pure
  refine Plan.sound_status (List.forall_mem_singleton.mpr ?_) (by decide)
  exact Handover.sound_of_view hview (View.fits_of_check hcheck)
    (Handover.stated_of_decodes hsize) false

theorem utimes_sound : Decodes (utimes inv) (Plan.Sound .raise memory inv.args) := by
  unfold utimes
  apply (inv.decodes_cString 0).bind
  intro path _
  apply (inv.decodes_region 1 timePairSize).bind
  intro times htimes
  apply Decodes.pure
  refine Plan.sound_status (List.forall_mem_singleton.mpr ?_) (by decide)
  exact Handover.sound_of_view htimes.1 htimes.2 Handover.stated_none false

theorem limit_sound (p : UInt32 → UInt64 → Primitive .number)
    (h : ∀ resource limit, (p resource limit).handovers memory = [⟨1, limit, 16, none, false⟩])
    : Decodes
        (do
          let limit ← inv.region 1 limitSize
          return .status (p (← inv.cInt 0).toUInt32 limit.base))
        (Plan.Sound .raise memory inv.args) := by
  apply (inv.decodes_region 1 limitSize).bind
  intro limit hlimit
  apply (inv.decodes_cInt 0).bind
  intro resource _
  apply Decodes.pure
  apply Plan.sound_status
  . rw [h, List.forall_mem_singleton]
    exact Handover.sound_of_view hlimit.1 hlimit.2 Handover.stated_none false
  . decide

theorem getrlimit_sound : Decodes (getrlimit inv) (Plan.Sound .raise memory inv.args) := by
  apply limit_sound
  intro resource limit
  rfl

theorem setrlimit_sound : Decodes (setrlimit inv) (Plan.Sound .raise memory inv.args) := by
  apply limit_sound
  intro resource limit
  rfl

theorem decodes_sizedRegion (index lengthIndex : Nat)
    : Decodes (sizedRegion inv index lengthIndex) fun r =>
        (⟨index, r.1.base, r.2.toNat, some lengthIndex, false⟩ : Handover).Sound inv.args := by
  unfold sizedRegion
  apply (inv.decodes_view index).bind
  intro view hview
  apply (inv.decodes_socketLength lengthIndex).bind
  intro length hlength
  apply (inv.decodes_memory index _).bind
  intro _ hcheck
  apply Decodes.pure
  have hfits := View.fits_of_check hcheck
  rw [UInt32.toNat_toUInt64] at hfits
  exact Handover.sound_of_view hview hfits (Handover.stated_of_decodes hlength) false

theorem addressed_sound (p : Int32 → UInt64 → UInt32 → Primitive .number)
    (h : ∀ fd target length,
      (p fd target length).handovers memory = [⟨1, target, length.toNat, some 2, false⟩])
    : Decodes
        (do
          let (target, length) ← sizedRegion inv 1 2
          return .status (p (← inv.cInt 0) target.base length))
        (Plan.Sound .passThrough memory inv.args) := by
  apply (decodes_sizedRegion inv 1 2).bind
  rintro ⟨target, length⟩ htarget
  apply (inv.decodes_cInt 0).bind
  intro fd _
  apply Decodes.pure
  apply Plan.sound_status
  . rw [h, List.forall_mem_singleton]
    exact htarget
  . decide

theorem connect_sound : Decodes (connect inv) (Plan.Sound .passThrough memory inv.args) := by
  apply addressed_sound
  intro fd target length
  rfl

theorem bind_sound : Decodes (Request.bind inv) (Plan.Sound .passThrough memory inv.args) := by
  apply addressed_sound
  intro fd target length
  rfl

theorem setsockopt_sound
    : Decodes (setsockopt inv) (Plan.Sound .passThrough memory inv.args) := by
  unfold setsockopt
  apply (decodes_sizedRegion inv 3 4).bind
  rintro ⟨value, length⟩ hvalue
  apply (inv.decodes_cInt 0).bind
  intro fd _
  apply (inv.decodes_cInt 1).bind
  intro level _
  apply (inv.decodes_cInt 2).bind
  intro name _
  exact .pure (Plan.sound_status (List.forall_mem_singleton.mpr hvalue) (by decide))

theorem gethostname_sound
    : Decodes (gethostname inv) (Plan.Sound .passThrough memory inv.args) := by
  unfold gethostname
  apply (inv.decodes_view 0).bind
  intro view hview
  apply (inv.decodes_size 1).bind
  intro length hlength
  apply (inv.decodes_memory 0 _).bind
  intro _ hcheck
  apply Decodes.pure
  refine Plan.sound_status (List.forall_mem_singleton.mpr ?_) (by decide)
  exact Handover.sound_of_view hview (View.fits_of_check hcheck)
    (Handover.stated_of_decodes hlength) false

theorem decodes_outputRegion (index lengthIndex : Nat)
    : Decodes (outputRegion memory inv index lengthIndex) fun r =>
        ∀ handover ∈ [(⟨index, r.1.base, memory.storedLength r.2.base, none, false⟩ : Handover),
          ⟨lengthIndex, r.2.base, 4, none, false⟩], handover.Sound inv.args := by
  unfold outputRegion
  apply (inv.decodes_view index).bind
  intro out hout
  apply (inv.decodes_region lengthIndex lengthSize).bind
  intro length hlength
  apply (inv.decodes_memory lengthIndex _).bind
  intro capacity hcapacity
  apply (inv.decodes_memory index _).bind
  intro _ hcheck
  apply Decodes.pure
  have hfits := View.fits_of_check hcheck
  rw [View.readUInt_storedLength hcapacity] at hfits
  refine List.forall_mem_cons.mpr ⟨?_, List.forall_mem_singleton.mpr ?_⟩
  . exact Handover.sound_of_view hout hfits Handover.stated_none false
  . exact Handover.sound_of_view hlength.1 hlength.2 Handover.stated_none false

theorem socketOption_sound (level name : Int32)
    : Decodes (socketOption memory inv level name)
        (Plan.Sound .passThrough memory inv.args) := by
  unfold socketOption
  apply (decodes_outputRegion memory inv 3 4).bind
  rintro ⟨value, length⟩ hregions
  apply (inv.decodes_cInt 0).bind
  intro fd _
  exact .pure (Plan.sound_status hregions (by decide))

theorem getsockopt_sound
    : Decodes (getsockopt memory inv) (Plan.Sound .passThrough memory inv.args) := by
  unfold getsockopt
  apply (inv.decodes_cInt 1).bind
  intro level _
  apply (inv.decodes_cInt 2).bind
  intro name _
  apply socketOption_sound

theorem endpoint_sound (p : Int32 → UInt64 → UInt64 → Primitive .number)
    (h : ∀ fd target length, (p fd target length).handovers memory =
      [⟨1, target, memory.storedLength length, none, false⟩, ⟨2, length, 4, none, false⟩])
    : Decodes
        (do
          let (target, length) ← outputRegion memory inv 1 2
          return .status (p (← inv.cInt 0) target.base length.base))
        (Plan.Sound .passThrough memory inv.args) := by
  apply (decodes_outputRegion memory inv 1 2).bind
  rintro ⟨target, length⟩ hregions
  apply (inv.decodes_cInt 0).bind
  intro fd _
  apply Decodes.pure
  apply Plan.sound_status
  . rw [h]
    exact hregions
  . decide

theorem getpeername_sound
    : Decodes (getpeername memory inv) (Plan.Sound .passThrough memory inv.args) := by
  apply endpoint_sound
  intro fd target length
  rfl

theorem getsockname_sound
    : Decodes (getsockname memory inv) (Plan.Sound .passThrough memory inv.args) := by
  apply endpoint_sound
  intro fd target length
  rfl

theorem freeaddrinfo_sound
    : Decodes (freeaddrinfo inv) (Plan.Sound .informational memory inv.args) := by
  unfold freeaddrinfo
  apply (inv.decodes_view 0).bind
  intro chain hchain
  apply Decodes.pure
  constructor
  . refine List.forall_mem_singleton.mpr (Handover.sound_of_view hchain ?_ Handover.stated_none
      false)
    intro length _
    apply Nat.zero_le
  . intro answer register
    rfl
  . exact ⟨nofun, nofun⟩

theorem resolve_sound (service : Option CString)
    : Decodes (resolve inv service) (Plan.Sound .informational memory inv.args) := by
  unfold resolve
  apply (inv.decodes_cString 0).bind
  intro host _
  apply (inv.decodes_nullableView 2).bind
  intro hints hhints
  have hrest : (⟨2, hints.elim 0 (·.base), if hints.elim 0 (·.base) = 0 then 0 else 48, none,
        true⟩ :
        Handover).Sound inv.args →
      Decodes (do
          let result ← inv.region 3 addressSize
          return .info (.getaddrinfo host service (hints.elim 0 (·.base)) result.base))
        (Plan.Sound .informational memory inv.args) := by
    intro hhandover
    apply (inv.decodes_region 3 addressSize).bind
    intro result hresult
    refine .pure (Plan.sound_info (List.forall_mem_cons.mpr ⟨hhandover, ?_⟩))
    exact List.forall_mem_singleton.mpr
      (Handover.sound_of_view hresult.1 hresult.2 Handover.stated_none false)
  cases hints with
  | none => exact hrest (Handover.sound_of_missing hhints Handover.stated_none)
  | some v =>
    apply (inv.decodes_memory 2 _).bind
    intro _ hcheck
    apply hrest
    simp only [Option.elim_some, v.base_ne_zero, ↓reduceIte]
    exact Handover.sound_of_view hhints (View.fits_of_check hcheck) Handover.stated_none true

theorem nameOutput_sound (index : Nat) (what : String)
    : Decodes (nameOutput inv index what) fun r =>
        (⟨index, r.1, r.2.toNat, some (index + 1), true⟩ : Handover).Sound inv.args := by
  unfold nameOutput
  apply (inv.decodes_socketLength (index + 1)).bind
  intro length hlength
  apply (inv.decodes_nullableView index).bind
  intro view hview
  split
  . split
    . next hzero =>
      rw [hzero] at hlength
      exact .pure (Handover.sound_of_missing hview (Handover.stated_of_decodes hlength))
    . exact .throw rfl
  . split
    . exact .throw rfl
    . apply (inv.decodes_memory index _).bind
      intro _ hcheck
      apply Decodes.pure
      have hfits := View.fits_of_check hcheck
      rw [UInt32.toNat_toUInt64] at hfits
      exact Handover.sound_of_view hview hfits (Handover.stated_of_decodes hlength) true

theorem getnameinfo_sound
    : Decodes (getnameinfo inv) (Plan.Sound .informational memory inv.args) := by
  unfold getnameinfo
  apply (decodes_sizedRegion inv 0 1).bind
  rintro ⟨target, length⟩ htarget
  apply (nameOutput_sound inv 2 "host").bind
  rintro ⟨host, hostLength⟩ hhost
  apply (nameOutput_sound inv 4 "service").bind
  rintro ⟨service, serviceLength⟩ hservice
  apply (inv.decodes_cInt 6).bind
  intro flags _
  refine .pure (Plan.sound_info ?_)
  refine List.forall_mem_cons.mpr ⟨htarget, List.forall_mem_cons.mpr ⟨hhost, ?_⟩⟩
  exact List.forall_mem_singleton.mpr hservice

theorem getaddrinfo_sound
    : Decodes (getaddrinfo inv) (Plan.Sound .informational memory inv.args) := by
  unfold getaddrinfo
  apply (inv.decodes_cString 1).bind
  intro service _
  apply resolve_sound

theorem getaddrinfoHost_sound
    : Decodes (getaddrinfoHost inv) (Plan.Sound .informational memory inv.args) := by
  apply resolve_sound

theorem getenv_sound
    : Decodes (getenv inv) (Plan.Sound .informational memory inv.args) := by
  unfold getenv
  apply Decodes.step
  intro name
  apply Decodes.pure
  constructor
  . apply List.forall_mem_nil
  . intro text register
    rfl
  . exact ⟨nofun, nofun⟩

theorem environ_sound
    : Decodes (environ inv) (Plan.Sound .informational memory inv.args) := by
  apply Decodes.pure
  constructor
  . apply List.forall_mem_nil
  . intro address register
    rfl
  . exact ⟨nofun, nofun⟩

end Request

end NativeCall
