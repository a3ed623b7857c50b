import Mathlib.Data.List.Basic
import NativeCall.Proofs.Dispatching
import NativeCall.Proofs.Paths
import NativeCall.Proofs.Rows

/-!
This module contains that the paths of every operation of the library, and dispatch among them, come
to no more than what a path can come to.
-/

namespace NativeCall

variable {κ η : Type}

/-- Every arm of the operation comes to what `Carried` allows, and a hook can only tell the host of
the directory. -/
structure Operation.Carries (platform : Platform κ η) (op : Operation (Traced κ) η) : Prop where
  arms : ∀ arm ∈ op.arms, arm.Carries platform op.name op.policy
  onSuccess : op.onSuccess = none ∨ op.onSuccess = some Table.tellDirectory

namespace Operation

variable {platform : Platform κ η} {name : String} {arity : Nat} {policy : Policy}

theorem Carries.single {arm : Arm (CallPath (Traced κ) η)}
    (h : arm.Carries platform name policy)
    : (⟨name, arity, policy, [arm], none⟩ : Operation (Traced κ) η).Carries platform := by
  exact ⟨List.forall_mem_singleton.mpr h, Or.inl rfl⟩

theorem Carries.native {guard : Guard} {decode : Invocation → Except CallError Plan}
    (h : ∀ memory inv, Decodes (decode inv) (Plan.Sound policy memory inv.args))
    : (⟨name, arity, policy, [Table.arm guard decode], none⟩ : Operation (Traced κ) η).Carries
        platform := by
  exact .single (CallPath.carries_native h)

theorem Carries.nativeIn {guard : Guard} {decode : Memory → Invocation → Except CallError Plan}
    (h : ∀ memory inv, Decodes (decode memory inv) (Plan.Sound policy memory inv.args))
    : (⟨name, arity, policy, [Table.armIn guard decode], none⟩ : Operation (Traced κ) η).Carries
        platform := by
  exact .single (CallPath.carries_nativeIn h)

end Operation

variable {name : String} {policy : Policy} {guard : Guard} {inv : Invocation}

theorem Request.Plain.sound {x : Except CallError Plan} (h : Plain name policy guard inv x)
    (memory : Memory) : Decodes x (Plan.Sound policy memory inv.args) := by
  induction h with
  | status hpolicy hregions _ => exact .status (hregions memory) hpolicy
  | info hpolicy hregions _ =>
    subst hpolicy
    exact .info (hregions memory)
  | text _ _ ih => exact Decodes.step fun s => ih s
  | @number index _ _ _ _ ih =>
    apply Decodes.read (x := inv.cInt index)
    intro n ⟨hint, hbits⟩
    exact ih n hint hbits

namespace Table

theorem Row.carries {row : ∀ κ η : Type, Operation κ η} (h : Row row) (platform : Platform κ η)
    : (row (Traced κ) η).Carries platform := by
  cases h with
  | plain _ h => exact .native fun memory inv => (h inv).sound memory
  | missing => exact .single (CallPath.carries_unsupported _)
  | chdir h =>
    refine ⟨List.forall_mem_singleton.mpr ?_, Or.inr rfl⟩
    exact CallPath.carries_native fun memory inv => (h inv).sound memory
  | fcntl h h' =>
    refine ⟨List.forall_iff_forall_mem.mp ⟨?_, ?_⟩, Or.inl rfl⟩
    . exact CallPath.carries_native fun memory inv => (h inv).sound memory
    . exact CallPath.carries_native fun memory inv => (h' inv).sound memory
  | getcwd =>
    refine ⟨List.forall_iff_forall_mem.mp ?_, Or.inl rfl⟩
    exact ⟨CallPath.carries_native Request.getcwd_sound, CallPath.carries_hostDirectory _⟩
  | readlink => exact .native Request.readlink_sound
  | utimes => exact .native Request.utimes_sound
  | getgroups =>
    refine ⟨List.forall_iff_forall_mem.mp ?_, Or.inl rfl⟩
    exact ⟨CallPath.carries_groupCount _, CallPath.carries_groups _⟩
  | getrlimit => exact .native Request.getrlimit_sound
  | setrlimit => exact .native Request.setrlimit_sound
  | getenv => exact .native Request.getenv_sound
  | environ => exact .native Request.environ_sound
  | memset => exact .single (CallPath.carries_memset _)
  | major => exact .single (CallPath.carries_device fun _ _ _ h => .major h)
  | minor => exact .single (CallPath.carries_device fun _ _ _ h => .minor h)
  | getaddrinfo =>
    refine ⟨List.forall_iff_forall_mem.mp ?_, Or.inl rfl⟩
    exact ⟨CallPath.carries_wildcard _, CallPath.carries_native Request.getaddrinfo_sound,
      CallPath.carries_native Request.getaddrinfoHost_sound⟩
  | freeaddrinfo => exact .native Request.freeaddrinfo_sound
  | getnameinfo =>
    refine ⟨List.forall_iff_forall_mem.mp ?_, Or.inl rfl⟩
    exact ⟨CallPath.carries_native Request.getnameinfo_sound,
      CallPath.carries_native Request.getnameinfo_sound,
      CallPath.carries_native Request.getnameinfo_sound⟩
  | connect => exact .native Request.connect_sound
  | bind => exact .native Request.bind_sound
  | setsockopt => exact .native Request.setsockopt_sound
  | getsockopt =>
    refine ⟨List.forall_iff_forall_mem.mp ?_, Or.inl rfl⟩
    exact ⟨CallPath.carries_nativeIn Request.getsockopt_sound,
      CallPath.carries_getsockoptByName _⟩
  | gethostname => exact .native Request.gethostname_sound
  | getpeername => exact .nativeIn Request.getpeername_sound
  | getsockname => exact .nativeIn Request.getsockname_sound
  | lastErrno => exact .single (CallPath.carries_lastError _)
  | setErrno => exact .single (CallPath.carries_setLastError _)

theorem builtIn_carry (platform : Platform κ η) : ∀ op ∈ builtIn, op.Carries platform := by
  exact forall_builtIn fun _ h => h.carries platform

end Table

namespace Carried

variable {platform : Platform κ η} {name : String} {policy : Policy} {args : List Variant}
  {w : World (Traced κ) η}

theorem of_substituted {s : String} {run : Except CallError Outcome × World (Traced κ) η}
    (h : Carried platform "_getaddrinfo" policy (args.set 0 (.str s)) w run)
    (hrun : ∀ twice, run.1 ≠ .ok (.redispatch twice))
    : Carried platform "_getaddrinfo" policy args w run := by
  cases h with
  | refused hasked he => exact .refused hasked he
  | substituted => exact absurd rfl (hrun _)
  | computed _ _ h => exact absurd h.name_mem (by decide)
  | told hname => exact absurd hname (by decide)
  | overrun hname hlisted he => exact .overrun hname hlisted he
  | listed hname => exact absurd hname (by decide)
  | @requested w' reply p hasked hhandovers hreply =>
    have hsound : ∀ handover ∈ p.handovers w'.memory, handover.Sound args := by
      intro handover hmem
      exact (hhandovers handover hmem).of_set
    have hanswer : Outcome.ofAnswer policy (args.set 0 (.str s)) reply
        (platform.traced.run p w').1 (platform.traced.run p w').2.errno =
        Outcome.ofAnswer policy args reply (platform.traced.run p w').1
          (platform.traced.run p w').2.errno := by
      cases reply with
      | flag =>
        cases p with
        | getcwd buffer size =>
          have ⟨pointer, harg⟩ := (hhandovers _ (List.mem_singleton_self _)).pointer
          rw [List.getElem?_set_self'] at harg
          cases hhead : args[0]? with
          | none => simp [hhead] at harg
          | some v => simp [hhead] at harg
      | number | text | ids | address | done => rfl
    rw [hanswer]
    exact .requested p hasked hsound hreply

end Carried

namespace Dispatch

variable {platform : Platform κ η} {op : Operation (Traced κ) η} (hop : op.Carries platform)
include hop

theorem again_carried (hname : op.name = "_getaddrinfo") (args : List Variant)
    (w : World (Traced κ) η)
    : Carried platform op.name op.policy args w
        (again op.name op.arms platform.traced args
          (args.set 0 (.str Request.wildcardHost)) w) := by
  rw [again_eq]
  cases hselect : select op.name op.arms (args.set 0 (.str Request.wildcardHost)) with
  | error e => exact .refused .nothing (Or.inl rfl)
  | ok arm =>
    have hcarried := hop.arms arm (select_eq_ok hselect).1
      (args.set 0 (.str Request.wildcardHost)) w
    dsimp only
    split
    . next twice w' hrun =>
      rw [hrun] at hcarried
      have ⟨_, _, hworld⟩ := hcarried.of_redispatch rfl
      subst hworld
      exact .refused .nothing (Or.inl rfl)
    . next hrun =>
      rw [hname] at hcarried hrun ⊢
      apply hcarried.of_substituted
      intro twice htwice
      exact hrun twice _ (Prod.ext htwice rfl)

end Dispatch

theorem dispatch_carried {platform : Platform κ η} {op : Operation (Traced κ) η}
    (hop : op.Carries platform) (args : List Variant) (w : World (Traced κ) η)
    : Carried platform op.name op.policy args w
        (dispatch op.name op.arms platform.traced args w) := by
  rw [dispatch_eq]
  cases hselect : Dispatch.select op.name op.arms args with
  | error e =>
    rw [Dispatch.select_eq_error hselect]
    exact .refused .nothing (Or.inl rfl)
  | ok arm =>
    have hcarried := hop.arms arm (Dispatch.select_eq_ok hselect).1 args w
    dsimp only
    split
    . next substituted w' hrun =>
      rw [hrun] at hcarried
      have ⟨hname, hsubstituted, hworld⟩ := hcarried.of_redispatch rfl
      subst hsubstituted hworld
      exact Dispatch.again_carried hop hname args _
    . exact hcarried

end NativeCall
