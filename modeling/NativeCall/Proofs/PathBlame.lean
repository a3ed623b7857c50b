import Mathlib.Data.List.Basic
import NativeCall.Proofs.Listing
import NativeCall.Proofs.PathComplaints

/-!
This module contains that the paths of the library blame the right argument.
-/

namespace NativeCall

variable {κ η α β : Type}

/-- Whatever its arguments are, decoding a call of `op` blames the right one. -/
def Invocation.Blaming (op : String) (decode : Invocation → Except CallError α) : Prop :=
  ∀ args, FailsWith (Blames op args) (decode ⟨op, args⟩)

/-- Whatever its arguments are, the arm's path blames the right one. -/
def Arm.Blaming (op : String) (arm : Arm (CallPath κ η)) : Prop :=
  ∀ platform args, Call.FailsWith (Blames op args) (arm.path platform ⟨op, args⟩)

def Operation.Blaming (op : Operation κ η) : Prop :=
  ∀ arm ∈ op.arms, arm.Blaming op.name

namespace Call

theorem bind_eq_error {x : Except CallError α} {f : α → Call κ η β} {w : World κ η} {e : CallError}
    (h : ((liftM x >>= f : Call κ η β) w).1 = .error e)
    : x = .error e ∨ ∃ a, x = .ok a ∧ (f a w).1 = .error e := by
  rw [run_bind, run_liftExcept] at h
  cases x with
  | error e' =>
    cases h
    exact Or.inl rfl
  | ok a => exact Or.inr ⟨a, rfl, h⟩

theorem FailsWith.bindExcept {P : CallError → Prop} {x : Except CallError α} {f : α → Call κ η β}
    (hx : NativeCall.FailsWith P x) (hf : ∀ a, x = .ok a → FailsWith P (f a))
    : FailsWith P (liftM x >>= f : Call κ η β) := by
  constructor
  intro w e he
  rcases bind_eq_error he with hrun | ⟨a, hrun, he⟩
  . exact hx.error e hrun
  . exact (hf a hrun).error w e he

end Call

namespace Request

open Invocation

theorem getcwd_blaming : Blaming "getcwd" getcwd := by
  intro args
  apply FailsWith.bind blames_decode
  intro handle _
  apply blames_view_bind
  intro view hview
  apply FailsWith.bind (blames_size rfl)
  intro size _
  apply blames_check_bind hview
  intro _
  apply FailsWith.pure

theorem readlink_blaming : Blaming "readlink" readlink := by
  intro args
  apply blames_cString_bind
  intro path
  apply blames_view_bind
  intro view hview
  apply FailsWith.bind (blames_size rfl)
  intro size _
  apply blames_check_bind hview
  intro _
  apply FailsWith.pure

theorem utimes_blaming : Blaming "utimes" utimes := by
  intro args
  apply blames_cString_bind
  intro path
  apply FailsWith.bind (blames_region timePairSize)
  intro times _
  apply FailsWith.pure

theorem limit_blaming {op : String} (h : Narrowing.at? op 0 = some .cInt)
    (p : UInt32 → UInt64 → Primitive .number)
    : Blaming op fun inv => do
        let limit ← inv.region 1 limitSize
        return Plan.status (p (← inv.cInt 0).toUInt32 limit.base) := by
  intro args
  apply FailsWith.bind (blames_region limitSize)
  intro limit _
  apply blames_cInt_bind h
  intro resource
  apply FailsWith.pure

theorem getenv_blaming : Blaming "getenv" getenv := by
  intro args
  apply blames_cString_bind
  intro name
  apply FailsWith.pure

theorem addressed_blaming {op : String} (h : Narrowing.at? op 0 = some .cInt)
    (hlength : Narrowing.at? op 2 = some .socketLength)
    (p : Int32 → UInt64 → UInt32 → Primitive .number)
    : Blaming op fun inv => do
        let (target, length) ← sizedRegion inv 1 2
        return Plan.status (p (← inv.cInt 0) target.base length) := by
  intro args
  apply FailsWith.bind (blames_sizedRegion hlength)
  intro target _
  apply blames_cInt_bind h
  intro fd
  apply FailsWith.pure

theorem setsockopt_blaming : Blaming "setsockopt" setsockopt := by
  intro args
  apply FailsWith.bind (blames_sizedRegion rfl)
  intro value _
  repeat' (apply blames_cInt_bind rfl; intro _)
  apply FailsWith.pure

theorem getsockopt_blaming (memory : Memory) : Blaming "_getsockopt" (getsockopt memory) := by
  intro args
  apply blames_cInt_bind rfl
  intro level
  apply blames_cInt_bind rfl
  intro name
  exact blames_socketOption memory level name rfl

theorem gethostname_blaming : Blaming "gethostname" gethostname := by
  intro args
  apply blames_view_bind
  intro view hview
  apply FailsWith.bind (blames_size rfl)
  intro length _
  apply blames_check_bind hview
  intro _
  apply FailsWith.pure

theorem endpoint_blaming {op : String} (h : Narrowing.at? op 0 = some .cInt) (memory : Memory)
    (p : Int32 → UInt64 → UInt64 → Primitive .number)
    : Blaming op fun inv => do
        let (target, length) ← outputRegion memory inv 1 2
        return Plan.status (p (← inv.cInt 0) target.base length.base) := by
  intro args
  apply FailsWith.bind (blames_outputRegion memory)
  intro target _
  apply blames_cInt_bind h
  intro fd
  apply FailsWith.pure

theorem freeaddrinfo_blaming : Blaming "freeaddrinfo" freeaddrinfo := by
  intro args
  apply blames_view_bind
  intro chain _
  apply FailsWith.pure

theorem resolve_blaming (service : Option CString)
    : Blaming "_getaddrinfo" (resolve · service) := by
  intro args
  have hresult (host : CString) (hints : Option View)
      : FailsWith (Blames "_getaddrinfo" args) (do
          let result ← region ⟨"_getaddrinfo", args⟩ 3 addressSize
          return Plan.info (.getaddrinfo host service (hints.elim 0 (·.base)) result.base)) := by
    apply FailsWith.bind (blames_region addressSize)
    intro result _
    apply FailsWith.pure
  apply blames_cString_bind
  intro host
  apply FailsWith.bind blames_nullableView
  intro hints hhints
  have harg := (decodes_nullableView _ 2).value hints hhints
  cases hints with
  | none => apply hresult
  | some view =>
    apply blames_check_bind harg
    intro _
    apply hresult

theorem getaddrinfo_blaming : Blaming "_getaddrinfo" getaddrinfo := by
  intro args
  apply blames_cString_bind
  intro service
  exact resolve_blaming (some service) args

theorem getnameinfo_blaming : Blaming "_getnameinfo" getnameinfo := by
  intro args
  apply FailsWith.bind (blames_sizedRegion rfl)
  intro target _
  apply FailsWith.bind (blames_nameOutput rfl)
  intro host _
  apply FailsWith.bind (blames_nameOutput rfl)
  intro service _
  apply blames_cInt_bind rfl
  intro flags
  apply FailsWith.pure

end Request

namespace CallPath

open Invocation

variable {op : String}

theorem native_blaming {decode : Invocation → Except CallError Plan} (h : Blaming op decode)
    (guard : Guard) : (Table.arm guard decode : Arm (CallPath κ η)).Blaming op := by
  intro platform args
  exact carryOut_agrees platform (h args)

theorem nativeIn_blaming {decode : Memory → Invocation → Except CallError Plan}
    (h : ∀ memory, Blaming op (decode memory)) (guard : Guard)
    : (Table.armIn guard decode : Arm (CallPath κ η)).Blaming op := by
  intro platform args
  apply Call.FailsWith.bind .read
  intro w
  exact carryOut_agrees platform (h w.memory args)

theorem pure_blaming {outcome : Invocation → Except CallError Outcome} (h : Blaming op outcome)
    (guard : Guard) : (⟨guard, .pure outcome⟩ : Arm (CallPath κ η)).Blaming op := by
  intro platform args
  exact .liftExcept (h args)

theorem unsupported_blaming (guard : Guard)
    : (⟨guard, unsupported⟩ : Arm (CallPath κ η)).Blaming op := by
  apply pure_blaming
  intro args
  exact .throw (.other rfl rfl)

theorem wildcard_blaming (guard : Guard)
    : (⟨guard, .pure Request.wildcard⟩ : Arm (CallPath κ η)).Blaming op := by
  apply pure_blaming
  intro args
  apply FailsWith.pure

theorem hostDirectory_blaming (guard : Guard)
    : (⟨guard, hostDirectory⟩ : Arm (CallPath κ η)).Blaming op := by
  intro platform args
  apply Call.FailsWith.bind (.liftAction _)
  intro path
  apply Call.FailsWith.pure

theorem device_blaming (part : Int32 → Int32) (guard : Guard)
    : (⟨guard, device part⟩ : Arm (CallPath κ η)).Blaming op := by
  apply pure_blaming
  intro args
  apply FailsWith.bind blames_decode
  intro device _
  apply FailsWith.pure

theorem errno_blaming (guard : Guard)
    : (⟨guard, errno⟩ : Arm (CallPath κ η)).Blaming op := by
  intro platform args
  apply Call.FailsWith.bind .read
  intro w
  apply Call.FailsWith.pure

theorem setErrno_blaming (guard : Guard)
    : (⟨guard, setErrno⟩ : Arm (CallPath κ η)).Blaming "errno=" := by
  intro platform args
  apply Call.FailsWith.bind (.liftExcept (blames_cInt rfl))
  intro code
  apply Call.FailsWith.bind (.write _)
  intro _
  apply Call.FailsWith.pure

theorem memset_blaming (guard : Guard)
    : (⟨guard, memset⟩ : Arm (CallPath κ η)).Blaming "memset" := by
  intro platform args
  apply Call.FailsWith.bind (.liftExcept blames_decode)
  intro handle
  apply Call.FailsWith.bindExcept blames_view
  intro view hview
  have harg := (decodes_view _ 0).value view hview
  apply Call.FailsWith.bind (.liftExcept blames_decode)
  intro byte
  apply Call.FailsWith.bind (.liftExcept (blames_size rfl))
  intro size
  apply Call.FailsWith.bind .read
  intro w
  apply Call.FailsWith.bind (.liftExcept (blames_memory (view.guarded_fill _ size w.memory) harg))
  intro memory
  apply Call.FailsWith.bind (.write _)
  intro _
  apply Call.FailsWith.pure

theorem groupCount_blaming (guard : Guard)
    : (⟨guard, groupCount⟩ : Arm (CallPath κ η)).Blaming "getgroups" := by
  intro platform args
  apply Call.FailsWith.bind (.liftExcept (blames_size rfl))
  intro limit
  apply Call.FailsWith.bind (.liftAction _)
  intro groups
  apply Call.FailsWith.pure

/-- The groups are written one by one, but none of them behind the end of the address space. -/
theorem groups_blaming (guard : Guard)
    : (⟨guard, groups⟩ : Arm (CallPath κ η)).Blaming "getgroups" := by
  intro platform args
  apply Call.FailsWith.bind (.liftExcept (blames_size rfl))
  intro limit
  apply Call.FailsWith.bindExcept blames_view
  intro view hview
  have harg := (decodes_view _ 1).value view hview
  constructor
  intro w e he
  have hlisted := platform.groups_listed w
  rw [Call.run_bind, Call.run_liftAction] at he
  rcases hrun : platform.groups w with ⟨groups, w'⟩
  rw [hrun] at hlisted he
  cases groups with
  | error code => cases he
  | ok ids =>
    have hcount : (ids.map UInt32.toUInt64).length * 4 < UInt64.size := by
      have := hlisted.length_le
      rw [List.length_map]
      simp only [UInt64.size]
      omega
    dsimp only at he
    rw [Call.run_bind, Call.run_get] at he
    rcases Call.bind_eq_error he with hwritten | ⟨written, _, he⟩
    . exact (blames_memory (view.guarded_writeIds hcount limit _) harg).error e hwritten
    . cases he

theorem constant_blaming (platform : Platform κ η) {args : List Variant} {index : Nat}
    {fullName : String → String}
    (h : ∀ symbol, args[index]? = some (.symbol symbol) →
      Blames op args (.unknownConstant (fullName symbol)))
    : Call.FailsWith (Blames op args) (constant platform ⟨op, args⟩ index fullName) := by
  apply Call.FailsWith.bindExcept blames_decode
  intro symbol hsymbol
  have harg := (decodes_symbol _ index).value symbol hsymbol
  apply Call.FailsWith.bind (.liftAction _)
  intro value
  cases value with
  | none => exact .throw (h symbol harg)
  | some value => apply Call.FailsWith.pure

theorem getsockoptByName_blaming (guard : Guard)
    : (⟨guard, getsockoptByName⟩ : Arm (CallPath κ η)).Blaming "_getsockopt" := by
  intro platform args
  apply Call.FailsWith.bind (constant_blaming platform fun _ h => .unknownLevel h)
  intro level
  apply Call.FailsWith.bind (constant_blaming platform fun _ h => .unknownOption h)
  intro name
  apply Call.FailsWith.bind .read
  intro w
  exact carryOut_agrees platform (Request.blames_socketOption w.memory level name rfl)

end CallPath

namespace Operation

variable {name : String} {arity : Nat} {policy : Policy} {hook : Option (SuccessHook κ η)}

theorem Blaming.single {arm : Arm (CallPath κ η)} (h : arm.Blaming name)
    : (⟨name, arity, policy, [arm], hook⟩ : Operation κ η).Blaming := by
  exact List.forall_mem_singleton.mpr h

theorem Blaming.native {guard : Guard} {decode : Invocation → Except CallError Plan}
    (h : Invocation.Blaming name decode)
    : (⟨name, arity, policy, [Table.arm guard decode], hook⟩ : Operation κ η).Blaming := by
  exact .single (CallPath.native_blaming h guard)

theorem Blaming.nativeIn {guard : Guard} {decode : Memory → Invocation → Except CallError Plan}
    (h : ∀ memory, Invocation.Blaming name (decode memory))
    : (⟨name, arity, policy, [Table.armIn guard decode], hook⟩ : Operation κ η).Blaming := by
  exact .single (CallPath.nativeIn_blaming h guard)

end Operation

theorem Request.Plain.blames {name : String} {policy : Policy} {guard : Guard}
    {args : List Variant} {x : Except CallError Plan} (h : Plain name policy guard ⟨name, args⟩ x)
    : FailsWith (Blames name args) x := by
  induction h with
  | status => apply FailsWith.pure
  | info => apply FailsWith.pure
  | text _ _ ih => exact Invocation.blames_cString_bind ih
  | number _ hnarrowing _ ih =>
    apply (Invocation.blames_cInt hnarrowing).bind
    intro n hn
    have ⟨hint, hbits⟩ := (Reads.decodes (x := Invocation.cInt ⟨name, args⟩ _)).value n hn
    exact ih n hint hbits

theorem Invocation.blaming_of_plain {name : String} {policy : Policy} {guard : Guard}
    {decode : Invocation → Except CallError Plan}
    (h : ∀ inv, Request.Plain name policy guard inv (decode inv)) : Blaming name decode := by
  intro args
  exact (h ⟨name, args⟩).blames

namespace Table

open Invocation

theorem Row.blaming {row : ∀ κ η : Type, Operation κ η} (h : Row row) : (row κ η).Blaming := by
  cases h with
  | plain _ h => exact .native (blaming_of_plain h)
  | missing => exact .single (CallPath.unsupported_blaming _)
  | chdir h => exact .native (blaming_of_plain h)
  | fcntl h h' =>
    refine List.forall_iff_forall_mem.mp ?_
    exact ⟨CallPath.native_blaming (blaming_of_plain h) _,
      CallPath.native_blaming (blaming_of_plain h') _⟩
  | getcwd =>
    refine List.forall_iff_forall_mem.mp ?_
    exact ⟨CallPath.native_blaming Request.getcwd_blaming _, CallPath.hostDirectory_blaming _⟩
  | readlink => exact .native Request.readlink_blaming
  | utimes => exact .native Request.utimes_blaming
  | getgroups =>
    refine List.forall_iff_forall_mem.mp ?_
    exact ⟨CallPath.groupCount_blaming _, CallPath.groups_blaming _⟩
  | getrlimit => exact .native (Request.limit_blaming rfl .getrlimit)
  | setrlimit => exact .native (Request.limit_blaming rfl .setrlimit)
  | getenv => exact .native Request.getenv_blaming
  | environ => exact .native fun _ => FailsWith.pure _
  | memset => exact .single (CallPath.memset_blaming _)
  | major => exact .single (CallPath.device_blaming Device.major _)
  | minor => exact .single (CallPath.device_blaming Device.minor _)
  | getaddrinfo =>
    refine List.forall_iff_forall_mem.mp ?_
    exact ⟨CallPath.wildcard_blaming _, CallPath.native_blaming Request.getaddrinfo_blaming _,
      CallPath.native_blaming (Request.resolve_blaming none) _⟩
  | freeaddrinfo => exact .native Request.freeaddrinfo_blaming
  | getnameinfo =>
    refine List.forall_iff_forall_mem.mp ?_
    exact ⟨CallPath.native_blaming Request.getnameinfo_blaming _,
      CallPath.native_blaming Request.getnameinfo_blaming _,
      CallPath.native_blaming Request.getnameinfo_blaming _⟩
  | connect => exact .native (Request.addressed_blaming rfl rfl .connect)
  | bind => exact .native (Request.addressed_blaming rfl rfl .bind)
  | setsockopt => exact .native Request.setsockopt_blaming
  | getsockopt =>
    refine List.forall_iff_forall_mem.mp ?_
    exact ⟨CallPath.nativeIn_blaming Request.getsockopt_blaming _,
      CallPath.getsockoptByName_blaming _⟩
  | gethostname => exact .native Request.gethostname_blaming
  | getpeername => exact .nativeIn fun memory => Request.endpoint_blaming rfl memory .getpeername
  | getsockname => exact .nativeIn fun memory => Request.endpoint_blaming rfl memory .getsockname
  | lastErrno => exact .single (CallPath.errno_blaming _)
  | setErrno => exact .single (CallPath.setErrno_blaming _)

theorem builtIn_blaming : ∀ op ∈ (builtIn : List (Operation κ η)), op.Blaming := by
  exact forall_builtIn fun _ h => h.blaming

end Table

end NativeCall
