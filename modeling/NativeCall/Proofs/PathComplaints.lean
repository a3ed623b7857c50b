import Mathlib.Data.List.Basic
import NativeCall.Host.Recording
import NativeCall.Posix.Kernel
import NativeCall.Proofs.Rows

/-!
This module contains that the guards and the paths of the library agree: on arguments that its guard
accepts, a path complains of nothing but what `Complaint` lists.
-/

namespace NativeCall

variable {κ η : Type}

/-- Wherever the guard accepts the arguments of a call to `op`, decoding them complains of nothing
but what `Complaint` lists. -/
def Guard.Covers (op : String) (guard : Guard) {α : Type} (decode : Invocation → Except CallError α)
    : Prop :=
  ∀ inv, inv.op = op → List.Forall₂ Shape.Admits guard inv.args →
    FailsWith (Complaint guard inv) (decode inv)

def Arm.Agrees (op : String) (arm : Arm (CallPath κ η)) : Prop :=
  ∀ platform inv, inv.op = op → List.Forall₂ Shape.Admits arm.guard inv.args →
    Call.FailsWith (Complaint arm.guard inv) (arm.path platform inv)

def Operation.Agrees (op : Operation κ η) : Prop :=
  ∀ arm ∈ op.arms, arm.Agrees op.name

namespace Request

open Invocation

variable {op : String}

theorem getcwd_covered : Guard.Covers op [.pointer, .int] getcwd := by
  intro inv _ hfits
  apply FailsWith.bind (failsWith_pointer hfits rfl)
  intro handle _
  apply FailsWith.bind (failsWith_view hfits rfl)
  intro view _
  apply FailsWith.bind (failsWith_size hfits rfl)
  intro size _
  apply FailsWith.bind (failsWith_memory 0 _)
  intro _ _
  apply FailsWith.pure

theorem readlink_covered : Guard.Covers op [.str, .pointer, .int] readlink := by
  intro inv _ hfits
  apply failsWith_cString_bind hfits rfl
  intro path
  apply FailsWith.bind (failsWith_view hfits rfl)
  intro view _
  apply FailsWith.bind (failsWith_size hfits rfl)
  intro size _
  apply FailsWith.bind (failsWith_memory 1 _)
  intro _ _
  apply FailsWith.pure

theorem utimes_covered : Guard.Covers op [.str, .pointer] utimes := by
  intro inv _ hfits
  apply failsWith_cString_bind hfits rfl
  intro path
  apply FailsWith.bind (failsWith_region hfits rfl _)
  intro times _
  apply FailsWith.pure

theorem limit_covered (p : UInt32 → UInt64 → Primitive .number)
    : Guard.Covers op [.int, .pointer] fun inv => do
        let limit ← inv.region 1 limitSize
        return Plan.status (p (← inv.cInt 0).toUInt32 limit.base) := by
  intro inv _ hfits
  apply FailsWith.bind (failsWith_region hfits rfl _)
  intro limit _
  apply failsWith_cInt_bind hfits rfl
  intro resource
  apply FailsWith.pure

theorem getenv_covered : Guard.Covers op [.str] getenv := by
  intro inv _ hfits
  apply failsWith_cString_bind hfits rfl
  intro name
  apply FailsWith.pure

theorem addressed_covered (p : Int32 → UInt64 → UInt32 → Primitive .number)
    : Guard.Covers op [.int, .pointer, .int] fun inv => do
        let (target, length) ← sizedRegion inv 1 2
        return Plan.status (p (← inv.cInt 0) target.base length) := by
  intro inv _ hfits
  apply FailsWith.bind (failsWith_sizedRegion hfits rfl rfl)
  intro target _
  apply failsWith_cInt_bind hfits rfl
  intro fd
  apply FailsWith.pure

theorem setsockopt_covered : Guard.Covers op [.int, .int, .int, .pointer, .int] setsockopt := by
  intro inv _ hfits
  apply FailsWith.bind (failsWith_sizedRegion hfits rfl rfl)
  intro value _
  repeat' (apply failsWith_cInt_bind hfits rfl; intro _)
  apply FailsWith.pure

theorem getsockopt_covered (memory : Memory)
    : Guard.Covers op [.int, .int, .int, .pointer, .pointer] (getsockopt memory) := by
  intro inv _ hfits
  apply failsWith_cInt_bind hfits rfl
  intro level
  apply failsWith_cInt_bind hfits rfl
  intro name
  exact failsWith_socketOption hfits memory level name rfl rfl rfl

theorem gethostname_covered : Guard.Covers op [.pointer, .int] gethostname := by
  intro inv _ hfits
  apply FailsWith.bind (failsWith_view hfits rfl)
  intro view _
  apply FailsWith.bind (failsWith_size hfits rfl)
  intro length _
  apply FailsWith.bind (failsWith_memory 0 _)
  intro _ _
  apply FailsWith.pure

theorem endpoint_covered (memory : Memory) (p : Int32 → UInt64 → UInt64 → Primitive .number)
    : Guard.Covers op [.int, .pointer, .pointer] fun inv => do
        let (target, length) ← outputRegion memory inv 1 2
        return Plan.status (p (← inv.cInt 0) target.base length.base) := by
  intro inv _ hfits
  apply FailsWith.bind (failsWith_outputRegion hfits memory rfl rfl)
  intro target _
  apply failsWith_cInt_bind hfits rfl
  intro fd
  apply FailsWith.pure

theorem freeaddrinfo_covered : Guard.Covers op [.pointer] freeaddrinfo := by
  intro inv _ hfits
  apply FailsWith.bind (failsWith_view hfits rfl)
  intro chain _
  apply FailsWith.pure

theorem resolve_covered {shape : Shape} (hshape : shape = .str ∨ shape = .nil)
    (service : Option CString)
    : Guard.Covers "_getaddrinfo" [.str, shape, .any, .pointer] (resolve · service) := by
  intro inv hop hfits
  have hhints : FailsWith (Complaint [.str, shape, .any, .pointer] inv) (inv.nullableView 2) := by
    apply failsWith_nullableView hfits (rfl : _ = some Shape.any)
    intro v hv hnil hpointer
    have hunexpected : inv.unexpected 2 .pointer =
        .invalidArgument inv.op s!"argument {2}: expected pointer, got {v.typeName}" := by
      unfold unexpected
      rw [hv]
      rfl
    rw [hunexpected]
    exact .hints hop rfl hshape hv hnil hpointer
  have hresult (host : CString) (hints : Option View)
      : FailsWith (Complaint [.str, shape, .any, .pointer] inv) (do
          let result ← inv.region 3 addressSize
          return Plan.info (.getaddrinfo host service (hints.elim 0 (·.base)) result.base)) := by
    apply FailsWith.bind (failsWith_region hfits rfl _)
    intro result _
    apply FailsWith.pure
  apply failsWith_cString_bind hfits rfl
  intro host
  apply FailsWith.bind hhints
  intro hints _
  cases hints with
  | none => apply hresult
  | some view =>
    apply FailsWith.bind (failsWith_memory 2 _)
    intro _ _
    apply hresult

theorem getaddrinfo_covered
    : Guard.Covers "_getaddrinfo" [.str, .str, .any, .pointer] getaddrinfo := by
  intro inv hop hfits
  apply failsWith_cString_bind hfits rfl
  intro service
  exact resolve_covered (Or.inl rfl) (some service) inv hop hfits

theorem getnameinfo_covered {host service : Shape} (hhost : host = .nil ∨ host = .pointer)
    (hservice : service = .nil ∨ service = .pointer)
    : Guard.Covers "_getnameinfo" [.pointer, .int, host, .int, service, .int, .int]
        getnameinfo := by
  intro inv hop hfits
  apply FailsWith.bind (failsWith_sizedRegion hfits rfl rfl)
  intro target _
  apply FailsWith.bind (failsWith_nameOutput hfits hop (by simp) rfl hhost rfl)
  intro hostOutput _
  apply FailsWith.bind (failsWith_nameOutput hfits hop (by simp) rfl hservice rfl)
  intro serviceOutput _
  apply failsWith_cInt_bind hfits rfl
  intro flags
  apply FailsWith.pure

end Request

namespace CallPath

open Invocation

variable {op : String}

theorem carryOut_agrees {P : CallError → Prop} (platform : Platform κ η) {x : Except CallError Plan}
    (h : FailsWith P x) : Call.FailsWith P (do carryOut platform (← x) : Call κ η Outcome) := by
  apply Call.FailsWith.bind (.liftExcept h)
  intro plan
  apply Call.FailsWith.liftAction

theorem native_agrees {guard : Guard} {decode : Invocation → Except CallError Plan}
    (h : guard.Covers op decode) : (Table.arm guard decode : Arm (CallPath κ η)).Agrees op := by
  intro platform inv hop hfits
  exact carryOut_agrees platform (h inv hop hfits)

theorem nativeIn_agrees {guard : Guard} {decode : Memory → Invocation → Except CallError Plan}
    (h : ∀ memory, guard.Covers op (decode memory))
    : (Table.armIn guard decode : Arm (CallPath κ η)).Agrees op := by
  intro platform inv hop hfits
  apply Call.FailsWith.bind .read
  intro w
  exact carryOut_agrees platform (h w.memory inv hop hfits)

theorem pure_agrees {guard : Guard} {outcome : Invocation → Except CallError Outcome}
    (h : guard.Covers op outcome)
    : (⟨guard, .pure outcome⟩ : Arm (CallPath κ η)).Agrees op := by
  intro platform inv hop hfits
  exact .liftExcept (h inv hop hfits)

theorem unsupported_agrees (guard : Guard)
    : (⟨guard, unsupported⟩ : Arm (CallPath κ η)).Agrees op := by
  apply pure_agrees
  intro inv _ _
  exact .throw (.other rfl)

theorem wildcard_agrees (guard : Guard)
    : (⟨guard, .pure Request.wildcard⟩ : Arm (CallPath κ η)).Agrees op := by
  apply pure_agrees
  intro inv _ _
  apply FailsWith.pure

theorem hostDirectory_agrees (guard : Guard)
    : (⟨guard, hostDirectory⟩ : Arm (CallPath κ η)).Agrees op := by
  intro platform inv _ _
  apply Call.FailsWith.bind (.liftAction _)
  intro path
  apply Call.FailsWith.pure

theorem device_agrees (part : Int32 → Int32)
    : (⟨[.int], device part⟩ : Arm (CallPath κ η)).Agrees op := by
  apply pure_agrees
  intro inv _ hfits
  apply FailsWith.bind (failsWith_int hfits rfl)
  intro device _
  apply FailsWith.pure

theorem errno_agrees : (⟨[], errno⟩ : Arm (CallPath κ η)).Agrees op := by
  intro platform inv _ _
  apply Call.FailsWith.bind .read
  intro w
  apply Call.FailsWith.pure

theorem setErrno_agrees : (⟨[.int], setErrno⟩ : Arm (CallPath κ η)).Agrees op := by
  intro platform inv _ hfits
  apply Call.FailsWith.bind (.liftExcept (failsWith_cInt hfits rfl))
  intro code
  apply Call.FailsWith.bind (.write _)
  intro _
  apply Call.FailsWith.pure

theorem memset_agrees : (⟨[.pointer, .int, .int], memset⟩ : Arm (CallPath κ η)).Agrees op := by
  intro platform inv _ hfits
  apply Call.FailsWith.bind (.liftExcept (failsWith_pointer hfits rfl))
  intro handle
  apply Call.FailsWith.bind (.liftExcept (failsWith_view hfits rfl))
  intro view
  apply Call.FailsWith.bind (.liftExcept (failsWith_int hfits rfl))
  intro byte
  apply Call.FailsWith.bind (.liftExcept (failsWith_size hfits rfl))
  intro size
  apply Call.FailsWith.bind .read
  intro w
  apply Call.FailsWith.bind (.liftExcept (failsWith_memory 0 _))
  intro memory
  apply Call.FailsWith.bind (.write _)
  intro _
  apply Call.FailsWith.pure

theorem groupCount_agrees : (⟨[.int, .nil], groupCount⟩ : Arm (CallPath κ η)).Agrees op := by
  intro platform inv _ hfits
  apply Call.FailsWith.bind (.liftExcept (failsWith_size hfits rfl))
  intro limit
  apply Call.FailsWith.bind (.liftAction _)
  intro groups
  apply Call.FailsWith.pure

theorem groups_agrees : (⟨[.int, .pointer], groups⟩ : Arm (CallPath κ η)).Agrees op := by
  intro platform inv _ hfits
  apply Call.FailsWith.bind (.liftExcept (failsWith_size hfits rfl))
  intro limit
  apply Call.FailsWith.bind (.liftExcept (failsWith_view hfits rfl))
  intro view
  apply Call.FailsWith.bind (.liftAction _)
  intro groups
  cases groups with
  | error e => apply Call.FailsWith.pure
  | ok ids =>
    apply Call.FailsWith.bind .read
    intro w
    apply Call.FailsWith.bind (.liftExcept (failsWith_memory 1 _))
    intro written
    apply Call.FailsWith.bind (.write _)
    intro _
    apply Call.FailsWith.pure

theorem constant_agrees (platform : Platform κ η) {inv : Invocation} {guard : Guard}
    (hfits : List.Forall₂ Shape.Admits guard inv.args) {index : Nat}
    (h : guard[index]? = some .symbol) (fullName : String → String)
    : Call.FailsWith (Complaint guard inv) (constant platform inv index fullName) := by
  apply Call.FailsWith.bind (.liftExcept (failsWith_symbol hfits h))
  intro symbol
  apply Call.FailsWith.bind (.liftAction _)
  intro value
  cases value with
  | none => exact .throw (.other rfl)
  | some value => apply Call.FailsWith.pure

theorem getsockoptByName_agrees
    : (⟨[.int, .symbol, .symbol, .pointer, .pointer], getsockoptByName⟩ :
        Arm (CallPath κ η)).Agrees op := by
  intro platform inv _ hfits
  apply Call.FailsWith.bind (constant_agrees platform hfits rfl _)
  intro level
  apply Call.FailsWith.bind (constant_agrees platform hfits rfl _)
  intro name
  apply Call.FailsWith.bind .read
  intro w
  exact carryOut_agrees platform
    (Request.failsWith_socketOption hfits w.memory level name rfl rfl rfl)

end CallPath

namespace Operation

variable {name : String} {arity : Nat} {policy : Policy} {hook : Option (SuccessHook κ η)}

theorem Agrees.single {arm : Arm (CallPath κ η)} (h : arm.Agrees name)
    : (⟨name, arity, policy, [arm], hook⟩ : Operation κ η).Agrees := by
  exact List.forall_mem_singleton.mpr h

theorem Agrees.native {guard : Guard} {decode : Invocation → Except CallError Plan}
    (h : guard.Covers name decode)
    : (⟨name, arity, policy, [Table.arm guard decode], hook⟩ : Operation κ η).Agrees := by
  exact .single (CallPath.native_agrees h)

theorem Agrees.nativeIn {guard : Guard} {decode : Memory → Invocation → Except CallError Plan}
    (h : ∀ memory, guard.Covers name (decode memory))
    : (⟨name, arity, policy, [Table.armIn guard decode], hook⟩ : Operation κ η).Agrees := by
  exact .single (CallPath.nativeIn_agrees h)

end Operation

theorem Request.Plain.failsWith {name : String} {policy : Policy} {guard : Guard} {inv : Invocation}
    {x : Except CallError Plan} (h : Plain name policy guard inv x)
    (hfits : List.Forall₂ Shape.Admits guard inv.args) : FailsWith (Complaint guard inv) x := by
  induction h with
  | status => apply FailsWith.pure
  | info => apply FailsWith.pure
  | text hshape _ ih => exact Invocation.failsWith_cString_bind hfits hshape ih
  | number hshape _ _ ih =>
    apply (Invocation.failsWith_cInt hfits hshape).bind
    intro n hn
    have ⟨hint, hbits⟩ := (Reads.decodes (x := inv.cInt _)).value n hn
    exact ih n hint hbits

theorem Guard.covers_of_plain {name : String} {policy : Policy} {guard : Guard}
    {decode : Invocation → Except CallError Plan}
    (h : ∀ inv, Request.Plain name policy guard inv (decode inv)) : guard.Covers name decode := by
  intro inv _ hfits
  exact (h inv).failsWith hfits

namespace Table

theorem Row.agrees {row : ∀ κ η : Type, Operation κ η} (h : Row row) : (row κ η).Agrees := by
  have hnil : Shape.nil = .nil ∨ Shape.nil = .pointer := Or.inl rfl
  have hpointer : Shape.pointer = .nil ∨ Shape.pointer = .pointer := Or.inr rfl
  cases h with
  | plain _ h => exact .native (Guard.covers_of_plain h)
  | missing => exact .single (CallPath.unsupported_agrees _)
  | chdir h => exact .native (Guard.covers_of_plain h)
  | fcntl h h' =>
    refine List.forall_iff_forall_mem.mp ?_
    exact ⟨CallPath.native_agrees (Guard.covers_of_plain h),
      CallPath.native_agrees (Guard.covers_of_plain h')⟩
  | getcwd =>
    refine List.forall_iff_forall_mem.mp ?_
    exact ⟨CallPath.native_agrees Request.getcwd_covered, CallPath.hostDirectory_agrees _⟩
  | readlink => exact .native Request.readlink_covered
  | utimes => exact .native Request.utimes_covered
  | getgroups =>
    refine List.forall_iff_forall_mem.mp ?_
    exact ⟨CallPath.groupCount_agrees, CallPath.groups_agrees⟩
  | getrlimit => exact .native (Request.limit_covered .getrlimit)
  | setrlimit => exact .native (Request.limit_covered .setrlimit)
  | getenv => exact .native Request.getenv_covered
  | environ => exact .native fun _ _ _ => FailsWith.pure _
  | memset => exact .single CallPath.memset_agrees
  | major => exact .single (CallPath.device_agrees Device.major)
  | minor => exact .single (CallPath.device_agrees Device.minor)
  | getaddrinfo =>
    refine List.forall_iff_forall_mem.mp ?_
    exact ⟨CallPath.wildcard_agrees _, CallPath.native_agrees Request.getaddrinfo_covered,
      CallPath.native_agrees (Request.resolve_covered (Or.inr rfl) none)⟩
  | freeaddrinfo => exact .native Request.freeaddrinfo_covered
  | getnameinfo =>
    refine List.forall_iff_forall_mem.mp ?_
    exact ⟨CallPath.native_agrees (Request.getnameinfo_covered hpointer hpointer),
      CallPath.native_agrees (Request.getnameinfo_covered hnil hpointer),
      CallPath.native_agrees (Request.getnameinfo_covered hpointer hnil)⟩
  | connect => exact .native (Request.addressed_covered .connect)
  | bind => exact .native (Request.addressed_covered .bind)
  | setsockopt => exact .native Request.setsockopt_covered
  | getsockopt =>
    refine List.forall_iff_forall_mem.mp ?_
    exact ⟨CallPath.nativeIn_agrees Request.getsockopt_covered, CallPath.getsockoptByName_agrees⟩
  | gethostname => exact .native Request.gethostname_covered
  | getpeername => exact .nativeIn fun memory => Request.endpoint_covered memory .getpeername
  | getsockname => exact .nativeIn fun memory => Request.endpoint_covered memory .getsockname
  | lastErrno => exact .single CallPath.errno_agrees
  | setErrno => exact .single CallPath.setErrno_agrees

theorem builtIn_agree : ∀ op ∈ (builtIn : List (Operation κ η)), op.Agrees := by
  exact forall_builtIn fun _ h => h.agrees

end Table

/-- A path of the library that has been given what its guard accepts complains of no argument's type, but
for the hints of a resolution and the lengths of a reverse resolution. -/
theorem Table.builtIn_complaint {op : Operation κ η} (hop : op ∈ builtIn)
    {arm : Arm (CallPath κ η)} (harm : arm ∈ op.arms) (platform : Platform κ η)
    {args : List Variant} (haccepts : arm.accepts args) (w : World κ η) {e : CallError}
    (h : (arm.path platform ⟨op.name, args⟩ w).1 = .error e)
    : Complaint arm.guard ⟨op.name, args⟩ e := by
  have hfits := (arm.accepts_iff args).mp haccepts
  have hagrees := builtIn_agree op hop arm harm
  exact (hagrees platform ⟨op.name, args⟩ rfl hfits).error w e h

theorem Table.getnameinfo_complaint
    : let guard : Guard := [.pointer, .int, .nil, .int, .pointer, .int, .int]
      let args : List Variant :=
        [.pointer ⟨16, some 16⟩, .int 16, .nil, .int 5, .pointer ⟨64, some 8⟩, .int 8, .int 0]
      let e : CallError :=
        .invalidArgument "_getnameinfo" "host length must be 0 without a host buffer"
      let w : World Posix Recording := ⟨⟨.fresh, ⟨0⟩, .initial⟩, none, #[], ⟨"/", none, []⟩⟩
      (CallPath.native Request.getnameinfo ⟨Posix.kernel, .recording, .undisturbing⟩
          ⟨"_getnameinfo", args⟩ w).1 = .error e ∧
        Complaint guard ⟨"_getnameinfo", args⟩ e := by
  intro guard args e w
  have hop : (builtIn : List (Operation Posix Recording)).find? (·.name == "_getnameinfo") =
      some getnameinfo := by
    rfl
  have haccepts : guard.accepts args := by
    rfl
  have hrun : (CallPath.native Request.getnameinfo ⟨Posix.kernel, .recording, .undisturbing⟩
      ⟨"_getnameinfo", args⟩ w).1 = .error e := by
    rfl
  refine ⟨hrun, ?_⟩
  exact builtIn_complaint (List.mem_of_find?_eq_some hop)
    (List.mem_cons_of_mem _ List.mem_cons_self) _ haccepts _ hrun

end NativeCall
