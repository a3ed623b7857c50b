import NativeCall.Proofs.Changes
import NativeCall.Proofs.Resolution
import NativeCall.Proofs.Rows

/-!
This module contains what a call may do to the world, by single steps: whatever the steps preserve is
preserved by every call to an operation of the library.
-/

namespace NativeCall

variable {κ η α : Type}

/-- What a call to the operation `name` may do on the way from `w` to `w'`. -/
inductive Conduct (platform : Platform κ η) (name : String) (args : List Variant) (w : World κ η)
    : World κ η → Prop where
  | nothing : Conduct platform name args w w
  | requested {w' : World κ η} (h : Conduct platform name args w w') {reply : Reply}
      (p : Primitive reply) (htakes : p.Takes name args)
      : Conduct platform name args w (platform.run p w').2
  | directory {w' : World κ η} (h : Conduct platform name args w w')
      : Conduct platform name args w (platform.host.currentDirectory w').2
  | constant {w' : World κ η} (h : Conduct platform name args w w') (symbol : String)
      : Conduct platform name args w (platform.host.socketConstant symbol w').2
  | told {w' : World κ η} (h : Conduct platform name args w w') (hname : name = "chdir")
      (path : String) : Conduct platform name args w (platform.host.setCurrentDirectory path w').2
  | turned {w' : World κ η} (h : Conduct platform name args w w') (memory : Memory) (errno : Errno)
      (span : Option String) (log : Array LogLine)
      : Conduct platform name args w
          { w' with memory := memory, errno := errno, span := span, log := log }

namespace Conduct

variable {platform : Platform κ η} {name : String} {args : List Variant} {w w' : World κ η}

theorem trans {w'' : World κ η} (h : Conduct platform name args w w')
    (h' : Conduct platform name args w' w'') : Conduct platform name args w w'' := by
  induction h' with
  | nothing => exact h
  | requested _ p htakes ih => exact ih.requested p htakes
  | directory _ ih => exact ih.directory
  | constant _ symbol ih => exact ih.constant symbol
  | told _ hname path ih => exact ih.told hname path
  | turned _ memory errno span log ih => exact ih.turned memory errno span log

theorem step (h : Conduct platform name args w w') {x : Except CallError α} {q : α → Prop}
    (hx : Decodes x q) {f : α → Call κ η Outcome}
    (hf : ∀ a, q a → Conduct platform name args w (f a w').2)
    : Conduct platform name args w ((liftM x >>= f : Call κ η Outcome) w').2 := by
  rw [Call.run_bind, Call.run_liftExcept]
  cases hrun : x with
  | error e => exact h
  | ok a => exact hf a (hx.value a hrun)

theorem read (h : Conduct platform name args w w') {x : Except CallError α} {q : α → Prop}
    [Reads x q] {f : α → Call κ η Outcome}
    (hf : ∀ a, Conduct platform name args w (f a w').2)
    : Conduct platform name args w ((liftM x >>= f : Call κ η Outcome) w').2 := by
  exact h.step (Reads.decodes (p := q)) fun a _ => hf a

theorem listed (h : Conduct platform name args w w')
    (htakes : ∀ size, (Primitive.getgroups size).Takes name args)
    {groups : Except Errno (List UInt32)} {w'' : World κ η}
    (hlisted : platform.Listed w' groups w'') : Conduct platform name args w w'' := by
  have hrequested {w₁ w₂ : World κ η} {size : Int32} {answer : IdList}
      (h : Conduct platform name args w w₁)
      (hrun : platform.run (.getgroups size) w₁ = (answer, w₂))
      : Conduct platform name args w w₂ := by
    have hconduct := h.requested (.getgroups size) (htakes size)
    rw [hrun] at hconduct
    exact hconduct
  cases hlisted with
  | uncounted hcount => exact hrequested h hcount
  | unlisted hcount _ hlist | listed hcount _ hlist => exact hrequested (hrequested h hcount) hlist

theorem carryOut (h : Conduct platform name args w w') {x : Except CallError Plan}
    (hx : Decodes x fun plan => plan.primitive.Takes name args)
    : Conduct platform name args w
        ((do CallPath.carryOut platform (← x) : Call κ η Outcome) w').2 := by
  apply h.step hx
  intro plan htakes
  exact h.requested plan.primitive htakes

end Conduct

/-- On arguments that its guard admits, the arm does what a call to `name` may do. -/
def Arm.Conducts (platform : Platform κ η) (name : String) (arm : Arm (CallPath κ η)) : Prop :=
  ∀ args w, arm.Fits args → Conduct platform name args w (arm.path platform ⟨name, args⟩ w).2

namespace Arm

variable {platform : Platform κ η} {name : String} {guard : Guard}

theorem conducts_native {decode : Invocation → Except CallError Plan} (hany : .any ∉ guard)
    (h : ∀ inv, Decodes (decode inv) (Plan.Takes name guard inv.args))
    : (Table.arm guard decode).Conducts platform name := by
  intro args w hfits
  apply Conduct.nothing.carryOut
  apply (h ⟨name, args⟩).mono
  intro plan htakes
  exact htakes.primitive hfits hany

theorem conducts_nativeIn {decode : Memory → Invocation → Except CallError Plan}
    (hany : .any ∉ guard)
    (h : ∀ memory inv, Decodes (decode memory inv) (Plan.Takes name guard inv.args))
    : (Table.armIn guard decode).Conducts platform name := by
  intro args w hfits
  apply Conduct.nothing.carryOut
  apply (h w.memory ⟨name, args⟩).mono
  intro plan htakes
  exact htakes.primitive hfits hany

theorem conducts_pure (outcome : Invocation → Except CallError Outcome)
    : (⟨guard, .pure outcome⟩ : Arm (CallPath κ η)).Conducts platform name := by
  intro args w _
  exact .nothing

theorem conducts_hostDirectory
    : (⟨guard, .hostDirectory⟩ : Arm (CallPath κ η)).Conducts platform name := by
  intro args w _
  exact Conduct.nothing.directory

theorem conducts_lastError
    : (⟨guard, .errno⟩ : Arm (CallPath κ η)).Conducts platform name := by
  intro args w _
  exact .nothing

theorem conducts_setLastError
    : (⟨guard, .setErrno⟩ : Arm (CallPath κ η)).Conducts platform name := by
  intro args w _
  apply Conduct.nothing.read
  intro code
  exact Conduct.nothing.turned w.memory ⟨code⟩ w.span w.log

theorem conducts_memset
    : (⟨guard, .memset⟩ : Arm (CallPath κ η)).Conducts platform name := by
  intro args w _
  apply Conduct.nothing.read
  intro handle
  apply Conduct.nothing.read
  intro view
  apply Conduct.nothing.step (Invocation.decodes_int _ 1)
  intro byte _
  apply Conduct.nothing.read
  intro size
  rw [Call.run_bind, Call.run_get]
  apply Conduct.nothing.read
  intro memory
  exact Conduct.nothing.turned memory w.errno w.span w.log

theorem getgroups_takes {guard : Guard} {args : List Variant}
    (hfits : List.Forall₂ Shape.Admits guard args) (hany : .any ∉ guard)
    (hplaces : guard.numberPlaces = [0]) (size : Int32)
    : (Primitive.getgroups size).Takes "getgroups" args := by
  refine ⟨rfl, List.forall_mem_nil _, ?_⟩
  intro index v harg
  have hmem := Guard.mem_numberPlaces hfits hany harg
  rw [hplaces] at hmem
  exact Or.inr ⟨rfl, List.mem_singleton.mp hmem⟩

theorem conducts_groupCount
    : (⟨[.int, .nil], .groupCount⟩ : Arm (CallPath κ η)).Conducts platform "getgroups" := by
  intro args w (hfits : List.Forall₂ Shape.Admits [.int, .nil] args)
  apply Conduct.nothing.read
  intro limit
  rw [Call.run_bind, Call.run_liftAction]
  exact Conduct.nothing.listed (getgroups_takes hfits (by decide) rfl) (platform.groups_listed w)

theorem conducts_groups
    : (⟨[.int, .pointer], .groups⟩ : Arm (CallPath κ η)).Conducts platform "getgroups" := by
  intro args w (hfits : List.Forall₂ Shape.Admits [.int, .pointer] args)
  apply Conduct.nothing.read
  intro limit
  apply Conduct.nothing.read
  intro view
  rw [Call.run_bind, Call.run_liftAction]
  have hlisted := Conduct.nothing.listed (getgroups_takes hfits (by decide) rfl)
    (platform.groups_listed w)
  cases (platform.groups w).1 with
  | error e => exact hlisted
  | ok ids =>
    dsimp only
    rw [Call.run_bind, Call.run_get]
    apply hlisted.read
    rintro ⟨count, memory⟩
    exact hlisted.turned memory _ _ _

theorem conduct_constant {args : List Variant} {w w' : World κ η} (index : Nat)
    (fullName : String → String) {f : Int32 → Call κ η Outcome}
    (h : Conduct platform name args w w')
    (hf : ∀ symbol, args[index]? = some (.symbol symbol) → ∀ value w',
      Conduct platform name args w w' → Conduct platform name args w (f value w').2)
    : Conduct platform name args w
        ((CallPath.constant platform ⟨name, args⟩ index fullName >>= f : Call κ η Outcome) w').2 := by
  unfold CallPath.constant
  rw [bind_assoc]
  apply h.step (Invocation.decodes_symbol _ index)
  intro symbol hsymbol
  rw [bind_assoc, Call.run_bind, Call.run_liftAction]
  have h' := h.constant (fullName symbol)
  cases (platform.host.socketConstant (fullName symbol) w').1 with
  | none => exact h'
  | some value => exact hf symbol hsymbol value _ h'

theorem conducts_getsockoptByName
    : (⟨[.int, .symbol, .symbol, .pointer, .pointer], .getsockoptByName⟩ :
        Arm (CallPath κ η)).Conducts platform "_getsockopt" := by
  intro args w hfits
  apply conduct_constant 1 SocketConstant.levelName .nothing
  intro level hlevel l w₁ h₁
  apply conduct_constant 2 SocketConstant.optionName h₁
  intro option hoption n w₂ h₂
  apply h₂.carryOut
  apply (Request.socketOption_takes w₂.memory ⟨"_getsockopt", args⟩ (.named hlevel)
    (.named hoption) [.int, .symbol, .symbol, .pointer, .pointer] rfl).mono
  intro plan htakes
  exact htakes.primitive hfits (by decide)

end Arm

def Operation.Conducts (platform : Platform κ η) (op : Operation κ η) : Prop :=
  ∀ arm ∈ op.arms, arm.Conducts platform op.name

namespace Operation

variable {platform : Platform κ η} {name : String} {arity : Nat} {policy : Policy}
  {onSuccess : Option (SuccessHook κ η)}

theorem conducts_single {arm : Arm (CallPath κ η)} (h : arm.Conducts platform name)
    : (⟨name, arity, policy, [arm], onSuccess⟩ : Operation κ η).Conducts platform := by
  exact List.forall_mem_singleton.mpr h

theorem conducts_native {guard : Guard} {decode : Invocation → Except CallError Plan}
    (hany : .any ∉ guard) (h : ∀ inv, Decodes (decode inv) (Plan.Takes name guard inv.args))
    : (⟨name, arity, policy, [Table.arm guard decode], onSuccess⟩ :
        Operation κ η).Conducts platform := by
  exact conducts_single (Arm.conducts_native hany h)

theorem conducts_nativeIn {guard : Guard} {decode : Memory → Invocation → Except CallError Plan}
    (hany : .any ∉ guard)
    (h : ∀ memory inv, Decodes (decode memory inv) (Plan.Takes name guard inv.args))
    : (⟨name, arity, policy, [Table.armIn guard decode], onSuccess⟩ :
        Operation κ η).Conducts platform := by
  exact conducts_single (Arm.conducts_nativeIn hany h)

end Operation

theorem Request.Plain.takes {name : String} {policy : Policy} {guard : Guard} {inv : Invocation}
    {x : Except CallError Plan} (h : Plain name policy guard inv x)
    : Decodes x (Plan.Takes name guard inv.args) := by
  induction h with
  | status _ _ htakes | info _ _ htakes => exact .pure htakes
  | text _ _ ih => exact Decodes.read fun s _ => ih s
  | number _ _ _ ih => exact Decodes.read fun n hn => ih n hn.1 hn.2

namespace Table

variable (platform : Platform κ η)

attribute [local simp] Primitive.figures

/-- The resolution of names is left out: it takes its arguments as they come, and may take a second
arm. -/
theorem Row.conducts {row : ∀ κ η : Type, Operation κ η} (h : Row row)
    : (row κ η).name = "_getaddrinfo" ∨ (row κ η).Conducts platform := by
  cases h with
  | plain hany h => exact Or.inr (Operation.conducts_native hany fun inv => (h inv).takes)
  | missing => exact Or.inr (Operation.conducts_single (Arm.conducts_pure _))
  | chdir h => exact Or.inr (Operation.conducts_native (by decide) fun inv => (h inv).takes)
  | fcntl h h' =>
    refine Or.inr (List.forall_iff_forall_mem.mp ⟨?_, ?_⟩)
    . exact Arm.conducts_native (by decide) fun inv => (h inv).takes
    . exact Arm.conducts_native (by decide) fun inv => (h' inv).takes
  | getcwd =>
    refine Or.inr (List.forall_iff_forall_mem.mp ⟨?_, Arm.conducts_hostDirectory⟩)
    apply Arm.conducts_native (by decide)
    intro inv
    repeat' (apply Decodes.read; intro _ _)
    exact .taken rfl rfl (by assumption)
  | readlink | utimes | getrlimit | setrlimit | getenv | environ | freeaddrinfo | gethostname =>
    refine Or.inr (Operation.conducts_native (by decide) ?_)
    intro inv
    repeat' (apply Decodes.read; intro _ _)
    refine .taken rfl rfl ?_
    simp [Plan.status, Plan.value, *]
  | getgroups =>
    exact Or.inr (List.forall_iff_forall_mem.mp ⟨Arm.conducts_groupCount, Arm.conducts_groups⟩)
  | memset => exact Or.inr (Operation.conducts_single Arm.conducts_memset)
  | major | minor => exact Or.inr (Operation.conducts_single (Arm.conducts_pure _))
  | getaddrinfo => exact Or.inl rfl
  | getnameinfo =>
    refine Or.inr (List.forall_iff_forall_mem.mp ⟨?_, ?_, ?_⟩)
    all_goals exact Arm.conducts_native (by decide) fun inv => Request.getnameinfo_takes inv rfl
  | connect | bind =>
    refine Or.inr (Operation.conducts_native (by decide) fun inv => ?_)
    exact Request.addressed_takes inv _ (fun _ _ _ => rfl) fun _ _ _ => rfl
  | setsockopt => exact Or.inr (Operation.conducts_native (by decide) Request.setsockopt_takes)
  | getsockopt =>
    refine Or.inr (List.forall_iff_forall_mem.mp ⟨?_, Arm.conducts_getsockoptByName⟩)
    exact Arm.conducts_nativeIn (by decide) Request.getsockopt_takes
  | getpeername | getsockname =>
    refine Or.inr (Operation.conducts_nativeIn (by decide) fun memory inv => ?_)
    exact Request.endpoint_takes memory inv _ (fun _ _ _ => rfl) fun _ _ _ => rfl
  | lastErrno => exact Or.inr (Operation.conducts_single Arm.conducts_lastError)
  | setErrno => exact Or.inr (Operation.conducts_single Arm.conducts_setLastError)

theorem builtIn_conduct : ∀ op ∈ builtIn, op.name = "_getaddrinfo" ∨ op.Conducts platform := by
  exact forall_builtIn fun _ h => h.conducts platform

end Table

namespace Request

theorem length_of_resolution {args : List Variant} {plan : Plan} (h : resolution args = .ok plan)
    : args.length = 4 := by
  unfold resolution at h
  split at h
  . rfl
  . rfl
  . rfl
  . cases h

theorem Names.ne_int {args : List Variant} {reply : Reply} {p : Primitive reply}
    (h : Names args p) (hlength : args.length = 4) (index : Nat) (v : Int64)
    : args[index]? ≠ some (.int v) := by
  intro harg
  have hindex : index < 4 := by
    rw [← hlength]
    exact (List.getElem?_eq_some_iff.mp harg).1
  cases h with
  | names hhost _ hservice hhints hresult =>
    match index with
    | 0 =>
      rcases hhost with hhost | ⟨hhost, _⟩
      . cases hhost.symm.trans harg
      . cases hhost.symm.trans harg
    | 1 =>
      rcases hservice with ⟨hservice, _⟩ | ⟨_, _, hservice, _⟩
      . cases hservice.symm.trans harg
      . cases hservice.symm.trans harg
    | 2 =>
      rcases hhints with ⟨hhints, _⟩ | ⟨_, hhints⟩
      . cases hhints.symm.trans harg
      . cases hhints.symm.trans harg
    | 3 =>
      have ⟨_, hresult⟩ := hresult
      cases hresult.symm.trans harg
    | index + 4 => omega

theorem Names.takes {args : List Variant} {reply : Reply} {p : Primitive reply}
    (h : Names args p) (hlength : args.length = 4) : p.Takes "_getaddrinfo" args := by
  have hne := h.ne_int hlength
  cases h with
  | names =>
    refine ⟨rfl, List.forall_mem_nil _, ?_⟩
    intro index v harg
    exact absurd harg (hne index v)

theorem resolution_takes {args : List Variant} {plan : Plan} (h : resolution args = .ok plan)
    : plan.primitive.Takes "_getaddrinfo" args := by
  have ⟨p, hnames, hplan⟩ := (decodes_resolution args).value plan h
  subst hplan
  exact hnames.takes (length_of_resolution h)

end Request

namespace Dispatch

variable {platform : Platform κ η} {op : Operation (Traced κ) η}

theorem conduct_of_getaddrinfo (args : List Variant) (w : World (Traced κ) η)
    : Conduct platform.traced "_getaddrinfo" args w
        (dispatch "_getaddrinfo" Table.getaddrinfo.arms platform.traced args w).2 := by
  rw [Table.dispatch_getaddrinfo]
  cases hresolution : Request.resolution args with
  | error e => exact .nothing
  | ok plan =>
    exact Conduct.nothing.requested plan.primitive (Request.resolution_takes hresolution)

theorem conduct_of_arms (hcarries : op.Carries platform) (hname : op.name ≠ "_getaddrinfo")
    (h : op.Conducts platform.traced) (args : List Variant) (w : World (Traced κ) η)
    : Conduct platform.traced op.name args w
        (dispatch op.name op.arms platform.traced args w).2 := by
  cases hselect : select op.name op.arms args with
  | error e =>
    rw [dispatch_eq, hselect]
    exact .nothing
  | ok arm =>
    have ⟨hmem, haccepts⟩ := select_eq_ok hselect
    have hcarried := hcarries.arms arm hmem args w
    have hfinal : ∀ substituted,
        (arm.path platform.traced ⟨op.name, args⟩ w).1 ≠ .ok (.redispatch substituted) := by
      intro substituted hrun
      exact hname (hcarried.of_redispatch hrun).1
    rw [dispatch_of_final hselect rfl hfinal]
    exact h arm hmem args w ((arm.accepts_iff args).mp haccepts)

variable (platform) in
theorem conduct_of_builtIn (hop : op ∈ Table.builtIn) (args : List Variant)
    (w : World (Traced κ) η)
    : Conduct platform.traced op.name args w
        (dispatch op.name op.arms platform.traced args w).2 := by
  by_cases hname : op.name = "_getaddrinfo"
  . have hfind : (Registry.builtIn {} : Registry (Traced κ) η).find? "_getaddrinfo" = some op := by
      exact (Registry.find?_eq_some_iff _).mpr ⟨hop, hname⟩
    rw [Table.find?_getaddrinfo] at hfind
    cases hfind
    apply conduct_of_getaddrinfo
  . have hconducts := (Table.builtIn_conduct platform.traced op hop).resolve_left hname
    exact conduct_of_arms (Table.builtIn_carry platform op hop) hname hconducts args w

end Dispatch

theorem Told.conduct {platform : Platform κ η} {w w' : World (Traced κ) η}
    (h : Told platform w w') (args : List Variant)
    : Conduct platform.traced "chdir" args w w' := by
  cases h with
  | nothing => exact .nothing
  | directory path => exact Conduct.nothing.told rfl path

namespace BoundOperation

variable {platform : Platform κ η} {op : Operation (Traced κ) η} (hop : op ∈ Table.builtIn)
  (config : BindingConfig) (args : List Variant)
include hop

theorem afterHook_conduct (w : World (Traced κ) η)
    : Conduct platform.traced op.name args w
        ((⟨op, config⟩ : BoundOperation (Traced κ) η).afterHook platform.traced args w) := by
  by_cases hname : op.name = "chdir"
  . have htold := afterHook_told (Table.builtIn_carry platform op hop) config args w
    rw [hname]
    exact htold.conduct args
  . unfold afterHook
    simp only [Table.onSuccess_eq_none hop hname]
    exact .nothing

theorem resumed_conduct (outcome : Except CallError Outcome) (w : World (Traced κ) η)
    : Conduct platform.traced op.name args w
        ((⟨op, config⟩ : BoundOperation (Traced κ) η).resumed platform.traced args outcome w) := by
  unfold resumed
  split
  . split
    . exact afterHook_conduct hop config args w
    . exact .nothing
  . exact .nothing

theorem call_conduct (site : String) (w : World (Traced κ) η)
    : Conduct platform.traced op.name args w
        ((⟨op, config⟩ : BoundOperation (Traced κ) η).call platform.traced site args w).2 := by
  by_cases hadmits : (⟨op, config⟩ : BoundOperation (Traced κ) η).Admits args w
  . have ⟨log, hentered⟩ := entered_eq ⟨op, config⟩ platform.traced site args w
    have hstart : Conduct platform.traced op.name args w
        (entered ⟨op, config⟩ platform.traced site args w) := by
      rw [hentered]
      exact Conduct.nothing.turned w.memory w.errno (some op.name) log
    rcases hrun : dispatch op.name op.arms platform.traced args
      (entered ⟨op, config⟩ platform.traced site args w) with ⟨outcome, after⟩
    have hdispatched := Dispatch.conduct_of_builtIn platform hop args
      (entered ⟨op, config⟩ platform.traced site args w)
    rw [hrun] at hdispatched
    have hleft := (hstart.trans hdispatched).turned after.memory after.errno none after.log
    have hresumed := hleft.trans (resumed_conduct hop config args outcome _)
    have ⟨log', hcall⟩ := call_eq ⟨op, config⟩ platform.traced site args hadmits hrun
    rw [hcall]
    exact hresumed.turned _ _ _ _
  . have ⟨e, w', hcall, hlogged, _⟩ := call_of_not_admits _ platform.traced site args hadmits
    have ⟨log, register, hw'⟩ := hlogged.eq
    rw [hcall, hw']
    exact Conduct.nothing.turned w.memory register w.span log

end BoundOperation

theorem Registry.call_conduct (config : BindingConfig) (platform : Platform κ η)
    (site name : String) (args : List Variant) (w : World (Traced κ) η)
    : Conduct platform.traced name args w
        ((builtIn config).call platform.traced site name args w).2 := by
  cases hfind : (builtIn config : Registry (Traced κ) η).find? name with
  | none =>
    rw [call_of_find?_eq_none _ _ _ _ hfind]
    exact Conduct.nothing.turned w.memory _ w.span _
  | some op =>
    have ⟨hop, hname⟩ := (builtIn config).find?_eq_some_iff.mp hfind
    subst hname
    rw [call_of_find?_eq_some _ _ _ _ hfind]
    exact BoundOperation.call_conduct hop config args site w

theorem Conduct.untraced {platform : Platform κ η} {name : String} {args : List Variant}
    {w w' : World (Traced κ) η} (h : Conduct platform.traced name args w w')
    : Conduct platform name args w.untraced w'.untraced := by
  induction h with
  | nothing => exact .nothing
  | requested _ p htakes ih => exact ih.requested p htakes
  | directory _ ih => exact ih.directory
  | constant _ symbol ih => exact ih.constant symbol
  | told _ hname path ih => exact ih.told hname path
  | turned _ memory errno span log ih => exact ih.turned memory errno span log

theorem Registry.untracedCall_conduct (config : BindingConfig) (platform : Platform κ η)
    (site name : String) (args : List Variant) (w : World κ η)
    : Conduct platform name args w ((builtIn config).call platform site name args w).2 := by
  have hconduct := call_conduct config platform site name args (w.traced [])
  rw [call_eq_tracedCall]
  exact hconduct.untraced

end NativeCall
