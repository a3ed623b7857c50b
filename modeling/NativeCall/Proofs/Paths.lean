import NativeCall.Proofs.Calling
import NativeCall.Proofs.Listing
import NativeCall.Proofs.Plans
import NativeCall.Table.BuiltIn

/-!
This module contains all that the path of an arm can come to on a platform that keeps a trace.
-/

namespace NativeCall

variable {κ η : Type}

/-- The world `w'` is reached from `w` by asking the host for constants. -/
inductive Asked (platform : Platform κ η) (w : World (Traced κ) η) : World (Traced κ) η → Prop where
  | nothing : Asked platform w w
  | constant {w' : World (Traced κ) η} (h : Asked platform w w') (name : String)
      : Asked platform w (platform.traced.host.socketConstant name w').2

/-- What the operations give that need neither the system nor the host. -/
inductive Computed (args : List Variant) (register : Errno) : String → Variant → Prop where
  | memset {p : Pointer} (h : args[0]? = some (.pointer p))
      : Computed args register "memset" (.pointer p)
  | major {device : Int64} (h : args[0]? = some (.int device))
      : Computed args register "major" (.int (Device.major device.toInt32).toInt64)
  | minor {device : Int64} (h : args[0]? = some (.int device))
      : Computed args register "minor" (.int (Device.minor device.toInt32).toInt64)
  | lastError : Computed args register "errno" (.int register.code.toInt64)
  | setLastError : Computed args register "errno=" (.int 0)

theorem Computed.name_mem {args : List Variant} {register : Errno} {name : String} {v : Variant}
    (h : Computed args register name v)
    : name ∈ ["memset", "major", "minor", "errno", "errno="] := by
  cases h <;> simp

/-- The outcome hands a value on as it is. -/
inductive Outcome.Raw : Outcome → Variant → Prop where
  | info {n : Int64} : Raw (.info n) (.int n)
  | value {v : Variant} : Raw (.value (.ok v)) v

/-- What the path of an arm of the operation `name` comes to from the world `w`. -/
inductive Carried (platform : Platform κ η) (name : String) (policy : Policy)
    (args : List Variant) (w : World (Traced κ) η)
    : Except CallError Outcome × World (Traced κ) η → Prop where
  | refused {e : CallError} {w' : World (Traced κ) η} (hasked : Asked platform w w')
      (he : e.isMisuse ∨ e.isUnsupported)
      : Carried platform name policy args w (.error e, w')
  | substituted (hname : name = "_getaddrinfo")
      : Carried platform name policy args w
          (.ok (.redispatch (args.set 0 (.str Request.wildcardHost))), w)
  | computed {outcome : Outcome} {v : Variant} {w' : World (Traced κ) η} (hos : w'.os = w.os)
      (hpolicy : policy = .informational) (h : Computed args w.errno name v)
      (hraw : outcome.Raw v)
      : Carried platform name policy args w (.ok outcome, w')
  | told (hname : name = "getcwd") (hpolicy : policy = .passThrough)
      : Carried platform name policy args w
          (.ok (.value (.ok (.str (platform.traced.host.currentDirectory w).1))),
            (platform.traced.host.currentDirectory w).2)
  | requested {w' : World (Traced κ) η} {reply : Reply} (p : Primitive reply)
      (hasked : Asked platform w w')
      (hhandovers : ∀ handover ∈ p.handovers w'.memory, handover.Sound args)
      (hreply : reply ≠ .ids ∧ (policy = .informational → reply ≠ .flag))
      : Carried platform name policy args w
          (.ok (Outcome.ofAnswer policy args reply (platform.traced.run p w').1
            (platform.traced.run p w').2.errno), (platform.traced.run p w').2)
  -- the groups have been listed, but there is no room for them
  | overrun {ids : List UInt32} {e : CallError} {w' : World (Traced κ) η} (hname : name = "getgroups")
      (hlisted : platform.traced.Listed w (.ok ids) w') (he : e.isMisuse)
      : Carried platform name policy args w (.error e, w')
  | listed {groups : Except Errno (List UInt32)} {w' : World (Traced κ) η} (hname : name = "getgroups")
      (hpolicy : policy = .passThrough) (hlisted : platform.traced.Listed w groups w')
      (memory : Memory)
      : Carried platform name policy args w
          (.ok (.status (groups.map fun ids => Int64.ofNat ids.length)),
            { w' with memory := memory })

theorem Carried.of_redispatch {platform : Platform κ η} {name : String} {policy : Policy}
    {args substituted : List Variant} {w : World (Traced κ) η}
    {run : Except CallError Outcome × World (Traced κ) η}
    (h : Carried platform name policy args w run) (hrun : run.1 = .ok (.redispatch substituted))
    : name = "_getaddrinfo" ∧ substituted = args.set 0 (.str Request.wildcardHost) ∧
        run.2 = w := by
  cases h with
  | substituted hname =>
    cases hrun
    exact ⟨hname, rfl, rfl⟩
  | computed _ _ _ hraw => cases hraw <;> cases hrun
  | refused | told | overrun | listed => cases hrun
  | requested =>
    have := Outcome.ofAnswer_ne_redispatch policy args _ _ _ substituted (Except.ok.inj hrun)
    contradiction

/-- Whatever the arguments and the world, the arm's path comes to what `Carried` allows. -/
def Arm.Carries (platform : Platform κ η) (name : String) (policy : Policy)
    (arm : Arm (CallPath (Traced κ) η)) : Prop :=
  ∀ args w, Carried platform name policy args w (arm.path platform.traced ⟨name, args⟩ w)

namespace CallPath

theorem carryOut_eq (platform : Platform κ η) (plan : Plan) (w : World κ η)
    : carryOut platform plan w =
        (plan.conclude (platform.run plan.primitive w).1 (platform.run plan.primitive w).2.errno,
          (platform.run plan.primitive w).2) := by
  rfl

variable {platform : Platform κ η} {name : String} {policy : Policy}

theorem carried_step {α : Type} {q : α → Prop} {x : Except CallError α}
    {f : α → Call (Traced κ) η Outcome} {args : List Variant} {w w' : World (Traced κ) η}
    (hasked : Asked platform w w') (hx : Decodes x q)
    (hf : ∀ a, q a → Carried platform name policy args w (f a w'))
    : Carried platform name policy args w ((liftM x >>= f : Call (Traced κ) η Outcome) w') := by
  rw [Call.run_bind, Call.run_liftExcept]
  cases hrun : x with
  | error e => exact .refused hasked (Or.inl (hx.fault e hrun))
  | ok a => exact hf a (hx.value a hrun)

theorem carried_plan {x : Except CallError Plan} {args : List Variant}
    {w w' : World (Traced κ) η} (hasked : Asked platform w w')
    (h : Decodes x (Plan.Sound policy w'.memory args))
    : Carried platform name policy args w
        ((do carryOut platform.traced (← x) : Call (Traced κ) η Outcome) w') := by
  apply carried_step hasked h
  intro plan hsound
  rw [Call.run_liftAction, carryOut_eq, hsound.conclude]
  exact .requested plan.primitive hasked hsound.handovers hsound.reply

theorem carries_native {guard : Guard} {decode : Invocation → Except CallError Plan}
    (h : ∀ memory inv, Decodes (decode inv) (Plan.Sound policy memory inv.args))
    : (Table.arm guard decode).Carries platform name policy := by
  intro args w
  exact carried_plan .nothing (h w.memory ⟨name, args⟩)

theorem carries_nativeIn {guard : Guard} {decode : Memory → Invocation → Except CallError Plan}
    (h : ∀ memory inv, Decodes (decode memory inv) (Plan.Sound policy memory inv.args))
    : (Table.armIn guard decode).Carries platform name policy := by
  intro args w
  exact carried_plan .nothing (h w.memory ⟨name, args⟩)

theorem carries_hostDirectory (guard : Guard)
    : (⟨guard, hostDirectory⟩ : Arm (CallPath (Traced κ) η)).Carries platform "getcwd"
        .passThrough := by
  intro args w
  exact .told rfl rfl

theorem carries_unsupported (guard : Guard)
    : (⟨guard, unsupported⟩ : Arm (CallPath (Traced κ) η)).Carries platform name policy := by
  intro args w
  exact .refused .nothing (Or.inr rfl)

theorem carries_wildcard (guard : Guard)
    : (⟨guard, .pure Request.wildcard⟩ : Arm (CallPath (Traced κ) η)).Carries platform
        "_getaddrinfo" policy := by
  intro args w
  exact .substituted rfl

theorem carries_pure {guard : Guard} {outcome : Invocation → Except CallError Outcome}
    (hpolicy : policy = .informational)
    (h : ∀ inv, Decodes (outcome inv) fun o =>
      ∃ v, (∀ register, Computed inv.args register name v) ∧ o.Raw v)
    : (⟨guard, .pure outcome⟩ : Arm (CallPath (Traced κ) η)).Carries platform name policy := by
  intro args w
  unfold CallPath.pure
  dsimp only
  cases hrun : outcome ⟨name, args⟩ with
  | error e => exact .refused .nothing (Or.inl ((h _).fault e hrun))
  | ok o =>
    have ⟨v, hv, hraw⟩ := (h _).value o hrun
    exact .computed rfl hpolicy (hv w.errno) hraw

theorem carries_device {guard : Guard} {part : Int32 → Int32}
    (h : ∀ args register n, args[0]? = some (.int n) →
      Computed args register name (.int (part n.toInt32).toInt64))
    : (⟨guard, device part⟩ : Arm (CallPath (Traced κ) η)).Carries platform name
        .informational := by
  apply carries_pure rfl
  intro inv
  apply (inv.decodes_int 0).bind
  intro n hn
  exact .pure ⟨_, fun register => h _ register n hn, .info⟩

theorem carries_lastError (guard : Guard)
    : (⟨guard, errno⟩ : Arm (CallPath (Traced κ) η)).Carries platform "errno"
        .informational := by
  intro args w
  exact .computed rfl rfl .lastError .info

theorem carries_setLastError (guard : Guard)
    : (⟨guard, setErrno⟩ : Arm (CallPath (Traced κ) η)).Carries platform "errno="
        .informational := by
  intro args w
  apply carried_step .nothing (Invocation.decodes_cInt _ 0)
  intro code _
  exact .computed rfl rfl .setLastError .info

theorem carries_memset (guard : Guard)
    : (⟨guard, memset⟩ : Arm (CallPath (Traced κ) η)).Carries platform "memset"
        .informational := by
  intro args w
  apply carried_step .nothing (Invocation.decodes_pointer _ 0)
  intro handle hhandle
  apply carried_step .nothing (Invocation.decodes_view _ 0)
  intro view _
  apply carried_step .nothing (Invocation.decodes_int _ 1)
  intro byte _
  apply carried_step .nothing (Invocation.decodes_size _ 2)
  intro size _
  rw [Call.run_bind, Call.run_get]
  apply carried_step .nothing (Invocation.decodes_memory _ 0 _)
  intro memory _
  exact .computed rfl rfl (.memset hhandle) .value

theorem carries_groupCount (guard : Guard)
    : (⟨guard, groupCount⟩ : Arm (CallPath (Traced κ) η)).Carries platform "getgroups"
        .passThrough := by
  intro args w
  apply carried_step .nothing (Invocation.decodes_size _ 0)
  intro limit _
  rw [Call.run_bind, Call.run_liftAction]
  exact .listed rfl rfl (platform.traced.groups_listed w) (platform.traced.groups w).2.memory

theorem carries_groups (guard : Guard)
    : (⟨guard, groups⟩ : Arm (CallPath (Traced κ) η)).Carries platform "getgroups"
        .passThrough := by
  intro args w
  apply carried_step .nothing (Invocation.decodes_size _ 0)
  intro limit _
  apply carried_step .nothing (Invocation.decodes_view _ 1)
  intro view _
  have hlisted := platform.traced.groups_listed w
  rw [Call.run_bind, Call.run_liftAction]
  rcases hrun : platform.traced.groups w with ⟨groups, w'⟩
  rw [hrun] at hlisted
  cases groups with
  | error e => exact .listed rfl rfl hlisted w'.memory
  | ok ids =>
    dsimp only
    rw [Call.run_bind, Call.run_get]
    dsimp only
    rw [Call.run_bind, Call.run_liftExcept]
    cases hwritten : Invocation.memory ⟨"getgroups", args⟩ 1
      (view.writeIds 4 (ids.map UInt32.toUInt64) limit w'.memory) with
    | error e => exact .overrun rfl hlisted ((Invocation.decodes_memory _ 1 _).fault e hwritten)
    | ok written => exact .listed rfl rfl hlisted written.2

theorem carried_constant {args : List Variant} {w w' : World (Traced κ) η} (index : Nat)
    (fullName : String → String) {f : Int32 → Call (Traced κ) η Outcome}
    (hasked : Asked platform w w')
    (hf : ∀ value w', Asked platform w w' → Carried platform name policy args w (f value w'))
    : Carried platform name policy args w
        ((constant platform.traced ⟨name, args⟩ index fullName >>= f :
          Call (Traced κ) η Outcome) w') := by
  unfold constant
  rw [bind_assoc]
  apply carried_step hasked (Invocation.decodes_symbol _ index)
  intro symbol _
  rw [bind_assoc, Call.run_bind, Call.run_liftAction]
  have hasked' := hasked.constant (fullName symbol)
  cases (platform.traced.host.socketConstant (fullName symbol) w').1 with
  | none => exact .refused hasked' (Or.inl rfl)
  | some value => exact hf value _ hasked'

theorem carries_getsockoptByName (guard : Guard)
    : (⟨guard, getsockoptByName⟩ : Arm (CallPath (Traced κ) η)).Carries platform name
        .passThrough := by
  intro args w
  unfold getsockoptByName
  apply carried_constant 1 SocketConstant.levelName .nothing
  intro level w₁ hasked₁
  apply carried_constant 2 SocketConstant.optionName hasked₁
  intro option w₂ hasked₂
  exact carried_plan hasked₂ (Request.socketOption_sound w₂.memory ⟨name, args⟩ level option)

end CallPath

end NativeCall
