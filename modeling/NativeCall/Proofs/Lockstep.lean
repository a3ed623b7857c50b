import Mathlib.Data.List.Forall2
import NativeCall.Proofs.Dispatching
import NativeCall.Proofs.Rows

/-!
This module contains the comparison of two runs on related worlds, and that every operation of the
library behaves the same on two platforms that answer alike.
-/

namespace NativeCall

variable {κ κ' η η' α β : Type}

/-- Two actions give the same result on related worlds, and leave related worlds. -/
def Lockstep (R : World κ η → World κ' η' → Prop) (x : Action κ η α) (y : Action κ' η' α) : Prop :=
  ∀ v w, R v w → (x v).1 = (y w).1 ∧ R (x v).2 (y w).2

namespace Lockstep

variable {R : World κ η → World κ' η' → Prop}

theorem pure (a : α) : Lockstep R (Pure.pure a) (Pure.pure a) := by
  intro v w h
  exact ⟨rfl, h⟩

theorem bind {x : Action κ η α} {y : Action κ' η' α} {f : α → Action κ η β}
    {g : α → Action κ' η' β} (hx : Lockstep R x y) (hf : ∀ a, Lockstep R (f a) (g a))
    : Lockstep R (x >>= f) (y >>= g) := by
  intro v w h
  have ⟨hresult, hworld⟩ := hx v w h
  simp only [Action.run_bind, hresult]
  exact hf _ _ _ hworld

theorem ok (a : α) : Lockstep R (Pure.pure a : Call κ η α) (Pure.pure a : Call κ' η' α) := by
  intro v w h
  exact ⟨rfl, h⟩

theorem throw (e : CallError)
    : Lockstep R (MonadExcept.throw e : Call κ η α) (MonadExcept.throw e : Call κ' η' α) := by
  intro v w h
  exact ⟨rfl, h⟩

theorem chain {x : Call κ η α} {y : Call κ' η' α} {f : α → Call κ η β} {g : α → Call κ' η' β}
    (hx : Lockstep R x y) (hf : ∀ a, Lockstep R (f a) (g a))
    : Lockstep R (x >>= f : Call κ η β) (y >>= g : Call κ' η' β) := by
  intro v w h
  have ⟨hresult, hworld⟩ := hx v w h
  rw [Call.run_bind, Call.run_bind]
  generalize x v = left at hresult hworld
  generalize y w = right at hresult hworld
  rcases left with ⟨result, v'⟩
  rcases right with ⟨result', w'⟩
  cases hresult
  cases result with
  | error e => exact ⟨rfl, hworld⟩
  | ok a => exact hf a v' w' hworld

theorem liftExcept (x : Except CallError α)
    : Lockstep R (liftM x : Call κ η α) (liftM x : Call κ' η' α) := by
  intro v w h
  exact ⟨rfl, h⟩

theorem liftAction {x : Action κ η α} {y : Action κ' η' α} (hx : Lockstep R x y)
    : Lockstep R (liftM x : Call κ η α) (liftM y : Call κ' η' α) := by
  intro v w h
  have ⟨hresult, hworld⟩ := hx v w h
  simp only [Call.run_liftAction, hresult]
  exact ⟨trivial, hworld⟩

end Lockstep

/-- On worlds that `R` relates, two platforms answer alike. -/
structure Simulation (R : World κ η → World κ' η' → Prop) (p : Platform κ η) (q : Platform κ' η')
    : Prop where
  memory : ∀ {v w}, R v w → v.memory = w.memory
  errno : ∀ {v w}, R v w → v.errno = w.errno
  setMemory : ∀ {v w}, R v w → ∀ m, R { v with memory := m } { w with memory := m }
  setErrno : ∀ {v w}, R v w → ∀ e, R { v with errno := e } { w with errno := e }
  run : ∀ {reply : Reply} (request : Primitive reply), Lockstep R (p.run request) (q.run request)
  currentDirectory : Lockstep R p.host.currentDirectory q.host.currentDirectory
  socketConstant : ∀ name, Lockstep R (p.host.socketConstant name) (q.host.socketConstant name)

/-- Two arms have the same guard, and paths that keep in step. -/
structure Arm.InStep (R : World κ η → World κ' η' → Prop) (p : Platform κ η) (q : Platform κ' η')
    (a : Arm (CallPath κ η)) (b : Arm (CallPath κ' η')) : Prop where
  guard : a.guard = b.guard
  path : ∀ inv, Lockstep R (a.path p inv) (b.path q inv)

/-- Two operations are declared alike, their paths keep in step, and after hooks run on worlds that
`R` relates the worlds are related by `S`. -/
structure Operation.InStep (R S : World κ η → World κ' η' → Prop) (p : Platform κ η)
    (q : Platform κ' η') (a : Operation κ η) (b : Operation κ' η') : Prop where
  name : a.name = b.name
  arity : a.arity = b.arity
  policy : a.policy = b.policy
  arms : List.Forall₂ (Arm.InStep R p q) a.arms b.arms
  onSuccess : Option.Rel (fun f g => ∀ args v w, R v w → S (f p args v).2 (g q args w).2)
    a.onSuccess b.onSuccess

section Paths

variable {R S : World κ η → World κ' η' → Prop} {p : Platform κ η} {q : Platform κ' η'}

namespace Dispatch

theorem select_inStep {arms : List (Arm (CallPath κ η))} {arms' : List (Arm (CallPath κ' η'))}
    (h : List.Forall₂ (Arm.InStep R p q) arms arms') (op : String) (args : List Variant)
    : (select op arms args = .error (noMatch op args) ∧
        select op arms' args = .error (noMatch op args)) ∨
      ∃ a b, select op arms args = .ok a ∧ select op arms' args = .ok b ∧ a.InStep R p q b := by
  induction h with
  | nil => exact Or.inl ⟨rfl, rfl⟩
  | @cons a b _ _ hab _ ih =>
    have haccepts : b.accepts args = a.accepts args := by
      unfold Arm.accepts
      rw [hab.guard]
    cases hcase : a.accepts args with
    | true =>
      right
      refine ⟨a, b, ?_, ?_, hab⟩
      . simp only [select, List.find?_cons, hcase]
      . simp only [select, List.find?_cons, haccepts, hcase]
    | false =>
      simp only [select, List.find?_cons, haccepts, hcase]
      exact ih

theorem again_lockstep {arms : List (Arm (CallPath κ η))} {arms' : List (Arm (CallPath κ' η'))}
    (h : List.Forall₂ (Arm.InStep R p q) arms arms') (op : String)
    (args substituted : List Variant)
    : Lockstep R (again op arms p args substituted) (again op arms' q args substituted) := by
  unfold again
  cases select_inStep h op substituted with
  | inl herror =>
    rw [herror.1, herror.2]
    apply Lockstep.throw
  | inr harms =>
    have ⟨a, b, ha, hb, hab⟩ := harms
    have hsignature : a.signature = b.signature := by
      unfold Arm.signature
      rw [hab.guard]
    rw [ha, hb]
    dsimp only
    apply Lockstep.chain
    . apply hab.path
    . intro outcome
      cases outcome with
      | redispatch twice =>
        dsimp only
        rw [hsignature]
        apply Lockstep.throw
      | status | value | info => apply Lockstep.ok

end Dispatch

theorem dispatch_lockstep {arms : List (Arm (CallPath κ η))} {arms' : List (Arm (CallPath κ' η'))}
    (h : List.Forall₂ (Arm.InStep R p q) arms arms') (op : String) (args : List Variant)
    : Lockstep R (dispatch op arms p args) (dispatch op arms' q args) := by
  intro v w hvw
  rw [dispatch_eq, dispatch_eq]
  cases Dispatch.select_inStep h op args with
  | inl herror =>
    rw [herror.1, herror.2]
    exact ⟨rfl, hvw⟩
  | inr harms =>
    have ⟨a, b, ha, hb, hab⟩ := harms
    have ⟨hresult, hworld⟩ := hab.path ⟨op, args⟩ v w hvw
    rw [ha, hb]
    dsimp only
    generalize a.path p ⟨op, args⟩ v = left at hresult hworld
    generalize b.path q ⟨op, args⟩ w = right at hresult hworld
    rcases left with ⟨result, v'⟩
    rcases right with ⟨result', w'⟩
    cases hresult
    rcases result with e | outcome
    . exact ⟨rfl, hworld⟩
    . cases outcome with
      | redispatch substituted =>
        exact Dispatch.again_lockstep h op args substituted v' w' hworld
      | status | value | info => exact ⟨rfl, hworld⟩

namespace Simulation

variable (sim : Simulation R p q)
include sim

theorem register : Lockstep R (Action.errno : Action κ η Errno) Action.errno := by
  intro v w h
  exact ⟨sim.errno h, h⟩

theorem carryOut (plan : Plan)
    : Lockstep R (CallPath.carryOut p plan) (CallPath.carryOut q plan) := by
  unfold CallPath.carryOut
  apply Lockstep.bind (sim.run plan.primitive)
  intro answer
  apply Lockstep.bind sim.register
  intro register
  apply Lockstep.pure

theorem native (decode : Invocation → Except CallError Plan) (inv : Invocation)
    : Lockstep R (CallPath.native decode p inv) (CallPath.native decode q inv) := by
  unfold CallPath.native
  apply Lockstep.chain (Lockstep.liftExcept _)
  intro plan
  exact Lockstep.liftAction (sim.carryOut plan)

theorem nativeIn (decode : Memory → Invocation → Except CallError Plan) (inv : Invocation)
    : Lockstep R (CallPath.nativeIn decode p inv) (CallPath.nativeIn decode q inv) := by
  intro v w h
  simp only [CallPath.nativeIn, Call.run_bind, Call.run_get, Call.run_liftExcept, sim.memory h]
  cases decode w.memory inv with
  | error e => exact ⟨rfl, h⟩
  | ok plan => exact Lockstep.liftAction (sim.carryOut plan) v w h

theorem hostDirectory (inv : Invocation)
    : Lockstep R (CallPath.hostDirectory p inv) (CallPath.hostDirectory q inv) := by
  unfold CallPath.hostDirectory
  apply Lockstep.chain (Lockstep.liftAction sim.currentDirectory)
  intro path
  apply Lockstep.ok

theorem askGroups (size : Int32) : Lockstep R (p.askGroups size) (q.askGroups size) := by
  unfold Platform.askGroups
  apply Lockstep.bind (sim.run (.getgroups size))
  intro answer
  apply Lockstep.bind sim.register
  intro register
  apply Lockstep.pure

theorem listGroups : Lockstep R p.groups q.groups := by
  unfold Platform.groups
  apply Lockstep.bind (sim.askGroups 0)
  intro counted
  cases counted with
  | error e => apply Lockstep.pure
  | ok counted =>
    apply Lockstep.bind (sim.askGroups counted.count)
    intro listed
    cases listed <;> apply Lockstep.pure

theorem groupCount (inv : Invocation)
    : Lockstep R (CallPath.groupCount p inv) (CallPath.groupCount q inv) := by
  unfold CallPath.groupCount
  apply Lockstep.chain (Lockstep.liftExcept _)
  intro limit
  apply Lockstep.chain (Lockstep.liftAction sim.listGroups)
  intro groups
  apply Lockstep.ok

theorem groups (inv : Invocation)
    : Lockstep R (CallPath.groups p inv) (CallPath.groups q inv) := by
  unfold CallPath.groups
  apply Lockstep.chain (Lockstep.liftExcept _)
  intro limit
  apply Lockstep.chain (Lockstep.liftExcept _)
  intro view
  apply Lockstep.chain (Lockstep.liftAction sim.listGroups)
  intro groups
  cases groups with
  | error e => apply Lockstep.ok
  | ok ids =>
    intro v w h
    simp only [Call.run_bind, Call.run_get, Call.run_liftExcept, Call.run_modify, Call.run_pure,
      sim.memory h]
    cases inv.memory 1 (view.writeIds 4 (ids.map UInt32.toUInt64) limit w.memory) with
    | error e => exact ⟨rfl, h⟩
    | ok written => exact ⟨rfl, sim.setMemory h written.2⟩

theorem memset (inv : Invocation)
    : Lockstep R (CallPath.memset p inv) (CallPath.memset q inv) := by
  unfold CallPath.memset
  apply Lockstep.chain (Lockstep.liftExcept _)
  intro handle
  apply Lockstep.chain (Lockstep.liftExcept _)
  intro view
  apply Lockstep.chain (Lockstep.liftExcept _)
  intro byte
  apply Lockstep.chain (Lockstep.liftExcept _)
  intro size v w h
  simp only [Call.run_bind, Call.run_get, Call.run_liftExcept, Call.run_modify, Call.run_pure,
    sim.memory h]
  cases inv.memory 0 (view.fill byte.toUInt64.toUInt8 size w.memory) with
  | error e => exact ⟨rfl, h⟩
  | ok memory => exact ⟨rfl, sim.setMemory h memory⟩

theorem lastError (inv : Invocation) : Lockstep R (CallPath.errno p inv) (CallPath.errno q inv) := by
  intro v w h
  simp only [CallPath.errno, Call.run_bind, Call.run_get, Call.run_pure, sim.errno h]
  exact ⟨trivial, h⟩

theorem setLastError (inv : Invocation)
    : Lockstep R (CallPath.setErrno p inv) (CallPath.setErrno q inv) := by
  unfold CallPath.setErrno
  apply Lockstep.chain (Lockstep.liftExcept _)
  intro code v w h
  exact ⟨rfl, sim.setErrno h ⟨code⟩⟩

theorem constant (inv : Invocation) (index : Nat) (fullName : String → String)
    : Lockstep R (CallPath.constant p inv index fullName)
        (CallPath.constant q inv index fullName) := by
  unfold CallPath.constant
  apply Lockstep.chain (Lockstep.liftExcept _)
  intro symbol
  apply Lockstep.chain (Lockstep.liftAction (sim.socketConstant _))
  intro value
  cases value with
  | none => apply Lockstep.throw
  | some value => apply Lockstep.ok

theorem getsockoptByName (inv : Invocation)
    : Lockstep R (CallPath.getsockoptByName p inv) (CallPath.getsockoptByName q inv) := by
  unfold CallPath.getsockoptByName
  apply Lockstep.chain (sim.constant inv 1 _)
  intro level
  apply Lockstep.chain (sim.constant inv 2 _)
  intro name
  apply sim.nativeIn

theorem arm (guard : Guard) (decode : Invocation → Except CallError Plan)
    : Arm.InStep R p q (Table.arm guard decode) (Table.arm guard decode) := by
  exact ⟨rfl, sim.native decode⟩

theorem armIn (guard : Guard) (decode : Memory → Invocation → Except CallError Plan)
    : Arm.InStep R p q (Table.armIn guard decode) (Table.armIn guard decode) := by
  exact ⟨rfl, sim.nativeIn decode⟩

omit sim in
theorem computed (guard : Guard) (outcome : Invocation → Except CallError Outcome)
    : Arm.InStep R p q ⟨guard, .pure outcome⟩ ⟨guard, .pure outcome⟩ := by
  exact ⟨rfl, fun inv => Lockstep.liftExcept (outcome inv)⟩

end Simulation

namespace Operation

variable {name : String} {arity : Nat} {policy : Policy} {guard : Guard}

theorem inStep_of_arms {arms : List (Arm (CallPath κ η))} {arms' : List (Arm (CallPath κ' η'))}
    (h : List.Forall₂ (Arm.InStep R p q) arms arms')
    : Operation.InStep R S p q ⟨name, arity, policy, arms, none⟩
        ⟨name, arity, policy, arms', none⟩ := by
  exact ⟨rfl, rfl, rfl, h, .none⟩

theorem inStep_single {path : CallPath κ η} {path' : CallPath κ' η'}
    (h : ∀ inv, Lockstep R (path p inv) (path' q inv))
    : Operation.InStep R S p q ⟨name, arity, policy, [⟨guard, path⟩], none⟩
        ⟨name, arity, policy, [⟨guard, path'⟩], none⟩ := by
  exact inStep_of_arms (.cons ⟨rfl, h⟩ .nil)

end Operation

namespace Table

theorem tellDirectory_lockstep
    (htell : ∀ path v w, R v w →
      S (p.host.setCurrentDirectory path v).2 (q.host.setCurrentDirectory path w).2)
    (hstay : ∀ v w, R v w → S v w) (args : List Variant) (v : World κ η) (w : World κ' η')
    (h : R v w) : S (tellDirectory p args v).2 (tellDirectory q args w).2 := by
  unfold tellDirectory
  cases args.head?.bind Variant.asStr? with
  | none => exact hstay v w h
  | some path => exact htell path v w h

theorem Row.inStep {row : ∀ κ η : Type, Operation κ η} (hrow : Row row) (sim : Simulation R p q)
    (htell : ∀ path v w, R v w →
      S (p.host.setCurrentDirectory path v).2 (q.host.setCurrentDirectory path w).2)
    (hstay : ∀ v w, R v w → S v w) : Operation.InStep R S p q (row κ η) (row κ' η') := by
  have native (guard : Guard) (decode : Invocation → Except CallError Plan) (name : String)
      (arity : Nat) (policy : Policy)
      : Operation.InStep R S p q ⟨name, arity, policy, [arm guard decode], none⟩
          ⟨name, arity, policy, [arm guard decode], none⟩ := by
    exact Operation.inStep_single (sim.native decode)
  have nativeIn (guard : Guard) (decode : Memory → Invocation → Except CallError Plan)
      (name : String) (arity : Nat) (policy : Policy)
      : Operation.InStep R S p q ⟨name, arity, policy, [armIn guard decode], none⟩
          ⟨name, arity, policy, [armIn guard decode], none⟩ := by
    exact Operation.inStep_single (sim.nativeIn decode)
  cases hrow with
  | chdir =>
    refine ⟨rfl, rfl, rfl, .cons (sim.arm _ _) .nil, .some ?_⟩
    exact tellDirectory_lockstep htell hstay
  | missing => exact Operation.inStep_single fun inv => Lockstep.liftExcept _
  | fcntl => exact Operation.inStep_of_arms (.cons (sim.arm _ _) (.cons (sim.arm _ _) .nil))
  | getcwd =>
    exact Operation.inStep_of_arms (.cons (sim.arm _ _) (.cons ⟨rfl, sim.hostDirectory⟩ .nil))
  | getgroups =>
    exact Operation.inStep_of_arms (.cons ⟨rfl, sim.groupCount⟩ (.cons ⟨rfl, sim.groups⟩ .nil))
  | memset => exact Operation.inStep_single sim.memset
  | major => exact Operation.inStep_single fun inv => Lockstep.liftExcept _
  | minor => exact Operation.inStep_single fun inv => Lockstep.liftExcept _
  | getaddrinfo =>
    exact Operation.inStep_of_arms (.cons (Simulation.computed _ _)
      (.cons (sim.arm _ _) (.cons (sim.arm _ _) .nil)))
  | getnameinfo =>
    exact Operation.inStep_of_arms (.cons (sim.arm _ _) (.cons (sim.arm _ _)
      (.cons (sim.arm _ _) .nil)))
  | getsockopt =>
    exact Operation.inStep_of_arms (.cons (sim.armIn _ _)
      (.cons ⟨rfl, sim.getsockoptByName⟩ .nil))
  | getpeername | getsockname => apply nativeIn
  | lastErrno => exact Operation.inStep_single sim.lastError
  | setErrno => exact Operation.inStep_single sim.setLastError
  | _ => apply native

theorem builtIn_inStep (sim : Simulation R p q)
    (htell : ∀ path v w, R v w →
      S (p.host.setCurrentDirectory path v).2 (q.host.setCurrentDirectory path w).2)
    (hstay : ∀ v w, R v w → S v w)
    : List.Forall₂ (Operation.InStep R S p q) builtIn builtIn := by
  exact forall₂_builtIn fun _ hrow => hrow.inStep sim htell hstay

theorem arms_inStep {R : World κ η → World κ η → Prop} {p q : Platform κ η}
    (sim : Simulation R p q) {op : Operation κ η} (hop : op ∈ builtIn)
    : List.Forall₂ (Arm.InStep R p q) op.arms op.arms := by
  have hall : List.Forall₂ (Operation.InStep R (fun _ _ => True) p q) builtIn builtIn := by
    exact builtIn_inStep sim (fun _ _ _ _ => trivial) fun _ _ _ => trivial
  exact (List.forall₂_same.mp hall op hop).arms

end Table

end Paths

end NativeCall
