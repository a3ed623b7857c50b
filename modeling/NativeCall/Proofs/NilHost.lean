import NativeCall.Proofs.Settling
import NativeCall.Proofs.Table

/-!
This module contains the arm for calls without a host, the only one of the library that substitutes
arguments.
-/

namespace NativeCall

variable {κ η : Type}

/-- For some arguments of a call to `op`, the arm's path asks for others in their place. -/
def Arm.Substitutes (op : String) (arm : Arm (CallPath κ η)) : Prop :=
  ∃ platform args w substituted,
    (arm.path platform ⟨op, args⟩ w).1 = .ok (.redispatch substituted)

namespace Table

theorem nilHost_path (platform : Platform κ η) (op : String) (args : List Variant) (w : World κ η)
    : nilHost.path platform ⟨op, args⟩ w =
        (.ok (.redispatch (args.set 0 (.str Request.wildcardHost))), w) := by
  rfl

theorem not_nilHost_accepts_set (args : List Variant) (host : String)
    : ¬ (nilHost : Arm (CallPath κ η)).accepts (args.set 0 (.str host)) := by
  cases args <;> simp [nilHost, Arm.accepts, Guard.accepts, Shape.accepts, Variant.kind]

theorem arms_getaddrinfo {op : Operation κ η} (hop : op ∈ builtIn) (hname : op.name = "_getaddrinfo")
    : op.arms = [nilHost, arm [.str, .str, .any, .pointer] Request.getaddrinfo,
        arm [.str, .nil, .any, .pointer] Request.getaddrinfoHost] := by
  have hfind := (Registry.builtIn {}).find?_eq_some_iff.mpr ⟨hop, hname⟩
  have hfound : (Registry.builtIn {} : Registry κ η).find? "_getaddrinfo" = some getaddrinfo := by
    rfl
  rw [hfound] at hfind
  cases hfind
  rfl

theorem name_of_redispatch {op : Operation κ η} (hop : op ∈ builtIn) {arm : Arm (CallPath κ η)}
    (harm : arm ∈ op.arms) {platform : Platform κ η} {args substituted : List Variant}
    {w : World κ η} (hrun : (arm.path platform ⟨op.name, args⟩ w).1 = .ok (.redispatch substituted))
    : op.name = "_getaddrinfo" := by
  have ⟨traced, hmem, hstep⟩ := exists_traced platform hop
  have ⟨arm', harm', harms⟩ := exists_of_forall₂ hstep.arms harm
  have ⟨hresult, _⟩ := harms.path ⟨op.name, args⟩ (w.traced []) w rfl
  have hcarried := (builtIn_carry platform traced hmem).arms arm' harm' args (w.traced [])
  rw [hstep.name] at hcarried
  have ⟨hname, _⟩ := hcarried.of_redispatch (hresult.trans hrun)
  exact hname

/-- One arm of the library alone substitutes arguments. -/
theorem eq_nilHost_of_substitutes {op : Operation κ η} (hop : op ∈ builtIn)
    {arm : Arm (CallPath κ η)} (harm : arm ∈ op.arms) (h : arm.Substitutes op.name)
    : op.name = "_getaddrinfo" ∧ arm = nilHost := by
  have ⟨platform, args, w, substituted, hrun⟩ := h
  have hname := name_of_redispatch hop harm hrun
  refine ⟨hname, ?_⟩
  have hnative {guard : Guard} {decode : Invocation → Except CallError Plan}
      (hsound : ∀ memory inv, Decodes (decode inv) (Plan.Sound .informational memory inv.args))
      : arm ≠ Table.arm guard decode := by
    intro heq
    rw [heq] at hrun
    change (CallPath.native decode platform _ w).1 = _ at hrun
    rw [CallPath.native_eq] at hrun
    refine platform.kernel.carryOut_ne_redispatch ?_ w.toMachine substituted hrun
    intro plan hplan
    exact ((hsound w.memory _).value plan hplan).final
  rw [arms_getaddrinfo hop hname, List.mem_cons, List.mem_cons, List.mem_singleton] at harm
  rcases harm with heq | heq | heq
  . exact heq
  . exact absurd heq (hnative Request.getaddrinfo_sound)
  . exact absurd heq (hnative Request.getaddrinfoHost_sound)

theorem eq_of_redispatch {op : Operation κ η} (hop : op ∈ builtIn) {arm : Arm (CallPath κ η)}
    (harm : arm ∈ op.arms) {platform : Platform κ η} {args substituted : List Variant}
    {w w' : World κ η}
    (hrun : arm.path platform ⟨op.name, args⟩ w = (.ok (.redispatch substituted), w'))
    : arm = nilHost ∧ substituted = args.set 0 (.str Request.wildcardHost) := by
  have ⟨_, heq⟩ := eq_nilHost_of_substitutes hop harm
    ⟨platform, args, w, substituted, congrArg Prod.fst hrun⟩
  subst heq
  rw [nilHost_path] at hrun
  cases hrun
  exact ⟨rfl, rfl⟩

end Table

end NativeCall
