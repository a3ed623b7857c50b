import NativeCall.Host.Tracking
import NativeCall.Posix.Kernel
import NativeCall.Proofs.Choice
import NativeCall.Proofs.Decoding
import NativeCall.Proofs.Settling

/-!
This module contains the resolution of names: what is resolved for which arguments, and that no host
is the wildcard host.
-/

namespace NativeCall

variable {κ η : Type}

namespace Request

/-- The request resolves what the arguments name. The wildcard stands in for a host that they leave
out. -/
inductive Names (args : List Variant) : {reply : Reply} → Primitive reply → Prop where
  | names {text : String} {host : CString} {service : Option CString} {hints result : UInt64}
      (hhost : args[0]? = some (.str text) ∨ args[0]? = some .nil ∧ text = wildcardHost)
      (htext : CString.ofText? text = some host)
      (hservice : (args[1]? = some .nil ∧ service = none) ∨
        ∃ text s, args[1]? = some (.str text) ∧ CString.ofText? text = some s ∧ service = some s)
      (hhints : (args[2]? = some .nil ∧ hints = 0) ∨
        ∃ length, args[2]? = some (.pointer ⟨hints, length⟩))
      (hresult : ∃ length, args[3]? = some (.pointer ⟨result, length⟩))
      : Names args (.getaddrinfo host service hints result)

def Resolves (args : List Variant) (plan : Plan) : Prop :=
  ∃ p, Names args p ∧ plan = .info p

theorem Resolves.final {args : List Variant} {plan : Plan} (h : Resolves args plan)
    : plan.Final := by
  have ⟨p, _, hplan⟩ := h
  subst hplan
  nofun

theorem decodes_resolve (inv : Invocation) (service : Option CString)
    (hservice : (inv.args[1]? = some .nil ∧ service = none) ∨
      ∃ text s, inv.args[1]? = some (.str text) ∧ CString.ofText? text = some s ∧
        service = some s)
    : Decodes (resolve inv service) (Resolves inv.args) := by
  unfold resolve
  apply (inv.decodes_cString 0).bind
  rintro host ⟨text, htext, hhost⟩
  apply (inv.decodes_nullableView 2).bind
  intro hints hhints
  have hrest (haddress : (inv.args[2]? = some .nil ∧ hints.elim 0 (·.base) = 0) ∨
        ∃ length, inv.args[2]? = some (.pointer ⟨hints.elim 0 (·.base), length⟩))
      : Decodes (do
          let result ← inv.region 3 addressSize
          return .info (.getaddrinfo host service (hints.elim 0 (·.base)) result.base))
        (Resolves inv.args) := by
    apply (inv.decodes_region 3 addressSize).bind
    intro result hresult
    apply Decodes.pure
    exact ⟨_, .names (Or.inl htext) hhost hservice haddress ⟨_, hresult.1⟩, rfl⟩
  cases hints with
  | none =>
    apply hrest
    rcases hhints with hnil | hnull
    . exact Or.inl ⟨hnil, rfl⟩
    . exact Or.inr hnull
  | some view =>
    apply (inv.decodes_memory 2 _).bind
    intro _ _
    apply hrest
    exact Or.inr ⟨_, hhints⟩

theorem decodes_getaddrinfo (inv : Invocation)
    : Decodes (getaddrinfo inv) (Resolves inv.args) := by
  unfold getaddrinfo
  apply (inv.decodes_cString 1).bind
  rintro service ⟨text, htext, hservice⟩
  apply decodes_resolve
  exact Or.inr ⟨text, service, htext, hservice, rfl⟩

theorem decodes_getaddrinfoHost (inv : Invocation) (h : inv.args[1]? = some .nil)
    : Decodes (getaddrinfoHost inv) (Resolves inv.args) := by
  apply decodes_resolve
  exact Or.inl ⟨h, rfl⟩

def resolution (args : List Variant) : Except CallError Plan :=
  match args with
  | [.nil, .str service, hints, .pointer result] =>
    getaddrinfo ⟨"_getaddrinfo", [.str wildcardHost, .str service, hints, .pointer result]⟩
  | [.str _, .str _, _, .pointer _] => getaddrinfo ⟨"_getaddrinfo", args⟩
  | [.str _, .nil, _, .pointer _] => getaddrinfoHost ⟨"_getaddrinfo", args⟩
  | _ => .error (Dispatch.noMatch "_getaddrinfo" args)

theorem decodes_resolution (args : List Variant)
    : Decodes (resolution args) (Resolves args) := by
  unfold resolution
  split
  . next service hints result =>
    apply (decodes_getaddrinfo _).mono
    rintro _ ⟨p, ⟨hhost, htext, hservice, hhints, hresult⟩, rfl⟩
    refine ⟨_, .names (Or.inr ⟨rfl, ?_⟩) htext hservice hhints hresult, rfl⟩
    rcases hhost with hhost | hhost
    . cases hhost
      rfl
    . exact hhost.2
  . exact decodes_getaddrinfo _
  . exact decodes_getaddrinfoHost _ rfl
  . exact .throw rfl

end Request

namespace Table

theorem find?_getaddrinfo (config : BindingConfig)
    : (Registry.builtIn config : Registry κ η).find? "_getaddrinfo" = some getaddrinfo := by
  rfl

theorem dispatch_of_no_host (platform : Platform κ η) (service : String) (hints result : Variant)
    (w : World κ η)
    : dispatch "_getaddrinfo" getaddrinfo.arms platform [.nil, .str service, hints, result] w =
        Dispatch.again "_getaddrinfo" getaddrinfo.arms platform [.nil, .str service, hints, result]
          [.str Request.wildcardHost, .str service, hints, result] w := by
  have hselect : Dispatch.select "_getaddrinfo" (getaddrinfo (κ := κ) (η := η)).arms
      [.nil, .str service, hints, result] = .ok nilHost := by
    rfl
  rw [dispatch_eq, hselect]
  rfl

inductive Resolvable : List Variant → Prop where
  | noHost (service : String) (hints result : Variant)
      : Resolvable [.nil, .str service, hints, result]
  | both (host service : String) (hints : Variant) (result : Pointer)
      : Resolvable [.str host, .str service, hints, .pointer result]
  | noService (host : String) (hints : Variant) (result : Pointer)
      : Resolvable [.str host, .nil, hints, .pointer result]

theorem resolvable_of_fits {arm : Arm (CallPath κ η)} (hmem : arm ∈ getaddrinfo.arms)
    {args : List Variant} (h : arm.Fits args) : Resolvable args := by
  unfold getaddrinfo at hmem
  simp only [List.mem_cons, List.not_mem_nil, or_false] at hmem
  rcases hmem with rfl | rfl | rfl
  all_goals
    simp only [Arm.Fits, Table.arm, nilHost, List.forall₂_cons_left_iff, List.forall₂_nil_left_iff] at h
    obtain ⟨_, _, hhost, ⟨_, _, hservice, ⟨_, _, hhints, ⟨_, _, hresult, rfl, rfl⟩, rfl⟩, rfl⟩,
      rfl⟩ := h
    cases hhost
    cases hservice
    cases hhints
    cases hresult
    constructor

theorem again_of_no_result (platform : Platform κ η) (service : String) (hints result : Variant)
    (hresult : ∀ p, result ≠ .pointer p) (w : World κ η)
    : Dispatch.again "_getaddrinfo" getaddrinfo.arms platform [.nil, .str service, hints, result]
          [.str Request.wildcardHost, .str service, hints, result] w =
        (.error (Dispatch.noMatch "_getaddrinfo" [.nil, .str service, hints, result]), w) := by
  have hselect : ∃ e, Dispatch.select "_getaddrinfo" (getaddrinfo (κ := κ) (η := η)).arms
      [.str Request.wildcardHost, .str service, hints, result] = .error e := by
    cases result with
    | pointer p => exact absurd rfl (hresult p)
    | nil | bool | int | float | str | symbol => exact ⟨_, rfl⟩
  have ⟨e, hselect⟩ := hselect
  rw [Dispatch.again_eq, hselect]

theorem dispatch_getaddrinfo (platform : Platform κ η) (args : List Variant) (w : World κ η)
    : dispatch "_getaddrinfo" getaddrinfo.arms platform args w =
        ((platform.kernel.carryOut w.toMachine (Request.resolution args)).1,
          { w with toMachine :=
            (platform.kernel.carryOut w.toMachine (Request.resolution args)).2 }) := by
  have hfinal := platform.kernel.carryOut_ne_redispatch
    (fun plan hplan => ((Request.decodes_resolution args).value plan hplan).final) w.toMachine
  revert hfinal
  unfold Request.resolution
  split
  . intro hfinal
    rw [dispatch_of_no_host]
    exact Dispatch.again_of_final (by rfl) (CallPath.native_eq Request.getaddrinfo _ _ _) hfinal
  . intro hfinal
    exact Dispatch.dispatch_of_final (by rfl) (CallPath.native_eq Request.getaddrinfo _ _ _) hfinal
  . intro hfinal
    exact Dispatch.dispatch_of_final (by rfl) (CallPath.native_eq Request.getaddrinfoHost _ _ _)
      hfinal
  . next hnohost hboth hnoservice =>
    -- The arm that substitutes takes any result, so that it is the second selection that fails.
    intro _
    cases hselect : Dispatch.select "_getaddrinfo" (getaddrinfo (κ := κ) (η := η)).arms args with
    | error e =>
      rw [dispatch_eq, hselect, Dispatch.select_eq_error hselect]
      rfl
    | ok arm =>
      have ⟨hmem, haccepts⟩ := Dispatch.select_eq_ok hselect
      cases resolvable_of_fits hmem ((arm.accepts_iff args).mp haccepts) with
      | both => exact absurd rfl (hboth _ _ _ _)
      | noService => exact absurd rfl (hnoservice _ _ _)
      | noHost service hints result =>
        rw [dispatch_of_no_host, again_of_no_result]
        . rfl
        . rintro p rfl
          exact hnohost _ _ _ rfl

end Table

namespace Registry

variable (config : BindingConfig) (platform : Platform κ η) (site : String)

theorem resolution_comesDownTo (args : List Variant) {w : World κ η} (hlength : args.length = 4)
    (hspan : w.span = none)
    : ComesDownTo config platform site Table.getaddrinfo args w w.toMachine
        (Request.resolution args) := by
  have hrun := Table.dispatch_getaddrinfo platform.traced args
    ((inside config site "_getaddrinfo" args w).traced [])
  exact comesDownTo_of_dispatch (Table.find?_getaddrinfo config) rfl ⟨hlength, nofun, hspan⟩ rfl
    hrun

theorem resolution_requests {args : List Variant} {w : World κ η} {event : Event}
    (h : event ∈ requests config platform site "_getaddrinfo" args w)
    : ∃ (reply : Reply) (p : Primitive reply) (answer : reply.Value) (register : Errno),
        event = .request p w.memory answer register ∧ Request.Names args p := by
  have hfind := Table.find?_getaddrinfo (κ := Traced κ) (η := η) config
  by_cases hadmits : (⟨Table.getaddrinfo, config⟩ : BoundOperation (Traced κ) η).Admits args
    (w.traced [])
  . have hcomes := resolution_comesDownTo config platform site args hadmits.arity hadmits.outside
    have hrequests := hcomes.requests
    change requests config platform site "_getaddrinfo" args w = _ at hrequests
    rw [hrequests] at h
    cases hresolution : Request.resolution args with
    | error e =>
      rw [hresolution] at h
      cases h
    | ok plan =>
      have ⟨p, hnames, hplan⟩ := (Request.decodes_resolution args).value plan hresolution
      rw [hresolution, hplan] at h
      exact ⟨_, p, _, _, List.mem_singleton.mp h, hnames⟩
  . have ⟨hmem, hname⟩ := (builtIn config).find?_eq_some_iff.mp hfind
    have ⟨e, hrefused⟩ := BoundOperation.exists_refused_of_not_admits hadmits
    have hturned : TurnedDown config platform site "_getaddrinfo" args w e :=
      turnedDown_of_refused (.found hmem hname hrefused)
    rw [hturned.requests] at h
    cases h

theorem resolution_turnedDown {args : List Variant} {w : World κ η} {active : String}
    (hlength : args.length = 4) (hspan : w.span = some active)
    : TurnedDown config platform site "_getaddrinfo" args w
        (.reentrant "_getaddrinfo" active) := by
  exact turnedDown_of_open (Table.find?_getaddrinfo config) hlength nofun hspan

theorem resolution_sameCall (service : String) (hints : Variant) (p : Pointer) {w : World κ η}
    (hstate : w.span = none ∨ platform.logger.Blind)
    : SameCall config platform site "_getaddrinfo" [.nil, .str service, hints, .pointer p] w
        [.str Request.wildcardHost, .str service, hints, .pointer p] w := by
  cases hspan : w.span with
  | none =>
    have hwithout := resolution_comesDownTo config platform site
      [.nil, .str service, hints, .pointer p] rfl hspan
    have hwildcard := resolution_comesDownTo config platform site
      [.str Request.wildcardHost, .str service, hints, .pointer p] rfl hspan
    exact hwithout.sameCall hwildcard
  | some active =>
    have hblind := hstate.resolve_left (by rw [hspan]; nofun)
    exact (resolution_turnedDown config platform site rfl hspan).sameCall
      (resolution_turnedDown config platform site rfl hspan) hblind

theorem resolution_givesUp (host : Variant) (service : String) (hints : Variant)
    {result : Variant} (hresult : ∀ p, result ≠ .pointer p) {w : World κ η}
    (hspan : w.span = none)
    : GivesUp config platform site "_getaddrinfo" [host, .str service, hints, result] w
        (Dispatch.noMatch "_getaddrinfo" [host, .str service, hints, result]) w.toMachine := by
  have hnone : Request.resolution [host, .str service, hints, result] =
      .error (Dispatch.noMatch "_getaddrinfo" [host, .str service, hints, result]) := by
    cases result with
    | pointer p => exact absurd rfl (hresult p)
    | nil | bool | int | float | str | symbol => cases host <;> rfl
  have hcomes := resolution_comesDownTo config platform site
    [host, .str service, hints, result] rfl hspan
  rw [hnone] at hcomes
  exact hcomes.givesUp

/-- A call without a host is the call with the wildcard host, but for the types that an error names. -/
theorem getaddrinfo_without_host (service : String) (hints result : Variant) (w : World κ η)
    : let without : List Variant := [.nil, .str service, hints, result]
      let wildcard : List Variant := [.str "0.0.0.0", .str service, hints, result]
      (∀ p, result = .pointer p → w.span = none ∨ platform.logger.Blind →
        SameCall config platform site "_getaddrinfo" without w wildcard w) ∧
      ((∀ p, result ≠ .pointer p) → w.span = none →
        GivesUp config platform site "_getaddrinfo" without w
            (.noMatchingArm "_getaddrinfo"
              (", ".intercalate ["nil", "string", hints.typeName, result.typeName]))
            w.toMachine ∧
          GivesUp config platform site "_getaddrinfo" wildcard w
            (.noMatchingArm "_getaddrinfo"
              (", ".intercalate ["string", "string", hints.typeName, result.typeName]))
            w.toMachine) ∧
      (∀ active, w.span = some active →
        TurnedDown config platform site "_getaddrinfo" without w
            (.reentrant "_getaddrinfo" active) ∧
          TurnedDown config platform site "_getaddrinfo" wildcard w
            (.reentrant "_getaddrinfo" active)) ∧
      ∀ args, ∀ event ∈ requests config platform site "_getaddrinfo" args w,
        ∃ (reply : Reply) (p : Primitive reply) (answer : reply.Value) (register : Errno),
          event = .request p w.memory answer register ∧ Request.Names args p := by
  intro without wildcard
  refine ⟨?_, ?_, ?_, ?_⟩
  . rintro p rfl hstate
    exact resolution_sameCall config platform site service hints p hstate
  . intro hresult hspan
    constructor
    . exact resolution_givesUp config platform site .nil service hints hresult hspan
    . exact resolution_givesUp config platform site (.str "0.0.0.0") service hints hresult hspan
  . intro active hspan
    constructor
    . exact resolution_turnedDown config platform site rfl hspan
    . exact resolution_turnedDown config platform site rfl hspan
  . intro args event hevent
    exact resolution_requests config platform site hevent

theorem getaddrinfo_without_host_http
    : let platform : Platform Posix TrackedDirectory :=
        ⟨Posix.kernel, .tracking Posix.kernel, .undisturbing⟩
      let w : World Posix TrackedDirectory := ⟨⟨.fresh, ⟨0⟩, .initial⟩, none, #[], ⟨Path.root⟩⟩
      let result : Variant := .pointer ⟨16, some 8⟩
      SameCall {} platform "here" "_getaddrinfo" [.nil, .str "80", .nil, result] w
          [.str "0.0.0.0", .str "80", .nil, result] w ∧
        (requests {} platform "here" "_getaddrinfo" [.nil, .str "80", .nil, result] w).length = 1 ∧
        GivesUp {} platform "here" "_getaddrinfo" [.nil, .str "80", .nil, .int 16] w
          (.noMatchingArm "_getaddrinfo" "nil, string, nil, int") w.toMachine := by
  intro platform w result
  have ⟨hsame, _, _, _⟩ := getaddrinfo_without_host {} platform "here" "80" .nil result w
  have ⟨_, hunmatched, _, _⟩ := getaddrinfo_without_host {} platform "here" "80" .nil (.int 16) w
  refine ⟨hsame _ rfl (Or.inl rfl), ?_, (hunmatched nofun rfl).1⟩
  decide +kernel

end Registry

end NativeCall
