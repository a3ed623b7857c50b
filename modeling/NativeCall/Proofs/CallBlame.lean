import NativeCall.Host.Tracking
import NativeCall.Posix.Kernel
import NativeCall.Proofs.NilHost
import NativeCall.Proofs.PathBlame
import NativeCall.Proofs.Precedence

/-!
This module contains that the errors of calls point at the caller's own arguments, also where a path
has put others in their place.
-/

namespace NativeCall

variable {κ η : Type} {platform : Platform κ η} {args : List Variant}

theorem Dispatch.First.mem {π : Type} {arms : List (Arm π)} {index : Nat} {arm : Arm π}
    (h : First arms args index arm) : arm ∈ arms := by
  exact List.mem_of_getElem? h.here

theorem Dispatch.Dispatched.blames {op : Operation κ η} (hop : op ∈ Table.builtIn) {w : World κ η}
    {ran : List (Nat × List Variant)} {run : Except CallError Outcome × World κ η} {e : CallError}
    (h : Dispatched op.name op.arms platform args w ran run) (he : run.1 = .error e)
    : Blames op.name args e := by
  have hblaming := Table.builtIn_blaming op hop
  cases h with
  | unmatched | unmatchedAgain =>
    cases he
    exact .other rfl rfl
  | failed hfirst hrun =>
    cases he
    apply (hblaming _ hfirst.mem platform args).error w
    rw [hrun]
  | finished | finishedAgain => cases he
  | @failedAgain _ _ _ _ substituted _ w' _ hfirst hrun hfirst' hrun' =>
    cases he
    have ⟨_, hsubstituted⟩ := Table.eq_of_redispatch hop hfirst.mem hrun
    apply Blames.of_set (by decide : '\x00' ∉ Request.wildcardHost.toList)
    rw [← hsubstituted]
    apply (hblaming _ hfirst'.mem platform substituted).error w'
    rw [hrun']
  | substitutedTwice hfirst hrun hfirst' hrun' =>
    -- the only arm that substitutes arguments does not accept those that it has substituted
    have ⟨_, hsubstituted⟩ := Table.eq_of_redispatch hop hfirst.mem hrun
    have ⟨hsecond, _⟩ := Table.eq_of_redispatch hop hfirst'.mem hrun'
    have haccepts := (Arm.accepts_iff _ _).mpr hfirst'.fits
    rw [hsubstituted, hsecond] at haccepts
    exact absurd haccepts (Table.not_nilHost_accepts_set args Request.wildcardHost)

theorem Operation.Refused.operation?_eq {op : Operation κ η} {count : Nat} {span : Option String}
    {e : CallError} (h : op.Refused count span e)
    : e.operation? = some op.name ∧ e.index? = none := by
  cases h <;> exact ⟨rfl, rfl⟩

theorem BoundOperation.FailsInArms.blames {op : Operation κ η} (hop : op ∈ Table.builtIn)
    {config : BindingConfig} {site : String} {w : World κ η} {e : CallError}
    (h : FailsInArms ⟨op, config⟩ platform site args w e) : Blames op.name args e := by
  have hsettled := h.settled
  have ⟨ran, run, hdispatched⟩ := Dispatch.exists_dispatched op.name op.arms platform args
    (entered ⟨op, config⟩ platform site args w)
  rw [← hdispatched.eq_dispatch] at hsettled
  cases hresult : run.1 with
  | error e' =>
    rw [hresult] at hsettled
    cases hsettled
    exact hdispatched.blames hop hresult
  | ok outcome =>
    have hfinal (substituted : List Variant) : outcome ≠ .redispatch substituted := by
      intro heq
      rw [hdispatched.eq_dispatch, heq] at hresult
      exact dispatch_ne_redispatch _ _ _ _ substituted _ hresult
    rw [hresult] at hsettled
    have ⟨code, hcode⟩ := settle_eq_error hfinal hsettled
    rw [hcode]
    exact .other rfl rfl

namespace Registry

theorem Refused.operation?_eq {r : Registry κ η} {name : String} {count : Nat}
    {span : Option String} {e : CallError} (h : r.Refused name count span e)
    : e.operation? = some name ∧ e.index? = none := by
  cases h with
  | unknown => exact ⟨rfl, rfl⟩
  | found _ hname h =>
    rw [← hname]
    exact h.operation?_eq

theorem call_blames {config : BindingConfig} {site name : String} {w : World κ η} {e : CallError}
    (h : ((builtIn config).call platform site name args w).1 = .error e) : Blames name args e := by
  rcases call_eq_error_iff.mp h with hrefused | ⟨op, hmem, hname, hfails⟩
  . have ⟨hop, hindex⟩ := hrefused.operation?_eq
    exact .other hop hindex
  . subst hname
    exact hfails.blames hmem

/-- An error about an argument is about one that the caller has given and that is at fault. -/
theorem call_error_blames_argument (config : BindingConfig) {w : World κ η} {e : CallError}
    {site name : String}
    (h : ((builtIn config).call platform site name args w).1 = .error e)
    : Blames name args e ∧
      (e.operation? = some name ∨ ∃ constant, e = .unknownConstant constant) ∧
      (∀ op index width, e ≠ .memory op index (.width width)) ∧
      ∀ index, e.index? = some index →
        ∃ op ∈ (builtIn config : Registry κ η).table, op.name = name ∧ index < op.arity := by
  have hblames := call_blames h
  refine ⟨hblames, hblames.operation?_eq, hblames.ne_width, ?_⟩
  intro index hindex
  rcases call_eq_error_iff.mp h with hrefused | ⟨op, hmem, hname, hfails⟩
  . rw [hrefused.operation?_eq.2] at hindex
    cases hindex
  . refine ⟨op, hmem, hname, ?_⟩
    rw [← hfails.admits.arity]
    exact hblames.index_lt_length hindex

/-- The service is blamed, although the host is not what the caller has given. -/
theorem call_error_blames_argument_without_host
    : let w : World Posix TrackedDirectory := ⟨⟨.fresh, ⟨0⟩, .initial⟩, none, #[], ⟨Path.root⟩⟩
      let args : List Variant := [.nil, .str "http\x00", .nil, .pointer ⟨16, some 8⟩]
      let e : CallError := .interiorNul "_getaddrinfo" 1
      ((builtIn {}).call ⟨Posix.kernel, .tracking Posix.kernel, .undisturbing⟩ "here" "_getaddrinfo"
          args w).1 = .error e ∧
        Blames "_getaddrinfo" args e := by
  intro w args e
  have hcall : ((builtIn {}).call ⟨Posix.kernel, .tracking Posix.kernel, .undisturbing⟩ "here"
      "_getaddrinfo" args w).1 = .error e := by
    decide +kernel
  have ⟨hblames, _⟩ := call_error_blames_argument {} hcall
  exact ⟨hcall, hblames⟩

end Registry

end NativeCall
