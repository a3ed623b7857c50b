import NativeCall.Host.Tracking
import NativeCall.Posix.Kernel
import NativeCall.Proofs.Choice
import NativeCall.Proofs.Settling
import NativeCall.Proofs.Storing

/-!
This module contains the finding of names for addresses: which arguments it takes to ask the system,
where it is to write the names, and that there are two ways to want a name nowhere.
-/

namespace NativeCall

variable {κ η : Type}

/-- The argument stands for no region. -/
inductive Variant.Missing : Variant → Prop where
  | nil : Missing .nil
  | null (known : Option UInt64) : Missing (.pointer ⟨0, known⟩)

namespace Request

/-- The region at `index` is as long as the integer at the place `lengthIndex` says, or longer. -/
structure Sized (args : List Variant) (index lengthIndex : Nat) (address : UInt64) (length : UInt32)
    : Prop where
  present : address ≠ 0
  region : ∃ known, args[index]? = some (.pointer ⟨address, known⟩) ∧
    ∀ size, known = some size → length.toNat ≤ size.toNat
  length : ∃ n, args[lengthIndex]? = some (.int n) ∧ n.toInt = length.toNat

/-- Where the arguments from `index` on want a name: nowhere, or in a region with room for
something. -/
inductive Output (args : List Variant) (index : Nat) : UInt64 → UInt32 → Prop where
  | skipped {v : Variant} (hout : args[index]? = some v) (hmissing : v.Missing)
      (hlength : args[index + 1]? = some (.int 0)) : Output args index 0 0
  | present {address : UInt64} {length : UInt32} (h : Sized args index (index + 1) address length)
      (hpos : 1 ≤ length.toNat) : Output args index address length

/-- The request asks for the names of the address that the arguments give, to be written where they
want them. -/
inductive Reverses (args : List Variant) : Primitive .number → Prop where
  | reverses {target host service : UInt64} {length hostLength serviceLength : UInt32}
      {flags : Int32} {f : Int64} (htarget : Sized args 0 1 target length)
      (hhost : Output args 2 host hostLength) (hservice : Output args 4 service serviceLength)
      (hflags : args[6]? = some (.int f)) (hf : flags.toInt = f.toInt)
      : Reverses args
          (.getnameinfo target length host hostLength service serviceLength flags)

section Decoding

variable (inv : Invocation)

theorem decodes_sized (index lengthIndex : Nat)
    : Decodes (sizedRegion inv index lengthIndex) fun r =>
        Sized inv.args index lengthIndex r.1.base r.2 := by
  unfold sizedRegion
  apply (inv.decodes_view index).bind
  intro view hview
  apply (inv.decodes_socketLength lengthIndex).bind
  rintro length ⟨n, hn, hlength⟩
  apply (inv.decodes_memory index _).bind
  intro _ hcheck
  apply Decodes.pure
  have hfits := View.fits_of_check hcheck
  rw [UInt32.toNat_toUInt64] at hfits
  exact ⟨view.base_ne_zero, ⟨view.length, hview, hfits⟩, n, hn, hlength.symm⟩

theorem decodes_output (index : Nat) (what : String)
    : Decodes (nameOutput inv index what) fun r => Output inv.args index r.1 r.2 := by
  unfold nameOutput
  apply (inv.decodes_socketLength (index + 1)).bind
  rintro length ⟨n, hn, hlength⟩
  apply (inv.decodes_nullableView index).bind
  intro view hview
  cases view with
  | none =>
    dsimp only at hview ⊢
    split
    . next hzero =>
      apply Decodes.pure
      have hn0 : n = 0 := by
        apply Int64.toInt_inj.mp
        rw [← hlength, hzero]
        rfl
      rw [hn0] at hn
      rcases hview with hnil | ⟨known, hnull⟩
      . exact .skipped hnil .nil hn
      . exact .skipped hnull (.null known) hn
    . exact .throw rfl
  | some view =>
    dsimp only at hview ⊢
    split
    . exact .throw rfl
    . next hzero =>
      apply (inv.decodes_memory index _).bind
      intro _ hcheck
      apply Decodes.pure
      have hfits := View.fits_of_check hcheck
      rw [UInt32.toNat_toUInt64] at hfits
      refine .present ⟨view.base_ne_zero, ⟨view.length, hview, hfits⟩, n, hn, hlength.symm⟩ ?_
      exact Nat.one_le_iff_ne_zero.mpr fun h => hzero (UInt32.toNat_inj.mp h)

theorem decodes_getnameinfo
    : Decodes (getnameinfo inv) fun plan => ∃ p, Reverses inv.args p ∧ plan = .info p := by
  unfold getnameinfo
  apply (decodes_sized inv 0 1).bind
  rintro ⟨target, length⟩ htarget
  apply (decodes_output inv 2 "host").bind
  rintro ⟨host, hostLength⟩ hhost
  apply (decodes_output inv 4 "service").bind
  rintro ⟨service, serviceLength⟩ hservice
  apply (inv.decodes_cInt 6).bind
  rintro flags ⟨f, hflags, hf⟩
  exact .pure ⟨_, .reverses htarget hhost hservice hflags hf, rfl⟩

end Decoding

section Completeness

variable {inv : Invocation}

theorem check_of_sized {view : View} {length : UInt32}
    (h : ∀ size, view.length = some size → length.toNat ≤ size.toNat)
    : view.check 0 length.toUInt64 = .ok () := by
  have hlt := length.toNat_lt
  apply View.check_of_fits
  . rw [UInt64.toNat_zero, UInt32.toNat_toUInt64, UInt64.size]
    omega
  . rw [UInt64.toNat_zero, UInt32.toNat_toUInt64, Nat.zero_add]
    exact h

theorem sizedRegion_of_sized {index lengthIndex : Nat} {address : UInt64} {length : UInt32}
    (h : Sized inv.args index lengthIndex address length)
    : ∃ view, sizedRegion inv index lengthIndex = .ok (view, length) ∧ view.base = address := by
  have ⟨known, hregion, hfits⟩ := h.region
  have ⟨n, hlength, hn⟩ := h.length
  have hcheck : View.check ⟨address, known, h.present⟩ 0 length.toUInt64 = .ok () := by
    exact check_of_sized hfits
  refine ⟨⟨address, known, h.present⟩, ?_, rfl⟩
  unfold sizedRegion
  rw [Invocation.view_of_pointer hregion h.present, Invocation.socketLength_of_toNat_eq hlength hn]
  change (do inv.memory index (View.check ⟨address, known, h.present⟩ 0 length.toUInt64); _) = _
  rw [hcheck]
  rfl

theorem nameOutput_of_output {index : Nat} {address : UInt64} {length : UInt32}
    (h : Output inv.args index address length) (what : String)
    : nameOutput inv index what = .ok (address, length) := by
  unfold nameOutput
  cases h with
  | skipped hout hmissing hlength =>
    have hnone : inv.nullableView index = .ok none := by
      apply Invocation.nullableView_of_missing
      cases hmissing with
      | nil => exact Or.inl hout
      | null known => exact Or.inr ⟨known, hout⟩
    rw [Invocation.socketLength_of_toNat_eq (n := 0) hlength rfl, hnone]
    rfl
  | present h hpos =>
    have ⟨known, hregion, hfits⟩ := h.region
    have ⟨n, hlength, hn⟩ := h.length
    have hcheck : View.check ⟨address, known, h.present⟩ 0 length.toUInt64 = .ok () := by
      exact check_of_sized hfits
    have hzero : length ≠ 0 := by
      rintro rfl
      exact absurd hpos (by decide)
    rw [Invocation.socketLength_of_toNat_eq hlength hn,
      Invocation.nullableView_of_pointer hregion h.present]
    change (if length = 0 then _ else
      do inv.memory index (View.check ⟨address, known, h.present⟩ 0 length.toUInt64); _) = _
    rw [if_neg hzero, hcheck]
    rfl

theorem getnameinfo_of_reverses {p : Primitive .number} (h : Reverses inv.args p)
    : getnameinfo inv = .ok (.info p) := by
  cases h with
  | reverses htarget hhost hservice hflags hf =>
    have ⟨view, hsized, hbase⟩ := sizedRegion_of_sized htarget
    subst hbase
    unfold getnameinfo
    rw [hsized, nameOutput_of_output hhost, nameOutput_of_output hservice,
      Invocation.cInt_of_toInt_eq hflags hf]
    rfl

end Completeness

end Request

/-- The arguments are the same, but that one may miss a region in another way. -/
def Exchanged (args args' : List Variant) : Prop :=
  List.Forall₂ (fun v v' => v = v' ∨ v.Missing ∧ v'.Missing) args args'

theorem Variant.int_of_exchanged {n n' : Int64}
    (h : int n = int n' ∨ (int n).Missing ∧ (int n').Missing) : n = n' := by
  rcases h with h | ⟨h, _⟩
  . exact Variant.int.inj h
  . cases h

theorem Variant.pointer_of_exchanged {p p' : Pointer}
    (h : pointer p = pointer p' ∨ (pointer p).Missing ∧ (pointer p').Missing)
    : p = p' ∨ p.address = 0 ∧ p'.address = 0 := by
  rcases h with h | ⟨h, h'⟩
  . exact Or.inl (Variant.pointer.inj h)
  . cases h
    cases h'
    exact Or.inr ⟨rfl, rfl⟩

section Exchange

variable {op : String} {args args' : List Variant} {index : Nat}

theorem Invocation.view_exchanged {p p' : Pointer} (h : args[index]? = some (.pointer p))
    (h' : args'[index]? = some (.pointer p')) (hp : p = p' ∨ p.address = 0 ∧ p'.address = 0)
    : view ⟨op, args⟩ index = view ⟨op, args'⟩ index := by
  by_cases hnull : p.address = 0
  . have hnull' : p'.address = 0 := by
      rcases hp with rfl | ⟨_, hnull'⟩
      . exact hnull
      . exact hnull'
    rw [view_of_null h hnull, view_of_null h' hnull']
  . obtain rfl : p = p' := hp.resolve_right fun hnulls => hnull hnulls.1
    rw [view_of_pointer h hnull, view_of_pointer h' hnull]

theorem Variant.Missing.nullableView {v : Variant} (hmissing : v.Missing)
    (h : args[index]? = some v) : Invocation.nullableView ⟨op, args⟩ index = .ok none := by
  apply Invocation.nullableView_of_missing
  cases hmissing with
  | nil => exact Or.inl h
  | null known => exact Or.inr ⟨known, h⟩

theorem Invocation.nullableView_exchanged {v v' : Variant} (h : args[index]? = some v)
    (h' : args'[index]? = some v') (hv : v = v' ∨ v.Missing ∧ v'.Missing)
    (hregion : v = .nil ∨ ∃ p, v = .pointer p)
    : nullableView ⟨op, args⟩ index = nullableView ⟨op, args'⟩ index := by
  rcases hv with rfl | ⟨hv, hv'⟩
  . rcases hregion with rfl | ⟨⟨address, known⟩, rfl⟩
    . rw [Variant.Missing.nil.nullableView h, Variant.Missing.nil.nullableView h']
    . by_cases hnull : address = 0
      . subst hnull
        rw [(Variant.Missing.null known).nullableView h,
          (Variant.Missing.null known).nullableView h']
      . rw [nullableView_of_pointer h hnull, nullableView_of_pointer h' hnull]
  . rw [hv.nullableView h, hv'.nullableView h']

theorem Request.getnameinfo_congr {inv inv' : Invocation} (hinv : inv = ⟨op, args⟩)
    (hinv' : inv' = ⟨op, args'⟩) (htarget : inv.view 0 = inv'.view 0)
    (hhost : inv.nullableView 2 = inv'.nullableView 2)
    (hservice : inv.nullableView 4 = inv'.nullableView 4)
    (hlengths : ∀ index ∈ [1, 3, 5], inv.socketLength index = inv'.socketLength index)
    (hflags : inv.cInt 6 = inv'.cInt 6) : getnameinfo inv = getnameinfo inv' := by
  obtain ⟨hlength, hhostLength, hserviceLength⟩ := List.forall_iff_forall_mem.mpr hlengths
  unfold getnameinfo sizedRegion nameOutput
  rw [htarget, hhost, hservice, hlength, hhostLength, hserviceLength, hflags, hinv, hinv']
  rfl

end Exchange

namespace Table

theorem find?_getnameinfo (config : BindingConfig)
    : (Registry.builtIn config : Registry κ η).find? "_getnameinfo" = some getnameinfo := by
  rfl

/-- An arm takes the arguments. -/
inductive Reversible : List Variant → Prop where
  | reversible (target : Pointer) (length hostLength serviceLength flags : Int64)
      {host service : Variant} (hhost : host = .nil ∨ ∃ p, host = .pointer p)
      (hservice : service = .nil ∨ ∃ p, service = .pointer p)
      : Reversible [.pointer target, .int length, host, .int hostLength, service,
          .int serviceLength, .int flags]

theorem reversible_of_fits {arm : Arm (CallPath κ η)} (hmem : arm ∈ getnameinfo.arms)
    {args : List Variant} (h : arm.Fits args) : Reversible args := by
  unfold getnameinfo at hmem
  simp only [List.mem_cons, List.not_mem_nil, or_false] at hmem
  rcases hmem with rfl | rfl | rfl
  all_goals
    simp only [Arm.Fits, Table.arm, List.forall₂_cons_left_iff, List.forall₂_nil_left_iff] at h
    obtain ⟨_, _, htarget, ⟨_, _, hlength, ⟨_, _, hhost, ⟨_, _, hhostLength, ⟨_, _, hservice,
      ⟨_, _, hserviceLength, ⟨_, _, hflags, rfl, rfl⟩, rfl⟩, rfl⟩, rfl⟩, rfl⟩, rfl⟩, rfl⟩ := h
    cases htarget
    cases hlength
    cases hhost
    cases hhostLength
    cases hservice
    cases hserviceLength
    cases hflags
    constructor
    . first
      | exact Or.inl rfl
      | exact Or.inr ⟨_, rfl⟩
    . first
      | exact Or.inl rfl
      | exact Or.inr ⟨_, rfl⟩

theorem decoded_exchanged {args args' : List Variant} (h : Reversible args)
    (h' : Reversible args') (hexchanged : Exchanged args args') (op : String)
    : Request.getnameinfo ⟨op, args⟩ = Request.getnameinfo ⟨op, args'⟩ := by
  cases h with
  | reversible target length hostLength serviceLength flags hhost hservice =>
    cases h' with
    | reversible target' length' hostLength' serviceLength' flags' _ _ =>
      unfold Exchanged at hexchanged
      simp only [List.forall₂_cons] at hexchanged
      obtain ⟨htarget, hlength, hhosts, hhostLength, hservices, hserviceLength, hflags, _⟩ :=
        hexchanged
      obtain rfl := Variant.int_of_exchanged hlength
      obtain rfl := Variant.int_of_exchanged hhostLength
      obtain rfl := Variant.int_of_exchanged hserviceLength
      obtain rfl := Variant.int_of_exchanged hflags
      apply Request.getnameinfo_congr rfl rfl
      . exact Invocation.view_exchanged rfl rfl (Variant.pointer_of_exchanged htarget)
      . exact Invocation.nullableView_exchanged rfl rfl hhosts hhost
      . exact Invocation.nullableView_exchanged rfl rfl hservices hservice
      . exact List.forall_iff_forall_mem.mp ⟨rfl, rfl, rfl⟩
      . rfl

theorem select_getnameinfo {args : List Variant}
    (h : ∃ arm ∈ (getnameinfo : Operation κ η).arms, arm.Fits args)
    : ∃ guard, Dispatch.select "_getnameinfo" (getnameinfo : Operation κ η).arms args =
        .ok (Table.arm guard Request.getnameinfo) := by
  cases hselect : Dispatch.select "_getnameinfo" (getnameinfo : Operation κ η).arms args with
  | error e =>
    have ⟨arm, hmem, hfits⟩ := h
    exact absurd hfits ((Dispatch.select_eq_error_iff.mp hselect).2 arm hmem)
  | ok arm =>
    have hmem := (Dispatch.select_eq_ok hselect).1
    unfold getnameinfo at hmem
    simp only [List.mem_cons, List.not_mem_nil, or_false] at hmem
    rcases hmem with rfl | rfl | rfl
    all_goals exact ⟨_, rfl⟩

theorem reversible_of_select {args : List Variant}
    (h : ∃ arm ∈ (getnameinfo : Operation κ η).arms, arm.Fits args) : Reversible args := by
  have ⟨arm, hmem, hfits⟩ := h
  exact reversible_of_fits hmem hfits

end Table

namespace Registry

variable {config : BindingConfig} {platform : Platform κ η} {site : String}
  {args args' : List Variant} {w : World κ η}

theorem length_of_reversible (h : Table.Reversible args) : args.length = 7 := by
  cases h
  rfl

section Accepted

variable (h : ∃ arm ∈ (Table.getnameinfo : Operation (Traced κ) η).arms, arm.Fits args)
include h

variable (config platform site) in
theorem reversal_comesDownTo (hspan : w.span = none)
    : ComesDownTo config platform site Table.getnameinfo args w w.toMachine
        (Request.getnameinfo ⟨"_getnameinfo", args⟩) := by
  have ⟨guard, hselect⟩ := Table.select_getnameinfo h
  have hlength := length_of_reversible (Table.reversible_of_select h)
  refine comesDownTo_of_native (Table.find?_getnameinfo config) rfl ⟨hlength, nofun, hspan⟩
    hselect ?_
  intro plan hplan
  have ⟨p, _, hinfo⟩ := (Request.decodes_getnameinfo ⟨"_getnameinfo", args⟩).value plan hplan
  subst hinfo
  nofun

theorem reversal_turnedDown {active : String} (hspan : w.span = some active)
    : TurnedDown config platform site "_getnameinfo" args w
        (.reentrant "_getnameinfo" active) := by
  have hlength := length_of_reversible (Table.reversible_of_select h)
  exact turnedDown_of_open (Table.find?_getnameinfo config) hlength nofun hspan

theorem reversal_asked (hspan : w.span = none) {p : Primitive .number}
    (hreverses : Request.Reverses args p)
    : requests config platform site "_getnameinfo" args w =
          platform.kernel.asked w.toMachine (.ok (.info p)) ∧
        ((builtIn config).call platform site "_getnameinfo" args w).1 =
          .ok (.int (platform.kernel.run p w.toMachine).1) := by
  have hcomes := reversal_comesDownTo config platform site h hspan
  rw [Request.getnameinfo_of_reverses hreverses] at hcomes
  exact ⟨hcomes.requests, hcomes.result⟩

theorem reversal_givesUp (hspan : w.span = none) (hnone : ∀ p, ¬ Request.Reverses args p)
    : ∃ e, e.isMisuse ∧ GivesUp config platform site "_getnameinfo" args w e w.toMachine := by
  have hcomes := reversal_comesDownTo config platform site h hspan
  have hdecodes := Request.decodes_getnameinfo ⟨"_getnameinfo", args⟩
  cases hdecoded : Request.getnameinfo ⟨"_getnameinfo", args⟩ with
  | error e =>
    rw [hdecoded] at hcomes
    exact ⟨e, hdecodes.fault e hdecoded, hcomes.givesUp⟩
  | ok plan =>
    have ⟨p, hreverses, _⟩ := hdecodes.value plan hdecoded
    exact absurd hreverses (hnone p)

variable (h' : ∃ arm ∈ (Table.getnameinfo : Operation (Traced κ) η).arms, arm.Fits args')
include h'

theorem reversal_sameCall (hspan : w.span = none) (hexchanged : Exchanged args args')
    : SameCall config platform site "_getnameinfo" args w args' w := by
  have hcomes := reversal_comesDownTo config platform site h hspan
  have hcomes' := reversal_comesDownTo config platform site h' hspan
  rw [Table.decoded_exchanged (Table.reversible_of_select h) (Table.reversible_of_select h')
    hexchanged] at hcomes
  exact hcomes.sameCall hcomes'

end Accepted

variable (config platform site) in
/-- Names are asked for exactly if the address is there, and for each name either no region and no length
or both. -/
theorem getnameinfo_outputs
    (h : ∃ arm ∈ (Table.getnameinfo : Operation (Traced κ) η).arms, arm.Fits args)
    : (w.span = none →
        (∀ p, Request.Reverses args p →
          requests config platform site "_getnameinfo" args w =
              platform.kernel.asked w.toMachine (.ok (.info p)) ∧
            ((builtIn config).call platform site "_getnameinfo" args w).1 =
              .ok (.int (platform.kernel.run p w.toMachine).1)) ∧
        ((∀ p, ¬ Request.Reverses args p) →
          ∃ e, e.isMisuse ∧ GivesUp config platform site "_getnameinfo" args w e w.toMachine)) ∧
      (∀ active, w.span = some active →
        TurnedDown config platform site "_getnameinfo" args w
          (.reentrant "_getnameinfo" active)) ∧
      ∀ args', (∃ arm ∈ (Table.getnameinfo : Operation (Traced κ) η).arms, arm.Fits args') →
        Exchanged args args' →
        ((builtIn config).call platform site "_getnameinfo" args w).1 =
            ((builtIn config).call platform site "_getnameinfo" args' w).1 ∧
          requests config platform site "_getnameinfo" args w =
            requests config platform site "_getnameinfo" args' w ∧
          (w.span = none → SameCall config platform site "_getnameinfo" args w args' w) := by
  refine ⟨?asked, ?turnedDown, ?exchanged⟩
  case asked =>
    intro hspan
    exact ⟨fun p => reversal_asked h hspan, reversal_givesUp h hspan⟩
  case turnedDown =>
    intro active hspan
    exact reversal_turnedDown h hspan
  case exchanged =>
    intro args' h' hexchanged
    cases hspan : w.span with
    | none =>
      have hsame : SameCall config platform site "_getnameinfo" args w args' w :=
        reversal_sameCall h h' hspan hexchanged
      exact ⟨hsame.result, hsame.requests, fun _ => hsame⟩
    | some active =>
      have hturned : TurnedDown config platform site "_getnameinfo" args w _ :=
        reversal_turnedDown h hspan
      have hturned' : TurnedDown config platform site "_getnameinfo" args' w _ :=
        reversal_turnedDown h' hspan
      refine ⟨?_, ?_, nofun⟩
      . rw [hturned.call, hturned'.call]
      . rw [hturned.requests, hturned'.requests]

/-- A missing service may be nil or a null pointer, but not if its length says otherwise. -/
theorem getnameinfo_outputs_host
    : let platform : Platform Posix TrackedDirectory :=
        ⟨Posix.kernel, .tracking Posix.kernel, .undisturbing⟩
      let w : World Posix TrackedDirectory := ⟨⟨.fresh, ⟨0⟩, .initial⟩, none, #[], ⟨Path.root⟩⟩
      let args (service : Variant) (length : Int64) : List Variant :=
        [.pointer ⟨16, some 16⟩, .int 16, .pointer ⟨64, none⟩, .int 8, service, .int length, .int 0]
      requests {} platform "here" "_getnameinfo" (args .nil 0) w =
          platform.kernel.asked w.toMachine (.ok (.info (.getnameinfo 16 16 64 8 0 0 0))) ∧
        SameCall {} platform "here" "_getnameinfo" (args .nil 0) w
          (args (.pointer ⟨0, none⟩) 0) w ∧
        ∃ e, e.isMisuse ∧
          GivesUp {} platform "here" "_getnameinfo" (args .nil 1) w e w.toMachine := by
  intro platform w args
  have hnil : ∀ length, ∃ arm ∈ (Table.getnameinfo : Operation (Traced Posix)
      TrackedDirectory).arms, arm.Fits (args .nil length) := by
    intro length
    exact ⟨_, List.mem_of_getElem? (i := 2) rfl, (Arm.accepts_iff _ _).mp rfl⟩
  have hnull : ∃ arm ∈ (Table.getnameinfo : Operation (Traced Posix) TrackedDirectory).arms,
      arm.Fits (args (.pointer ⟨0, none⟩) 0) := by
    exact ⟨_, List.mem_of_getElem? (i := 0) rfl, (Arm.accepts_iff _ _).mp rfl⟩
  have hreverses : Request.Reverses (args .nil 0) (.getnameinfo 16 16 64 8 0 0 0) := by
    refine .reverses ⟨by decide, ⟨some 16, rfl, ?_⟩, 16, rfl, rfl⟩
      (.present ⟨by decide, ⟨none, rfl, nofun⟩, 8, rfl, rfl⟩ (by decide)) (.skipped rfl .nil rfl)
      (f := 0) rfl rfl
    rintro size ⟨⟩
    decide
  have hexchanged : Exchanged (args .nil 0) (args (.pointer ⟨0, none⟩) 0) := by
    refine .cons (Or.inl rfl) (.cons (Or.inl rfl) (.cons (Or.inl rfl) (.cons (Or.inl rfl)
      (.cons (Or.inr ⟨.nil, .null none⟩) (.cons (Or.inl rfl) (.cons (Or.inl rfl) .nil))))))
  have hnone : ∀ p, ¬ Request.Reverses (args .nil 1) p := by
    rintro p ⟨_, _, hservice, _, _⟩
    cases hservice with
    | skipped _ _ hlength => cases hlength
    | present hsized _ =>
      have ⟨_, hregion, _⟩ := hsized.region
      cases hregion
  have ⟨hasked, _, hothers⟩ := getnameinfo_outputs {} platform "here" (w := w) (hnil 0)
  have ⟨_, _, hsame⟩ := hothers _ hnull hexchanged
  have ⟨hmisuse, _⟩ := getnameinfo_outputs {} platform "here" (w := w) (hnil 1)
  exact ⟨((hasked rfl).1 _ hreverses).1, hsame rfl, (hmisuse rfl).2 hnone⟩

end Registry

end NativeCall
