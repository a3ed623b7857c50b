import NativeCall.Proofs.Conduct
import NativeCall.Proofs.Events
import NativeCall.Proofs.Groups

/-!
This module contains that no integer is cut short: what the system gets is what the caller gave, and
where that does not fit the system is not asked.
-/

namespace NativeCall

variable {κ η : Type}

namespace NativeNumber

/-- The library takes the integer for a parameter of the type. -/
def Accepts : NativeNumber → Int → Prop
  | int _, v => -2 ^ 31 ≤ v ∧ v < 2 ^ 31
  | length _, v => 0 ≤ v ∧ v < 2 ^ 32
  | size _, v => 0 ≤ v
  | bits _, v => -2 ^ 31 ≤ v ∧ v < 2 ^ 31

theorem Holds.accepts {number : NativeNumber} {v : Int} (h : number.Holds v)
    : number.Accepts v := by
  cases number with
  | int n =>
    have hlow := n.le_toInt
    have hhigh := n.toInt_lt
    simp only [Holds, Accepts] at *
    omega
  | length n =>
    have hlt := n.toNat_lt
    simp only [Holds, Accepts] at *
    omega
  | size n =>
    simp only [Holds, Accepts] at *
    omega
  | bits n => exact ⟨h.1, h.2.1⟩

end NativeNumber

theorem Figure.Sound.accepts {args : List Variant} {figure : Figure} (h : figure.Sound args)
    {v : Int64} (harg : args[figure.index]? = some (.int v)) : figure.number.Accepts v.toInt := by
  cases h with
  | given hgiven hholds =>
    cases hgiven.symm.trans harg
    exact hholds.accepts
  | named hnamed => cases hnamed.symm.trans harg

/-- If the event is a request, it is one of the operation `name`, with the numbers of the
arguments. -/
def Event.Takes (name : String) (args : List Variant) : Event → Prop
  | request p _ _ _ => p.Takes name args
  | _ => True

theorem Conduct.events_take {platform : Platform κ η} {name : String} {args : List Variant}
    {w w' : World (Traced κ) η} (h : Conduct platform.traced name args w w')
    (hw : ∀ event ∈ w.os.events, event.Takes name args)
    : ∀ event ∈ w'.os.events, event.Takes name args := by
  induction h with
  | nothing => exact hw
  | turned _ _ _ _ _ ih => exact ih
  | requested _ p htakes ih =>
    exact List.forall_mem_append.mpr ⟨ih, List.forall_mem_singleton.mpr htakes⟩
  | directory _ ih | constant _ _ ih | told _ _ _ ih =>
    exact List.forall_mem_append.mpr ⟨ih, List.forall_mem_singleton.mpr trivial⟩

theorem Answered.request_or_computed {name : String} {policy : Policy} {args : List Variant}
    {entry register : Errno} {outcome : Outcome} {answered : List Event}
    (h : Answered name policy args entry (.ok outcome) register answered)
    (hfinal : ∀ substituted, outcome ≠ .redispatch substituted)
    : (∃ event ∈ answered, event.isRequest) ∨
        name ∈ ["getcwd", "memset", "major", "minor", "errno", "errno="] := by
  cases h with
  | substituted => exact absurd rfl (hfinal _)
  | computed _ h => exact Or.inr (List.mem_cons_of_mem _ h.name_mem)
  | told _ hname => exact Or.inr (List.mem_cons.mpr (Or.inl hname))
  | requested => exact Or.inl ⟨_, List.mem_singleton_self _, rfl⟩
  | listed _ _ hlisting =>
    cases hlisting with
    | uncounted | unlisted | listed => exact Or.inl ⟨_, List.mem_cons_self, rfl⟩

namespace Table

theorem find?_major (config : BindingConfig)
    : (Registry.builtIn config : Registry κ η).find? "major" =
        some (device "major" Device.major) := by
  rfl

theorem find?_minor (config : BindingConfig)
    : (Registry.builtIn config : Registry κ η).find? "minor" =
        some (device "minor" Device.minor) := by
  rfl

theorem find?_setErrno (config : BindingConfig)
    : (Registry.builtIn config : Registry κ η).find? "errno=" = some setErrno := by
  rfl

theorem find?_lastErrno (config : BindingConfig)
    : (Registry.builtIn config : Registry κ η).find? "errno" = some lastErrno := by
  rfl

theorem dispatch_setErrno (platform : Platform κ η) (code : Int64) (w : World κ η)
    : dispatch "errno=" setErrno.arms platform [.int code] w =
        match Invocation.cInt ⟨"errno=", [.int code]⟩ 0 with
        | .ok n => (.ok (.info 0), { w with errno := ⟨n⟩ })
        | .error e => (.error e, w) := by
  have hrun : CallPath.setErrno platform ⟨"errno=", [.int code]⟩ w =
      match Invocation.cInt ⟨"errno=", [.int code]⟩ 0 with
      | .ok n => (.ok (.info 0), { w with errno := ⟨n⟩ })
      | .error e => (.error e, w) := by
    unfold CallPath.setErrno
    rw [Call.run_bind, Call.run_liftExcept]
    cases Invocation.cInt ⟨"errno=", [.int code]⟩ 0 <;> rfl
  refine Dispatch.dispatch_of_final rfl hrun ?_
  split <;> nofun

end Table

namespace Registry

variable {config : BindingConfig} {platform : Platform κ η} {site name : String}
  {args : List Variant} {w : World κ η}

theorem requests_take {event : Event} (h : event ∈ requests config platform site name args w)
    : event.Takes name args := by
  have hconduct := call_conduct config platform site name args (w.traced [])
  exact hconduct.events_take (List.forall_mem_nil _) _ (List.mem_of_mem_filter h)

theorem requests_or_computed {result : Variant}
    (hok : ((builtIn config).call platform site name args w).1 = .ok result)
    (hnone : requests config platform site name args w = [])
    : name ∈ ["getcwd", "memset", "major", "minor", "errno", "errno="] := by
  have hcalled := tracedCall_called config platform site name args w
  rw [call_eq_tracedCall] at hok
  unfold requests events at hnone
  generalize tracedCall config platform site name args w = run at hcalled hok hnone
  -- An outcome that did not come out of a request was computed, or came from the host.
  have hreached {op : Operation (Traced κ) η} {outcome : Outcome} {after : World (Traced κ) η}
      (h : Reached platform name args (w.traced []) op (.ok outcome) after)
      (hfinal : ∀ substituted, outcome ≠ .redispatch substituted)
      (hevents : ∀ event ∈ after.os.events, event ∈ run.2.os.events)
      : name ∈ ["getcwd", "memset", "major", "minor", "errno", "errno="] := by
    have ⟨asked, answered, hafter, _, hanswered⟩ := h.events
    refine (hanswered.request_or_computed hfinal).resolve_left ?_
    rintro ⟨event, hmem, hrequest⟩
    have hrun : event ∈ run.2.os.events := by
      apply hevents
      rw [hafter]
      exact List.mem_append_right _ hmem
    have : event ∈ run.2.os.events.filter Event.isRequest := List.mem_filter.mpr ⟨hrun, hrequest⟩
    rw [hnone] at this
    cases this
  cases hcalled with
  | turnedAway | rejected => cases hok
  | failed log h hfailure =>
    exact hreached h (Outcome.ne_redispatch_of_failure hfailure) fun _ hmem => hmem
  | succeeded log h _ hfinal htold =>
    have ⟨notices, hnotices, _⟩ := htold.events
    apply hreached h hfinal
    intro event hmem
    show event ∈ _
    rw [hnotices]
    exact List.mem_append_left _ hmem

theorem lastErrno_takes_nothing (h : args ≠ [])
    : ((builtIn config).call platform site "errno" args w).1 =
        .error (.arityMismatch "errno" 0 args.length) := by
  have ⟨hmem, hname⟩ := (builtIn config).find?_eq_some_iff.mp
    (Table.find?_lastErrno (κ := κ) (η := η) config)
  rw [call_of_refused (.found hmem hname (.miscounted ?_))]
  . rfl
  . exact fun hlength => h (List.length_eq_zero_iff.mp hlength)

/-- Where an integer is given and the system is asked for nothing, one of these operations is
called. -/
theorem name_mem_of_unasked {result : Variant} (hint : ∃ v, .int v ∈ args)
    (hok : ((builtIn config).call platform site name args w).1 = .ok result)
    (hnone : requests config platform site name args w = [])
    : name ∈ ["getcwd", "memset", "major", "minor", "errno="] := by
  have hmem := requests_or_computed hok hnone
  by_cases hname : name = "errno"
  . have ⟨v, hv⟩ := hint
    subst hname
    rw [lastErrno_takes_nothing (List.ne_nil_of_mem hv)] at hok
    cases hok
  . simpa [hname] using hmem

variable (config platform site) in
theorem device_gives (hspan : w.span = none) {part : Int32 → Int32}
    (hfind : (builtIn config : Registry κ η).find? name = some (Table.device name part))
    (device : Int64)
    : ∃ bits : Int32, bits.toInt % 2 ^ 32 = device.toInt % 2 ^ 32 ∧
        Gives config platform site name [.int device] w (.ok (.int (part bits).toInt64))
          w.memory := by
  refine ⟨device.toInt32, ?_, ?_⟩
  . rw [Int64.toInt_toInt32]
    exact Int.bmod_emod
  . refine gives_of_dispatch (Table.device name part) (.ok (.info _)) hfind rfl
      ⟨rfl, nofun, hspan⟩ rfl ?_
    intro log span
    exact Dispatch.dispatch_of_final rfl rfl nofun

variable (config platform site) in
theorem setErrno_keeps (hspan : w.span = none) {code : Int64}
    (h : -2 ^ 31 ≤ code.toInt ∧ code.toInt < 2 ^ 31)
    : ((builtIn config).call platform site "errno=" [.int code] w).1 = .ok (.int 0) ∧
        ((builtIn config).call platform site "errno=" [.int code] w).2.errno.code.toInt =
          code.toInt := by
  have hadmits : (⟨Table.setErrno, config⟩ : BoundOperation κ η).Admits [.int code] w := by
    exact ⟨rfl, nofun, hspan⟩
  have hrun := Table.dispatch_setErrno platform code
    (BoundOperation.entered ⟨Table.setErrno, config⟩ platform site [.int code] w)
  rw [Invocation.cInt_of_narrow rfl h] at hrun
  have ⟨log, hcall⟩ := BoundOperation.call_of_unhooked rfl platform site hadmits hrun
  have hfound := (builtIn config).call_of_find?_eq_some platform site [.int code]
    (Table.find?_setErrno config)
  rw [(congrFun hfound w).trans hcall]
  exact ⟨rfl, Invocation.toInt_toInt32 h⟩

variable (config platform site) in
theorem setErrno_gives (hspan : w.span = none) {code : Int64}
    (h : ¬ (-2 ^ 31 ≤ code.toInt ∧ code.toInt < 2 ^ 31))
    : Gives config platform site "errno=" [.int code] w (.error (.outOfRange "errno=" 0 code))
        w.memory := by
  refine gives_of_dispatch Table.setErrno (.error _) (Table.find?_setErrno config) rfl
    ⟨rfl, nofun, hspan⟩ rfl ?_
  intro log span
  have hrun := Table.dispatch_setErrno platform code { w with log := log, span := span }
  rw [Invocation.cInt_of_wide rfl h] at hrun
  exact hrun

theorem requests_of_gives {result : Except CallError Variant} {memory : Memory}
    (h : Gives config platform.traced site name args (w.traced []) result memory)
    : requests config platform site name args w = [] := by
  have ⟨log, hcall⟩ := h
  change tracedCall config platform site name args w = _ at hcall
  unfold requests events
  rw [hcall]
  rfl

theorem getgroups_unasked (hspan : w.span = none) {max : Int64} (h : max.toInt < 0)
    {groups : Variant} (hgroups : groups = .nil ∨ ∃ p, groups = .pointer p)
    : requests config platform site "getgroups" [.int max, groups] w = [] := by
  have hgives :=
    listing_gives_of_negative config platform.traced site (w := w.traced []) hspan h hgroups
  exact requests_of_gives hgives

variable (config platform site) in
/-- No integer is cut short but for device numbers, of which 32 bits count, and the byte to fill memory
with, of which eight do. -/
theorem integers_kept (w : World κ η)
    : (∀ name args, ∀ event ∈ requests config platform site name args w,
        event.Takes name args) ∧
      (∀ name args {reply : Reply} (p : Primitive reply), ∀ figure ∈ p.figures, ∀ v,
        args[figure.index]? = some (.int v) → ¬ figure.number.Accepts v.toInt →
        ∀ memory answer register,
          .request p memory answer register ∉ requests config platform site name args w) ∧
      (∀ name args result, (∃ v, .int v ∈ args) →
        ((builtIn config).call platform site name args w).1 = .ok result →
        requests config platform site name args w = [] →
        name ∈ ["getcwd", "memset", "major", "minor", "errno="]) ∧
      (w.span = none →
        (∀ p b n, ∃ result after, p.Fills b n w.memory result after ∧
          Gives config platform site "memset" [.pointer p, .int b, .int n] w result after) ∧
        (∀ device : Int64,
          (∃ bits : Int32, bits.toInt % 2 ^ 32 = device.toInt % 2 ^ 32 ∧
            Gives config platform site "major" [.int device] w
              (.ok (.int (Device.major bits).toInt64)) w.memory) ∧
          ∃ bits : Int32, bits.toInt % 2 ^ 32 = device.toInt % 2 ^ 32 ∧
            Gives config platform site "minor" [.int device] w
              (.ok (.int (Device.minor bits).toInt64)) w.memory) ∧
        (∀ code : Int64,
          (-2 ^ 31 ≤ code.toInt ∧ code.toInt < 2 ^ 31 →
            ((builtIn config).call platform site "errno=" [.int code] w).1 = .ok (.int 0) ∧
              ((builtIn config).call platform site "errno=" [.int code] w).2.errno.code.toInt =
                code.toInt) ∧
          (¬ (-2 ^ 31 ≤ code.toInt ∧ code.toInt < 2 ^ 31) →
            Gives config platform site "errno=" [.int code] w
              (.error (.outOfRange "errno=" 0 code)) w.memory)) ∧
        ∀ max : Int64,
          (max.toInt < 0 → ∀ groups, (groups = .nil ∨ ∃ p, groups = .pointer p) →
            requests config platform site "getgroups" [.int max, groups] w = []) ∧
          (0 ≤ max.toInt → ∀ ids, platform.kernel.Lists w.toMachine ids →
            ∀ p : Pointer, p.address ≠ 0 → ∃ result after, p.Takes ids max w.memory result after ∧
              Gives config platform site "getgroups" [.int max, .pointer p] w result after)) := by
  refine ⟨?taken, ?refused, ?unasked, ?own⟩
  case taken =>
    intro name args event hevent
    exact requests_take hevent
  case refused =>
    intro name args reply p figure hfigure v harg hrange memory answer register hmem
    have htakes : p.Takes name args := requests_take hmem
    exact hrange ((htakes.figures figure hfigure).accepts harg)
  case unasked =>
    intro name args result hint hok hnone
    exact name_mem_of_unasked hint hok hnone
  case own =>
    intro hspan
    refine ⟨?memset, ?device, ?errno, ?getgroups⟩
    case memset =>
      intro p b n
      exact exists_memset_gives config platform site hspan p b n
    case device =>
      intro device
      exact ⟨device_gives config platform site hspan (Table.find?_major config) device,
        device_gives config platform site hspan (Table.find?_minor config) device⟩
    case errno =>
      intro code
      exact ⟨setErrno_keeps config platform site hspan,
        setErrno_gives config platform site hspan⟩
    case getgroups =>
      intro max
      refine ⟨?_, ?_⟩
      . intro h groups hgroups
        exact getgroups_unasked hspan h hgroups
      . intro h ids hlists p hp
        exact exists_writing_gives config platform site hspan h hp hlists

/-- A mode of which every bit is set goes through with the integer that has these bits, and one that
has a bit too many does not. -/
theorem integers_kept_fchmod
    : let platform : Platform Posix TrackedDirectory :=
        ⟨Posix.kernel, .tracking Posix.kernel, .undisturbing⟩
      let w : World Posix TrackedDirectory := ⟨⟨.fresh, ⟨0⟩, .initial⟩, none, #[], ⟨Path.root⟩⟩
      (requests {} platform "here" "fchmod" [.int 7, .int (-1)] w).length = 1 ∧
        (∀ event ∈ requests {} platform "here" "fchmod" [.int 7, .int (-1)] w,
          event.Takes "fchmod" [.int 7, .int (-1)]) ∧
        (∀ memory answer register, .request (.fchmod 7 0xFFFFFFFF) memory answer register ∉
          requests {} platform "here" "fchmod" [.int 7, .int 0xFFFFFFFF] w) ∧
        ∃ bits : Int32, bits.toInt % 2 ^ 32 = 0x1000000 ∧
          Gives {} platform "here" "major" [.int 0x101000000] w
            (.ok (.int (Device.major bits).toInt64)) w.memory := by
  intro platform w
  have ⟨htaken, hrefused, _, hown⟩ := integers_kept {} platform "here" w
  have ⟨_, hdevice, _, _⟩ := hown rfl
  refine ⟨by decide +kernel, htaken "fchmod" _, ?_, (hdevice 0x101000000).1⟩
  have hmode : ⟨1, .bits 0xFFFFFFFF, false⟩ ∈ (Primitive.fchmod 7 0xFFFFFFFF).figures := by
    exact List.mem_cons_of_mem _ (List.mem_singleton_self _)
  exact hrefused "fchmod" _ (.fchmod 7 0xFFFFFFFF) _ hmode 0xFFFFFFFF rfl
    (by simp only [NativeNumber.Accepts]; decide)

end Registry

end NativeCall
