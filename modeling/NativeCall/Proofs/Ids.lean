import NativeCall.Host.Tracking
import NativeCall.Posix.Kernel
import NativeCall.Proofs.Settling

/-!
This module contains the ids of users and groups on their way through calls: they are reported without
a sign and taken back with one, so that those in the upper half are reported but not taken back.
-/

namespace NativeCall

variable {κ η β : Type}

/-- An id that a call hands to the system, and the integer that gives it at the place `index` of the
arguments. -/
structure GivenId where
  index : Nat
  value : Int64
  id : UInt32

namespace GivenId

/-- The integer has the bits of the id. -/
def Faithful (given : GivenId) : Prop :=
  (given.id.toNat : Int) = given.value.toInt % 2 ^ 32

instance (given : GivenId) : Decidable given.Faithful :=
  inferInstanceAs (Decidable ((given.id.toNat : Int) = given.value.toInt % 2 ^ 32))

/-- The integer does not fit into 32 bits with a sign. -/
def wide (given : GivenId) : Bool :=
  given.value.toInt < -2 ^ 31 ∨ 2 ^ 31 ≤ given.value.toInt

theorem wide_iff_of_reported {given : GivenId} (h : (given.id.toNat : Int) = given.value.toInt)
    : given.wide ↔ 2 ^ 31 ≤ given.id.toNat := by
  simp only [wide, decide_eq_true_eq]
  omega

theorem Faithful.toUInt32_eq {given : GivenId} (h : given.Faithful)
    : given.value.toInt32.toUInt32 = given.id := by
  apply UInt32.toNat_inj.mp
  apply Int.ofNat_inj.mp
  show (given.value.toInt32.toUInt32.toNat : Int) = (given.id.toNat : Int)
  rw [Invocation.toNat_toUInt32, Int64.toInt_toInt32, h]
  exact Int.bmod_emod

end GivenId

/-- A call with ids among its arguments, and the request that hands them to the system. -/
inductive IdCall : String → List Variant → List GivenId → Primitive .number → Prop where
  | setuid (v : Int64) (id : UInt32) : IdCall "setuid" [.int v] [⟨0, v, id⟩] (.setuid id)
  | seteuid (v : Int64) (id : UInt32) : IdCall "seteuid" [.int v] [⟨0, v, id⟩] (.seteuid id)
  | setgid (v : Int64) (id : UInt32) : IdCall "setgid" [.int v] [⟨0, v, id⟩] (.setgid id)
  | chown {text : String} {path : CString} (htext : CString.ofText? text = some path)
      (v v' : Int64) (owner group : UInt32)
      : IdCall "chown" [.str text, .int v, .int v'] [⟨1, v, owner⟩, ⟨2, v', group⟩]
          (.chown path owner group)
  | fchown {n : Int64} {fd : Int32} (hfd : fd.toInt = n.toInt) (v v' : Int64)
      (owner group : UInt32)
      : IdCall "fchown" [.int n, .int v, .int v'] [⟨1, v, owner⟩, ⟨2, v', group⟩]
          (.fchown fd owner group)

/-- What becomes of the request: the first integer that is too wide is blamed. -/
def IdCall.decoded (name : String) (ids : List GivenId) (p : Primitive .number)
    : Except CallError Plan :=
  match ids.find? GivenId.wide with
  | none => .ok (.status p)
  | some given => .error (.outOfRange name given.index given.value)

namespace IdCall

variable (name : String) (p : Primitive .number)

theorem decoded_singleton (given : GivenId)
    : decoded name [given] p =
        if given.wide then .error (.outOfRange name given.index given.value)
        else .ok (.status p) := by
  unfold decoded
  rw [List.find?_singleton]
  cases given.wide <;> rfl

theorem decoded_pair (first second : GivenId)
    : decoded name [first, second] p =
        if first.wide then .error (.outOfRange name first.index first.value)
        else decoded name [second] p := by
  unfold decoded
  rw [List.find?_cons]
  cases first.wide <;> rfl

theorem final_of_decoded {ids : List GivenId} {plan : Plan} (h : decoded name ids p = .ok plan)
    : plan.Final := by
  unfold decoded at h
  split at h
  . cases h
    nofun
  . cases h

end IdCall

theorem Invocation.cInt_of_given {inv : Invocation} (given : GivenId)
    (h : inv.args[given.index]? = some (.int given.value))
    : inv.cInt given.index =
        if given.wide then .error (.outOfRange inv.op given.index given.value)
        else .ok given.value.toInt32 := by
  split
  . next hwide =>
    simp only [GivenId.wide, decide_eq_true_eq] at hwide
    exact cInt_of_wide h (by omega)
  . next hnarrow =>
    simp only [GivenId.wide, decide_eq_true_eq] at hnarrow
    exact cInt_of_narrow h (by omega)

namespace Request

variable (name : String) {v v' : Int64} {id owner group : UInt32}

theorem id_eq (p : UInt32 → Primitive .number) (hid : (⟨0, v, id⟩ : GivenId).Faithful)
    : (do return .status (p (← Invocation.cInt ⟨name, [.int v]⟩ 0).toUInt32)) =
        IdCall.decoded name [⟨0, v, id⟩] (p id) := by
  obtain rfl : v.toInt32.toUInt32 = id := hid.toUInt32_eq
  have hcInt : Invocation.cInt ⟨name, [.int v]⟩ 0 = _ :=
    Invocation.cInt_of_given ⟨0, v, v.toInt32.toUInt32⟩ rfl
  rw [hcInt, IdCall.decoded_singleton]
  cases (⟨0, v, v.toInt32.toUInt32⟩ : GivenId).wide <;> rfl

/-- Whatever else a request needs once it has its owner and its group, in this order. -/
theorem owners_eq {first : Variant} (f : UInt32 → UInt32 → Except CallError Plan)
    {p : Primitive .number} (hf : f owner group = .ok (.status p))
    (howner : (⟨1, v, owner⟩ : GivenId).Faithful) (hgroup : (⟨2, v', group⟩ : GivenId).Faithful)
    : (do
        let owner ← Invocation.cInt ⟨name, [first, .int v, .int v']⟩ 1
        let group ← Invocation.cInt ⟨name, [first, .int v, .int v']⟩ 2
        f owner.toUInt32 group.toUInt32) =
        IdCall.decoded name [⟨1, v, owner⟩, ⟨2, v', group⟩] p := by
  obtain rfl : v.toInt32.toUInt32 = owner := howner.toUInt32_eq
  obtain rfl : v'.toInt32.toUInt32 = group := hgroup.toUInt32_eq
  have howner : Invocation.cInt ⟨name, [first, .int v, .int v']⟩ 1 = _ :=
    Invocation.cInt_of_given ⟨1, v, v.toInt32.toUInt32⟩ rfl
  have hgroup : Invocation.cInt ⟨name, [first, .int v, .int v']⟩ 2 = _ :=
    Invocation.cInt_of_given ⟨2, v', v'.toInt32.toUInt32⟩ rfl
  rw [howner, hgroup, IdCall.decoded_pair, IdCall.decoded_singleton, ← hf]
  cases (⟨1, v, v.toInt32.toUInt32⟩ : GivenId).wide with
  | true => rfl
  | false => cases (⟨2, v', v'.toInt32.toUInt32⟩ : GivenId).wide <;> rfl

theorem chown_eq {text : String} {path : CString} (htext : CString.ofText? text = some path)
    (howner : (⟨1, v, owner⟩ : GivenId).Faithful) (hgroup : (⟨2, v', group⟩ : GivenId).Faithful)
    : chown ⟨name, [.str text, .int v, .int v']⟩ =
        IdCall.decoded name [⟨1, v, owner⟩, ⟨2, v', group⟩] (.chown path owner group) := by
  unfold chown
  rw [Invocation.cString_of_text rfl htext]
  exact owners_eq name (fun owner group => return .status (.chown path owner group)) rfl howner hgroup

theorem fchown_eq {n : Int64} {fd : Int32} (hfd : fd.toInt = n.toInt)
    (howner : (⟨1, v, owner⟩ : GivenId).Faithful) (hgroup : (⟨2, v', group⟩ : GivenId).Faithful)
    : fchown ⟨name, [.int n, .int v, .int v']⟩ =
        IdCall.decoded name [⟨1, v, owner⟩, ⟨2, v', group⟩] (.fchown fd owner group) := by
  refine owners_eq name (fun owner group => do
    return .status (.fchown (← Invocation.cInt ⟨name, [.int n, .int v, .int v']⟩ 0) owner group))
    ?_ howner hgroup
  rw [Invocation.cInt_of_toInt_eq rfl hfd]
  rfl

end Request

/-- A question for an id of the process, which takes no arguments. -/
inductive IdQuery : String → Primitive .number → Prop where
  | getuid : IdQuery "getuid" .getuid
  | geteuid : IdQuery "geteuid" .geteuid
  | getgid : IdQuery "getgid" .getgid
  | getegid : IdQuery "getegid" .getegid

namespace Registry

variable {config : BindingConfig} {platform : Platform κ η} {site name : String}
  {args : List Variant} {w : World κ η}

theorem query_comesDownTo {p : Primitive .number}
    (hfind : (builtIn config : Registry (Traced κ) η).find? name =
      some ⟨name, 0, .informational, [Table.arm [] (Request.query p)], none⟩)
    (hspan : w.span = none)
    : ComesDownTo config platform site
        ⟨name, 0, .informational, [Table.arm [] (Request.query p)], none⟩ [] w w.toMachine
        (.ok (.info p)) := by
  refine comesDownTo_of_single hfind rfl nofun hspan rfl rfl ?_
  intro plan hplan
  cases hplan
  nofun

theorem query_result {p : Primitive .number} (h : IdQuery name p) (hspan : w.span = none)
    : ((builtIn config).call platform site name [] w).1 =
        .ok (.int (platform.kernel.run p w.toMachine).1) := by
  cases h with
  | getuid | geteuid | getgid | getegid =>
    exact (query_comesDownTo rfl hspan).result

variable (config platform site) in
theorem id_comesDownTo {ids : List GivenId} {p : Primitive .number} (h : IdCall name args ids p)
    (hfaithful : ∀ given ∈ ids, given.Faithful) (hspan : w.span = none)
    : ∃ op : Operation (Traced κ) η, op.name = name ∧
        ComesDownTo config platform site op args w w.toMachine (IdCall.decoded name ids p) := by
  have hfinal : ∀ plan, IdCall.decoded name ids p = .ok plan → plan.Final := by
    intro plan hplan
    exact IdCall.final_of_decoded name p hplan
  cases h with
  | setuid v id =>
    have hid := Request.id_eq "setuid" .setuid (hfaithful _ (List.mem_singleton_self _))
    exact ⟨_, rfl, comesDownTo_of_single rfl rfl nofun hspan rfl hid hfinal⟩
  | seteuid v id =>
    have hid := Request.id_eq "seteuid" .seteuid (hfaithful _ (List.mem_singleton_self _))
    exact ⟨_, rfl, comesDownTo_of_single rfl rfl nofun hspan rfl hid hfinal⟩
  | setgid v id =>
    have hid := Request.id_eq "setgid" .setgid (hfaithful _ (List.mem_singleton_self _))
    exact ⟨_, rfl, comesDownTo_of_single rfl rfl nofun hspan rfl hid hfinal⟩
  | chown htext v v' owner group =>
    obtain ⟨howner, hgroup⟩ := List.forall_mem_cons.mp hfaithful
    have hids := Request.chown_eq "chown" htext howner (hgroup _ (List.mem_singleton_self _))
    exact ⟨_, rfl, comesDownTo_of_single rfl rfl nofun hspan rfl hids hfinal⟩
  | fchown hfd v v' owner group =>
    obtain ⟨howner, hgroup⟩ := List.forall_mem_cons.mp hfaithful
    have hids := Request.fchown_eq "fchown" hfd howner (hgroup _ (List.mem_singleton_self _))
    exact ⟨_, rfl, comesDownTo_of_single rfl rfl nofun hspan rfl hids hfinal⟩

theorem id_requests {ids : List GivenId} {p : Primitive .number} (h : IdCall name args ids p)
    (hfaithful : ∀ given ∈ ids, given.Faithful) (hspan : w.span = none)
    (hnarrow : ∀ given ∈ ids, ¬ given.wide)
    : requests config platform site name args w =
        platform.kernel.asked w.toMachine (.ok (.status p)) := by
  have ⟨op, hname, hcomes⟩ := id_comesDownTo config platform site h hfaithful hspan
  have hnone : ids.find? GivenId.wide = none := List.find?_eq_none.mpr hnarrow
  subst hname
  rw [hcomes.requests]
  unfold IdCall.decoded
  rw [hnone]

theorem id_givesUp {ids : List GivenId} {p : Primitive .number} (h : IdCall name args ids p)
    (hfaithful : ∀ given ∈ ids, given.Faithful) (hspan : w.span = none) {given : GivenId}
    (hwide : ids.find? GivenId.wide = some given)
    : GivesUp config platform site name args w (.outOfRange name given.index given.value)
        w.toMachine := by
  have ⟨op, hname, hcomes⟩ := id_comesDownTo config platform site h hfaithful hspan
  unfold IdCall.decoded at hcomes
  rw [hwide] at hcomes
  subst hname
  exact hcomes.givesUp

variable (config platform site) in
/-- An id is reported as it is. Given back it is handed to the system as it is, as long as it is less
than 2^31; from there on it is refused. Its negative counterpart with the same bits is not. -/
theorem ids_taken_back (hspan : w.span = none)
    : (∀ name query, IdQuery name query → ∀ id : UInt32,
        (platform.kernel.run query w.toMachine).1.toInt = id.toNat →
        ∃ v : Int64, v.toInt = id.toNat ∧
          ((builtIn config).call platform site name [] w).1 = .ok (.int v)) ∧
      ∀ name args ids p, IdCall name args ids p → (∀ given ∈ ids, given.Faithful) →
        ((∀ given ∈ ids, ¬ given.wide) →
          requests config platform site name args w =
            platform.kernel.asked w.toMachine (.ok (.status p))) ∧
        (∀ given, ids.find? GivenId.wide = some given →
          GivesUp config platform site name args w (.outOfRange name given.index given.value)
            w.toMachine) ∧
        ∀ given ∈ ids, (given.id.toNat : Int) = given.value.toInt →
          (given.wide ↔ 2 ^ 31 ≤ given.id.toNat) := by
  refine ⟨?_, ?_⟩
  . intro name query hquery id hid
    exact ⟨_, hid, query_result hquery hspan⟩
  . intro name args ids p h hfaithful
    refine ⟨?_, ?_, ?_⟩
    . intro hnarrow
      exact id_requests h hfaithful hspan hnarrow
    . intro given hwide
      exact id_givesUp h hfaithful hspan hwide
    . intro given _ hreported
      exact GivenId.wide_iff_of_reported hreported

theorem ids_taken_back_thousand
    : let platform : Platform Posix TrackedDirectory :=
        ⟨Posix.kernel, .tracking Posix.kernel, .undisturbing⟩
      let os : Posix := { Posix.initial with
        identity := { Posix.initial.identity with user := 1000 } }
      let w : World Posix TrackedDirectory := ⟨⟨.fresh, ⟨0⟩, os⟩, none, #[], ⟨Path.root⟩⟩
      (∃ v : Int64, v.toInt = 1000 ∧
          ((builtIn {}).call platform "here" "getuid" [] w).1 = .ok (.int v)) ∧
        requests {} platform "here" "setuid" [.int 1000] w =
          platform.kernel.asked w.toMachine (.ok (.status (.setuid 1000))) ∧
        GivesUp {} platform "here" "fchown" [.int 7, .int 1000, .int 0x80000000] w
          (.outOfRange "fchown" 2 0x80000000) w.toMachine := by
  intro platform os w
  have hfaithful : ∀ given ∈ [(⟨1, 1000, 1000⟩ : GivenId), ⟨2, 0x80000000, 0x80000000⟩],
      given.Faithful := by
    decide
  have ⟨hqueries, hcalls⟩ := ids_taken_back {} platform "here" (w := w) rfl
  have ⟨hset, _, _⟩ := hcalls _ _ _ _ (.setuid 1000 1000) (by decide)
  have ⟨_, hgivesUp, _⟩ := hcalls _ _ _ _
    (@IdCall.fchown 7 7 (by decide) 1000 0x80000000 1000 0x80000000) hfaithful
  exact ⟨hqueries _ _ .getuid 1000 (by decide +kernel), hset (by decide),
    hgivesUp ⟨2, 0x80000000, 0x80000000⟩ rfl⟩

/-- A process that runs for the user 2^31 is told so, and can neither become that user nor give it a
file. -/
theorem reported_id_refused
    : let platform : Platform Posix TrackedDirectory :=
        ⟨Posix.kernel, .tracking Posix.kernel, .undisturbing⟩
      let os : Posix := { Posix.initial with
        identity := { Posix.initial.identity with user := 0x80000000 } }
      let w : World Posix TrackedDirectory := ⟨⟨.fresh, ⟨0⟩, os⟩, none, #[], ⟨Path.root⟩⟩
      ((builtIn {}).call platform "here" "getuid" [] w).1 = .ok (.int 0x80000000) ∧
        GivesUp {} platform "here" "setuid" [.int 0x80000000] w
          (.outOfRange "setuid" 0 0x80000000) w.toMachine ∧
        GivesUp {} platform "here" "fchown" [.int 7, .int 0x80000000, .int 0] w
          (.outOfRange "fchown" 1 0x80000000) w.toMachine := by
  intro platform os w
  let given (index : Nat) : GivenId := ⟨index, 0x80000000, 0x80000000⟩
  have hset : [given 0].find? GivenId.wide = some (given 0) := rfl
  have hown : [given 1, ⟨2, 0, 0⟩].find? GivenId.wide = some (given 1) := rfl
  refine ⟨query_result .getuid rfl, ?_, ?_⟩
  . exact id_givesUp (.setuid _ _) (by decide) rfl hset
  . exact id_givesUp (@IdCall.fchown 7 7 (by decide) _ _ _ _) (by decide) rfl hown

end Registry

end NativeCall
