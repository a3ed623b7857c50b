import NativeCall.Host.Recording
import NativeCall.Posix.Kernel
import NativeCall.Proofs.Changes
import NativeCall.Proofs.Exchange

/-!
This module contains that a host is told of exactly the changes of directory, over any run of calls.
-/

namespace NativeCall

variable {κ η : Type}

namespace Event

/-- Whenever the host is told of a path, the system has just changed the directory to it. -/
def Announced (events : List Event) : Prop :=
  ∀ before path after, events = before ++ .notice path :: after →
    ∃ (earlier : List Event) (target : CString) (memory : Memory) (answer : Int64)
      (register : Errno),
      before = earlier ++ [@Event.request .number (.chdir target) memory answer register] ∧
        answer ≠ -1 ∧ CString.ofText? path = some target

theorem announced_of_no_notice {events : List Event} (h : ∀ event ∈ events, event.notice? = none)
    : Announced events := by
  intro before path after hevents
  have hmem : .notice path ∈ events := by
    rw [hevents]
    exact List.mem_append_right before List.mem_cons_self
  cases h _ hmem

theorem Announced.append {first second : List Event} (hfirst : Announced first)
    (hsecond : Announced second) : Announced (first ++ second) := by
  intro before path after hevents
  rw [List.append_eq_append_iff] at hevents
  rcases hevents with ⟨between, hbefore, hrest⟩ | ⟨between, hwhole, hrest⟩
  . have ⟨earlier, target, memory, answer, register, hbetween, hanswer⟩ :=
      hsecond between path after hrest
    refine ⟨first ++ earlier, target, memory, answer, register, ?_, hanswer⟩
    rw [hbefore, hbetween, List.append_assoc]
  . cases between with
    | nil =>
      -- nothing stands before the notice in the second part
      have ⟨earlier, _, _, _, _, hnil, _⟩ := hsecond [] path after hrest.symm
      simp at hnil
    | cons event between =>
      rw [List.cons_append] at hrest
      obtain ⟨hevent, hafter⟩ := List.cons_eq_cons.mp hrest
      rw [← hevent] at hwhole
      exact hfirst before path between hwhole

end Event

theorem Changing.announced {args : List Variant} {events : List Event} (h : Changing args events)
    : Event.Announced events := by
  cases h with
  | untried => exact Event.announced_of_no_notice (List.forall_mem_nil _)
  | failed => exact Event.announced_of_no_notice (List.forall_mem_singleton.mpr rfl)
  | @changed path target answer memory register hargs htarget hanswer =>
    intro before path' after hevents
    rcases before with _ | ⟨first, before⟩
    . cases hevents
    . obtain ⟨hfirst, hrest⟩ := List.cons_eq_cons.mp hevents
      rcases before with _ | ⟨second, before⟩
      . cases hrest
        exact ⟨[], target, memory, answer, register, by rw [← hfirst]; rfl, hanswer, htarget⟩
      . simp at hrest

/-- One call of a run: what other code makes of the world before it, the switches of the registry that
it is made through, and the call itself. A call that the host makes when it is told is a turn, too. -/
structure Turn (κ η : Type) where
  meanwhile : World κ η → World κ η
  config : BindingConfig
  site : String
  name : String
  args : List Variant

namespace Turn

variable (platform : Platform κ η)

def call (turn : Turn κ η) : Action κ η (Except CallError Variant) := do
  modify turn.meanwhile
  (Registry.builtIn turn.config).call platform turn.site turn.name turn.args

/-- What the call asks of the system and of the host, and what it tells the host. -/
def events (turn : Turn κ η) (w : World κ η) : List Event :=
  Registry.events turn.config platform turn.site turn.name turn.args (turn.meanwhile w)

/-- The path of a call to `chdir` that the system has carried out, in the caller's words. -/
def change? (turn : Turn κ η) (w : World κ η) : Option String :=
  if turn.name = "chdir" ∧ (turn.events platform w).any Event.isChange then
    turn.args.head?.bind Variant.asStr?
  else none

/-- Make the calls one after the other. -/
def run : List (Turn κ η) → Action κ η (List (Except CallError Variant))
  | [] => return []
  | turn :: rest => do
    let result ← turn.call platform
    return result :: (← run rest)

theorem call_eq (turn : Turn κ η) (w : World κ η)
    : turn.call platform w =
        (Registry.builtIn turn.config).call platform turn.site turn.name turn.args
          (turn.meanwhile w) := by
  rfl

theorem run_cons (turn : Turn κ η) (rest : List (Turn κ η)) (w : World κ η)
    : (run platform (turn :: rest) w).2 = (run platform rest (turn.call platform w).2).2 := by
  rfl

def runEvents : List (Turn κ η) → World κ η → List Event
  | [], _ => []
  | turn :: rest, w => turn.events platform w ++ runEvents rest (turn.call platform w).2

def changes : List (Turn κ η) → World κ η → List String
  | [], _ => []
  | turn :: rest, w => (turn.change? platform w).toList ++ changes rest (turn.call platform w).2

theorem notices_eq_change? (turn : Turn κ η) (w : World κ η)
    : (turn.events platform w).filterMap Event.notice? = (turn.change? platform w).toList := by
  unfold change?
  by_cases hname : turn.name = "chdir"
  . have hchanging : Changing turn.args (turn.events platform w) := by
      unfold events
      rw [hname]
      apply Registry.events_chdir
    generalize turn.events platform w = events at hchanging ⊢
    simp only [hname, true_and]
    cases hchanging with
    | untried | failed => rfl
    | changed _ _ hargs _ hanswer =>
      simp only [hargs, List.any_cons, Event.isChange, bne_iff_ne.mpr hanswer, Bool.true_or,
        ↓reduceIte]
      rfl
  . have hnone := Registry.events_of_name_ne turn.config platform turn.site turn.args
      (turn.meanwhile w) hname
    simp only [hname, false_and, ↓reduceIte, Option.toList_none]
    exact List.filterMap_eq_nil_iff.mpr hnone

theorem events_announced (turn : Turn κ η) (w : World κ η)
    : Event.Announced (turn.events platform w) := by
  unfold events
  by_cases hname : turn.name = "chdir"
  . rw [hname]
    exact (Registry.events_chdir turn.config platform turn.site turn.args _).announced
  . apply Event.announced_of_no_notice
    exact Registry.events_of_name_ne turn.config platform turn.site turn.args _ hname

theorem notices_eq_changes (turns : List (Turn κ η)) (w : World κ η)
    : (runEvents platform turns w).filterMap Event.notice? = changes platform turns w := by
  induction turns generalizing w with
  | nil => rfl
  | cons turn rest ih =>
    unfold runEvents changes
    rw [List.filterMap_append, notices_eq_change?, ih]

theorem runEvents_announced (turns : List (Turn κ η)) (w : World κ η)
    : Event.Announced (runEvents platform turns w) := by
  induction turns generalizing w with
  | nil => exact Event.announced_of_no_notice (List.forall_mem_nil _)
  | cons turn rest ih => exact (turn.events_announced platform w).append (ih _)

end Turn

/-- The hosts answer alike, and take notice alike of what they are told outside every span. -/
structure Host.AgreesOutside (host other : Host κ η) : Prop where
  currentDirectory : host.currentDirectory = other.currentDirectory
  socketConstant : host.socketConstant = other.socketConstant
  setCurrentDirectory : ∀ path w, w.span = none →
    host.setCurrentDirectory path w = other.setCurrentDirectory path w

namespace Table

theorem dispatch_eq_of_queries {p q : Platform κ η} (hkernel : p.kernel = q.kernel)
    (hdirectory : p.host.currentDirectory = q.host.currentDirectory)
    (hconstant : p.host.socketConstant = q.host.socketConstant) {op : Operation κ η}
    (hop : op ∈ builtIn) (args : List Variant) (w : World κ η)
    : dispatch op.name op.arms p args w = dispatch op.name op.arms q args w := by
  have sim : Simulation Eq p q := by
    constructor
    case run =>
      rintro reply request v _ rfl
      unfold Platform.run
      rw [hkernel]
      exact ⟨rfl, rfl⟩
    case currentDirectory =>
      rintro v _ rfl
      rw [hdirectory]
      exact ⟨rfl, rfl⟩
    case socketConstant =>
      rintro name v _ rfl
      rw [hconstant]
      exact ⟨rfl, rfl⟩
    all_goals
      rintro v _ rfl
      intros
      rfl
  have ⟨hresult, hworld⟩ := dispatch_lockstep (arms_inStep sim hop) op.name args w w rfl
  exact Prod.ext hresult hworld

end Table

theorem Registry.hook_eq_tellDirectory {config : BindingConfig} {name : String}
    {op : Operation κ η} (hfind : (builtIn config).find? name = some op)
    {hook : SuccessHook κ η} (hhook : op.onSuccess = some hook) : hook = Table.tellDirectory := by
  have hnamed : op.name = name := by simpa using List.find?_some hfind
  by_cases hname : name = "chdir"
  . rw [hname, Table.find?_chdir] at hfind
    cases hfind
    cases hhook
    rfl
  . rw [← hnamed] at hname
    rw [Table.onSuccess_eq_none (List.mem_of_find?_eq_some hfind) hname] at hhook
    cases hhook

namespace Turn

theorem call_eq_of_agreesOutside {platform : Platform κ η} {host : Host κ η}
    (h : host.AgreesOutside platform.host) (turn : Turn κ η)
    : turn.call { platform with host := host } = turn.call platform := by
  funext w
  show (Registry.builtIn turn.config).call { platform with host := host } turn.site turn.name
    turn.args (turn.meanwhile w) = _
  refine Registry.call_eq_of_alike _ (by rfl) _ _ _ ?_
  intro op hfind
  have hop : op ∈ Table.builtIn := List.mem_of_find?_eq_some hfind
  apply BoundOperation.alike_of_platforms
  . rfl
  . intro v _
    refine Table.dispatch_eq_of_queries ?_ ?_ ?_ hop turn.args v
    . rfl
    . exact h.currentDirectory
    . exact h.socketConstant
  . intro hook hhook v hspan
    rw [Registry.hook_eq_tellDirectory hfind hhook]
    unfold Table.tellDirectory
    cases turn.args.head?.bind Variant.asStr? with
    | none => rfl
    | some path => exact h.setCurrentDirectory path v hspan

theorem run_eq_of_agreesOutside {platform : Platform κ η} {host : Host κ η}
    (h : host.AgreesOutside platform.host) (turns : List (Turn κ η))
    : run { platform with host := host } turns = run platform turns := by
  induction turns with
  | nil => rfl
  | cons turn rest ih =>
    unfold run
    rw [call_eq_of_agreesOutside h, ih]

/-- The host is told of the changes of directory that the system has carried out, in order and once each,
as the caller worded them. -/
theorem told_of_changes (platform : Platform κ η) (turns : List (Turn κ η)) (w : World κ η)
    : (runEvents platform turns w).filterMap Event.notice? = changes platform turns w ∧
      Event.Announced (runEvents platform turns w) ∧
      ∀ host : Host κ η, host.AgreesOutside platform.host →
        run { platform with host := host } turns w = run platform turns w := by
  refine ⟨notices_eq_changes platform turns w, runEvents_announced platform turns w, ?_⟩
  intro host h
  rw [run_eq_of_agreesOutside h]

theorem told_of_one_change
    : let obliging : Kernel Posix :=
        { Posix.kernel with
          run := fun request =>
            match request with
            | .chdir _ => return 0
            | request => Posix.kernel.run request }
      let platform : Platform Posix Recording := ⟨obliging, .recording, .undisturbing⟩
      let deaf : Host Posix Recording :=
        { Host.recording with
          setCurrentDirectory := fun path w =>
            if w.span = none then Host.recording.setCurrentDirectory path w else ((), w) }
      let turns : List (Turn Posix Recording) :=
        [⟨id, {}, "here", "chdir", [.str "/tmp"]⟩, ⟨id, {}, "here", "rmdir", [.str "/tmp"]⟩]
      let w : World Posix Recording := ⟨⟨.fresh, ⟨0⟩, .initial⟩, none, #[], ⟨"/", none, []⟩⟩
      (runEvents platform turns w).filterMap Event.notice? = ["/tmp"] ∧
        Event.Announced (runEvents platform turns w) ∧
        run { platform with host := deaf } turns w = run platform turns w := by
  intro obliging platform deaf turns w
  have hchanges : changes platform turns w = ["/tmp"] := by
    decide +kernel
  have hdeaf : deaf.AgreesOutside platform.host := by
    refine ⟨rfl, rfl, ?_⟩
    intro path v hspan
    exact if_pos hspan
  have ⟨hnotices, hannounced, hrun⟩ := told_of_changes platform turns w
  exact ⟨hnotices.trans hchanges, hannounced, hrun deaf hdeaf⟩

end Turn

end NativeCall
