import Mathlib.Data.List.Infix
import Mathlib.Data.List.Nodup
import NativeCall.Proofs.Running
import NativeCall.Span

/-!
This module contains spans on many threads. A span is a value of its own, which may be given up on
another thread than the one that it was entered on, and then the slots no longer tell which spans
are open.
-/

namespace NativeCall

namespace Span

namespace Slots

variable {slots : Slots} {thread : Nat} {op : String}

theorem enter_of_none (h : slots thread = none) (op : String)
    : slots.enter thread op = .ok fun t => if t = thread then some op else slots t := by
  unfold enter
  rw [h]
  rfl

theorem enter_of_some {active : String} (h : slots thread = some active) (op : String)
    : slots.enter thread op = .error (.reentrant op active) := by
  unfold enter
  rw [h]
  rfl

theorem enter_eq_ok {slots' : Slots} (h : slots.enter thread op = .ok slots')
    : slots thread = none ∧ slots' = fun t => if t = thread then some op else slots t := by
  cases hslot : slots thread with
  | none =>
    rw [enter_of_none hslot] at h
    cases h
    exact ⟨rfl, rfl⟩
  | some active =>
    rw [enter_of_some hslot] at h
    cases h

theorem enter_eq_error_iff
    : (∃ e, slots.enter thread op = .error e) ↔ ∃ active, slots thread = some active := by
  cases hslot : slots thread with
  | none =>
    rw [enter_of_none hslot]
    simp
  | some active =>
    rw [enter_of_some hslot]
    simp

theorem leave_self (slots : Slots) (thread : Nat) : slots.leave thread thread = none := by
  exact if_pos rfl

theorem leave_of_ne (slots : Slots) {thread other : Nat} (h : other ≠ thread)
    : slots.leave thread other = slots other := by
  exact if_neg h

end Slots

variable {κ η : Type} {slots : Slots} {thread : Nat} {w : World κ η}

theorem enter_eq_slots (h : w.span = slots thread) (op : String)
    : enter op w =
        match slots.enter thread op with
        | .ok slots' => (.ok (), { w with span := slots' thread })
        | .error e => (.error e, w) := by
  unfold enter
  rw [Call.run_bind, Call.run_get]
  dsimp only
  rw [Call.run_bind, Call.run_liftExcept, h]
  cases hslot : slots thread with
  | none =>
    rw [Slots.enter_of_none hslot]
    simp [enterSlot]
  | some active =>
    rw [Slots.enter_of_some hslot]
    rfl

theorem leave_eq_slots (slots : Slots) (thread : Nat) (w : World κ η)
    : leave w = ((), { w with span := slots.leave thread thread }) := by
  rw [slots.leave_self]
  rfl

end Span

structure OpenSpan where
  thread : Nat
  op : String
deriving DecidableEq, Repr

structure Threads where
  slots : Span.Slots
  alive : List OpenSpan

namespace Threads

/-- What can be done to the spans. Any thread may be the one that gives a span up. -/
inductive Move where
  | enter (thread : Nat) (op : String)
  | drop (thread : Nat) (span : OpenSpan)

inductive Step (s : Threads) : Move → Threads → Prop where
  | entered {thread : Nat} {op : String} {slots : Span.Slots}
      (h : s.slots.enter thread op = .ok slots)
      : Step s (.enter thread op) ⟨slots, ⟨thread, op⟩ :: s.alive⟩
  | refused {thread : Nat} {op : String} {e : CallError} (h : s.slots.enter thread op = .error e)
      : Step s (.enter thread op) s
  | dropped {span : OpenSpan} (thread : Nat) (h : span ∈ s.alive)
      : Step s (.drop thread span) ⟨s.slots.leave thread, s.alive.erase span⟩

inductive Run : List Move → Threads → Prop where
  | nothing : Run [] ⟨fun _ => none, []⟩
  | step {moves : List Move} {s s' : Threads} {move : Move} (h : Run moves s)
      (hstep : Step s move s') : Run (moves ++ [move]) s'

/-- The slots tell which spans are open, and hence on which threads another is refused. No thread
has two. -/
structure Truthful (s : Threads) : Prop where
  active_iff : ∀ thread op, s.slots thread = some op ↔ ⟨thread, op⟩ ∈ s.alive
  refused_iff : ∀ thread op,
    (∃ e, s.slots.enter thread op = .error e) ↔ ∃ span ∈ s.alive, span.thread = thread
  alone : (s.alive.map OpenSpan.thread).Nodup

/-- The slots are truthful at every moment, and no span that is given up empties the slot of another
thread. -/
structure Orderly (moves : List Move) : Prop where
  truthful : ∀ before s, before <+: moves → Run before s → s.Truthful
  confined : ∀ before s s' thread span, before ++ [.drop thread span] <+: moves → Run before s →
    Step s (.drop thread span) s' → ∀ other ≠ span.thread, s'.slots other = s.slots other

/-- Every span is given up on the thread that it was entered on. -/
def Home (moves : List Move) : Prop :=
  ∀ thread span, .drop thread span ∈ moves → thread = span.thread

theorem truthful_of_active {s : Threads}
    (hactive : ∀ thread op, s.slots thread = some op ↔ ⟨thread, op⟩ ∈ s.alive)
    (halone : (s.alive.map OpenSpan.thread).Nodup) : s.Truthful := by
  refine ⟨hactive, ?_, halone⟩
  intro thread op
  rw [Span.Slots.enter_eq_error_iff]
  constructor
  . rintro ⟨active, hslot⟩
    exact ⟨_, (hactive thread active).mp hslot, rfl⟩
  . rintro ⟨⟨_, active⟩, hmem, rfl⟩
    exact ⟨active, (hactive _ active).mpr hmem⟩

theorem Truthful.not_mem_erase {s : Threads} (h : s.Truthful) (span : OpenSpan)
    : span ∉ s.alive.erase span := by
  exact h.alone.of_map.not_mem_erase

theorem Truthful.not_mem_of_free {s : Threads} (h : s.Truthful) {thread : Nat}
    (hfree : s.slots thread = none) (op : String) : ⟨thread, op⟩ ∉ s.alive := by
  rw [← h.active_iff, hfree]
  nofun

theorem Truthful.entered {s : Threads} (h : s.Truthful) {thread : Nat}
    (hfree : s.slots thread = none) (op : String)
    : Truthful ⟨fun t => if t = thread then some op else s.slots t, ⟨thread, op⟩ :: s.alive⟩ := by
  apply truthful_of_active
  . intro t op'
    rw [List.mem_cons]
    by_cases ht : t = thread
    . subst ht
      have hnone := h.not_mem_of_free hfree op'
      simp [hnone, eq_comm]
    . simp [ht, h.active_iff]
  . rw [List.map_cons, List.nodup_cons]
    refine ⟨?_, h.alone⟩
    intro hmem
    have ⟨⟨_, active⟩, halive, hthread⟩ := List.mem_map.mp hmem
    subst hthread
    exact h.not_mem_of_free hfree active halive

theorem Truthful.dropped {s : Threads} (h : s.Truthful) {span : OpenSpan} (hmem : span ∈ s.alive)
    : Truthful ⟨s.slots.leave span.thread, s.alive.erase span⟩ := by
  apply truthful_of_active
  . intro t op
    dsimp only
    by_cases ht : t = span.thread
    . subst ht
      rw [s.slots.leave_self]
      constructor
      . nofun
      . intro herase
        have hslot := (h.active_iff _ _).mpr (List.mem_of_mem_erase herase)
        rw [(h.active_iff span.thread span.op).mpr hmem] at hslot
        cases hslot
        exact absurd herase (h.not_mem_erase span)
    . rw [s.slots.leave_of_ne ht, h.active_iff, List.mem_erase_of_ne]
      rintro rfl
      exact ht rfl
  . exact h.alone.sublist (List.erase_sublist.map _)

theorem Truthful.step {s s' : Threads} {move : Move} (h : s.Truthful) (hstep : Step s move s')
    (hhome : Home [move]) : s'.Truthful := by
  cases hstep with
  | refused => exact h
  | @entered thread op slots hentered =>
    have ⟨hfree, hslots⟩ := Span.Slots.enter_eq_ok hentered
    subst hslots
    exact h.entered hfree op
  | @dropped span thread hmem =>
    have hthread := hhome thread span (List.mem_singleton.mpr rfl)
    subst hthread
    exact h.dropped hmem

theorem Run.truthful {moves : List Move} {s : Threads} (h : Run moves s) (hhome : Home moves)
    : s.Truthful := by
  induction h with
  | nothing =>
    apply truthful_of_active
    . intro thread op
      simp
    . exact List.nodup_nil
  | step _ hstep ih =>
    apply (ih ?_).step hstep
    . intro thread span hmem
      exact hhome thread span (List.mem_append_right _ hmem)
    . intro thread span hmem
      exact hhome thread span (List.mem_append_left _ hmem)

/-- What is left of a span that is given up on a thread which is not its own. -/
structure Astray (s s' : Threads) (thread : Nat) (span : OpenSpan) : Prop where
  stale : s'.slots span.thread = some span.op
  vacant : ∀ other ∈ s'.alive, other.thread ≠ span.thread
  forgotten : ∀ op, s.slots thread = some op → s'.slots thread = none ∧ ⟨thread, op⟩ ∈ s'.alive

theorem Truthful.astray {s s' : Threads} (h : s.Truthful) {thread : Nat} {span : OpenSpan}
    (hstep : Step s (.drop thread span) s') (hthread : thread ≠ span.thread)
    : Astray s s' thread span := by
  cases hstep with
  | dropped _ hmem =>
    have hslot := (h.active_iff span.thread span.op).mpr hmem
    constructor
    . dsimp only
      rw [s.slots.leave_of_ne (Ne.symm hthread)]
      exact hslot
    . rintro ⟨t, op⟩ hother rfl
      have hslot' := (h.active_iff _ op).mpr (List.mem_of_mem_erase hother)
      rw [hslot] at hslot'
      cases hslot'
      exact h.not_mem_erase span hother
    . intro op hopen
      refine ⟨s.slots.leave_self thread, ?_⟩
      rw [List.mem_erase_of_ne]
      . exact (h.active_iff thread op).mp hopen
      . rintro rfl
        exact hthread rfl

section

variable {moves : List Move} {s : Threads} (h : Run moves s)
include h

theorem Run.entered (thread : Nat) (op : String) (hfree : s.slots thread = none)
    : Run (moves ++ [.enter thread op])
        ⟨fun t => if t = thread then some op else s.slots t, ⟨thread, op⟩ :: s.alive⟩ := by
  exact h.step (.entered (Span.Slots.enter_of_none hfree op))

theorem Run.dropped (thread : Nat) (span : OpenSpan) (hmem : span ∈ s.alive)
    : Run (moves ++ [.drop thread span]) ⟨s.slots.leave thread, s.alive.erase span⟩ := by
  exact h.step (.dropped thread hmem)

end

theorem Run.exists_step {moves : List Move} {move : Move} {s' : Threads}
    (h : Run (moves ++ [move]) s') : ∃ s, Run moves s ∧ Step s move s' := by
  generalize hmoves : moves ++ [move] = all at h
  cases h with
  | nothing => exact absurd hmoves (List.append_ne_nil_of_right_ne_nil _ (List.cons_ne_nil _ _))
  | step h hstep =>
    have ⟨hbefore, hlast⟩ := List.append_inj' hmoves rfl
    cases hbefore
    cases hlast
    exact ⟨_, h, hstep⟩

theorem Run.exists_before {before moves : List Move} (hbefore : before <+: moves) {s : Threads}
    (h : Run moves s) : ∃ s', Run before s' := by
  induction h with
  | nothing =>
    rw [List.prefix_nil.mp hbefore]
    exact ⟨_, .nothing⟩
  | step h hstep ih =>
    rcases List.prefix_concat_iff.mp hbefore with rfl | hbefore
    . exact ⟨_, h.step hstep⟩
    . exact ih hbefore

theorem Orderly.home {moves : List Move} {s : Threads} (horderly : Orderly moves)
    (h : Run moves s) : Home moves := by
  intro thread span hmem
  obtain ⟨before, after, rfl⟩ := List.append_of_mem hmem
  rw [List.append_cons] at h horderly
  have hbefore := List.prefix_append (before ++ [.drop thread span]) after
  have ⟨s', hrun'⟩ := h.exists_before hbefore
  have ⟨s₁, hrun₁, hstep⟩ := hrun'.exists_step
  have htruthful := horderly.truthful before s₁ ((List.prefix_append _ _).trans hbefore) hrun₁
  have htruthful' := horderly.truthful _ s' hbefore hrun'
  -- A span given up elsewhere leaves its name in its slot, which is not truthful any more.
  by_contra hthread
  have hastray := htruthful.astray hstep hthread
  exact hastray.vacant _ ((htruthful'.active_iff _ _).mp hastray.stale) rfl

theorem Home.orderly {moves : List Move} (hhome : Home moves) : Orderly moves := by
  constructor
  . intro before s hbefore hrun
    apply hrun.truthful
    intro thread span hmem
    exact hhome thread span (hbefore.mem hmem)
  . intro before s s' thread span hbefore _ hstep other hother
    have hmem : .drop thread span ∈ before ++ [.drop thread span] := by
      simp
    have hthread := hhome thread span (hbefore.mem hmem)
    cases hstep with
    | dropped =>
      subst hthread
      exact s.slots.leave_of_ne hother

/-- The slots are truthful exactly in the runs in which every span is given up on the thread that it was
entered on. -/
theorem orderly_iff_home {moves : List Move} {s : Threads} (h : Run moves s)
    : (Orderly moves ↔ Home moves) ∧
      (Home moves → ∀ thread span s', Step s (.drop thread span) s' → thread ≠ span.thread →
        Astray s s' thread span) := by
  constructor
  . constructor
    . intro horderly
      exact horderly.home h
    . exact Home.orderly
  . intro hhome thread span s' hstep hthread
    exact (h.truthful hhome).astray hstep hthread

theorem orderly_on_two_threads
    : let moves : List Move := [.enter 0 "chdir", .enter 1 "getcwd", .drop 0 ⟨0, "chdir"⟩]
      (∃ s, Run moves s ∧ s.alive = [⟨1, "getcwd"⟩]) ∧ Orderly moves := by
  intro moves
  have hentered := (Run.nothing.entered 0 "chdir" rfl).entered 1 "getcwd" rfl
  have hrun := hentered.dropped 0 ⟨0, "chdir"⟩ (by simp)
  refine ⟨⟨_, hrun, rfl⟩, (orderly_iff_home hrun).1.mpr ?_⟩
  rintro thread span hmem
  have hdrop : Move.drop thread span = .drop 0 ⟨0, "chdir"⟩ := by
    simpa [moves] using hmem
  cases hdrop
  rfl

/-- Giving a span up on another thread leaves a thread refusing spans although none is open on it,
or open to a second one. -/
theorem spans_given_up_elsewhere
    : let stale : List Move := [.enter 0 "chdir", .drop 1 ⟨0, "chdir"⟩]
      let nested : List Move :=
        [.enter 0 "chdir", .enter 1 "getcwd", .drop 0 ⟨1, "getcwd"⟩, .enter 0 "close"]
      (∃ s, Run stale s ∧ s.alive = [] ∧ s.slots 0 = some "chdir" ∧
          s.slots.enter 0 "close" = .error (.reentrant "close" "chdir")) ∧
        (∃ s, Run nested s ∧ s.alive = [⟨0, "close"⟩, ⟨0, "chdir"⟩]) ∧
        ¬ Orderly stale ∧ ¬ Orderly nested := by
  intro stale nested
  have hchdir := Run.nothing.entered 0 "chdir" rfl
  have hstale : Run stale _ := hchdir.dropped 1 _ (List.mem_singleton.mpr rfl)
  have hgetcwd := (hchdir.entered 1 "getcwd" rfl).dropped 0 _ List.mem_cons_self
  have hnested : Run nested _ := hgetcwd.entered 0 "close" rfl
  refine ⟨⟨_, hstale, rfl, rfl, rfl⟩, ⟨_, hnested, rfl⟩, ?_, ?_⟩
  . intro horderly
    have htruthful := horderly.truthful stale _ (List.prefix_refl _) hstale
    have hmem := (htruthful.active_iff 0 "chdir").mp rfl
    cases hmem
  . intro horderly
    have htruthful := horderly.truthful nested _ (List.prefix_refl _) hnested
    have halone : [0, 0].Nodup := htruthful.alone
    exact absurd halone (by decide)

end Threads

end NativeCall
