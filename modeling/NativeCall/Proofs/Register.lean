import NativeCall.Host.Tracking
import NativeCall.Posix.Kernel
import NativeCall.Proofs.Precedence
import NativeCall.Table.BuiltIn

/-!
This module contains what refused calls do to the error register. Unlike calls that get to an arm,
they do not put it back once they have written to the log.
-/

namespace NativeCall

variable {κ η : Type}

/-- Lines that are written by a logger that leaves the register alone leave it alone. -/
theorem Logger.through_of_quiet {logger : Logger} (h : ∀ log line e, logger log line e = e)
    (log : Array LogLine) (lines : List LogLine) (e : Errno) : logger.through log lines e = e := by
  induction lines generalizing log with
  | nil => rfl
  | cons line lines ih => rw [through, h, ih]

/-- A logger that always leaves the same code has the last word. -/
theorem Logger.through_of_loud {logger : Logger} {code : Errno}
    (h : ∀ log line e, logger log line e = code) (log : Array LogLine) (line : LogLine)
    (lines : List LogLine) (e : Errno) : logger.through log (line :: lines) e = code := by
  induction lines generalizing log line e with
  | nil => rw [through, through, h]
  | cons next lines ih => rw [through, ih]

theorem BindingConfig.refusalLines_ne_nil (config : BindingConfig) (site : String)
    (args : List Variant) (e : CallError) : config.refusalLines site args e ≠ [] := by
  unfold refusalLines
  split <;> simp

namespace BoundOperation

theorem errno_call_of_refused {b : BoundOperation κ η} {args : List Variant} {w : World κ η}
    {e : CallError} (h : b.operation.Refused args.length w.span e) (platform : Platform κ η)
    (site : String)
    : (b.call platform site args w).2.errno =
        platform.logger.through w.log (b.config.refusalLines site args e) w.errno := by
  rw [b.call_of_refused platform site args h]
  rfl

/-- The register that a refused call leaves is what its logger makes of the one on entry. -/
theorem refused_register {b : BoundOperation κ η} {args : List Variant} {w : World κ η}
    {e : CallError} (h : b.operation.Refused args.length w.span e) (platform : Platform κ η)
    (site : String)
    : (b.call platform site args w).1 = .error e ∧
      ((b.call platform site args w).2.errno = w.errno ↔
        platform.logger.through w.log (b.config.refusalLines site args e) w.errno = w.errno) ∧
      ((∀ log line code, platform.logger log line code = code) →
        (b.call platform site args w).2.errno = w.errno) ∧
      ∀ code, (∀ log line before, platform.logger log line before = code) →
        (b.call platform site args w).2.errno = code := by
  rw [errno_call_of_refused h]
  refine ⟨?_, Iff.rfl, ?_, ?_⟩
  . rw [b.call_of_refused platform site args h]
  . intro hquiet
    rw [Logger.through_of_quiet hquiet]
  . intro code hloud
    have ⟨line, lines, hlines⟩ :=
      List.exists_cons_of_ne_nil (b.config.refusalLines_ne_nil site args e)
    rw [hlines, Logger.through_of_loud hloud]

theorem chdir_refused_register
    : let b : BoundOperation Posix TrackedDirectory :=
        ⟨Table.chdir, { traceCalls := true }⟩
      let platform : Platform Posix TrackedDirectory :=
        ⟨Posix.kernel, .tracking Posix.kernel, fun _ _ _ => ⟨9⟩⟩
      let w : World Posix TrackedDirectory := ⟨⟨.fresh, ⟨5⟩, .initial⟩, none, #[], ⟨Path.root⟩⟩
      (b.call platform "here" [] w).1 = .error (.arityMismatch "chdir" 1 0) ∧
        (b.call platform "here" [] w).2.errno = ⟨9⟩ := by
  intro b platform w
  have hrefused : b.operation.Refused 0 w.span (.arityMismatch "chdir" 1 0) := by
    exact .miscounted (by decide)
  have ⟨hresult, _, _, hloud⟩ := @refused_register _ _ b [] w _ hrefused platform "here"
  exact ⟨hresult, hloud ⟨9⟩ fun _ _ _ => rfl⟩

/-- A logger that leaves the code 9, as when it writes to a closed file, is noticed behind a refused
call, whichever check the call fails. -/
theorem register_lost_by_refused_calls
    : let platform : Platform Posix TrackedDirectory :=
        ⟨Posix.kernel, .tracking Posix.kernel, fun _ _ _ => ⟨9⟩⟩
      let w : World Posix TrackedDirectory := ⟨⟨.fresh, ⟨5⟩, .initial⟩, none, #[], ⟨Path.root⟩⟩
      let chdir : BoundOperation Posix TrackedDirectory := ⟨Table.chdir, {}⟩
      let putenv : BoundOperation Posix TrackedDirectory := ⟨Table.missing "putenv" 1, {}⟩
      let inside := { w with span := some "getcwd" }
      (chdir.call platform "here" [] w).2.errno ≠ w.errno ∧
        (putenv.call platform "here" [.str "A=1"] w).2.errno ≠ w.errno ∧
        (chdir.call platform "here" [.str "/"] inside).2.errno ≠ inside.errno := by
  refine ⟨?_, ?_, ?_⟩
  all_goals decide

end BoundOperation

end NativeCall
