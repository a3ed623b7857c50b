import NativeCall.Host.Tracking
import NativeCall.Proofs.Conduct
import NativeCall.Proofs.Filling
import NativeCall.Proofs.Notices
import NativeCall.Proofs.Reentry
import NativeCall.Proofs.Residence

/-!
This module contains that the host which keeps track of the working directory knows it as the system
does, from a change of directory on until a file is renamed or a directory is removed.
-/

namespace NativeCall

variable {κ : Type}

def Platform.tracking (kernel : Kernel κ) (logger : Logger) : Platform κ TrackedDirectory :=
  ⟨kernel, .tracking kernel, logger⟩

namespace World

variable (kernel : Kernel κ)

def Known (w : World κ TrackedDirectory) : Prop :=
  kernel.workingDirectory w.os = .ok w.host.path

/-- The process, if it was in a directory at all, is still in the same one in the world `w'`, and the
host knows of no other. -/
structure Stays (Sound : κ → Prop) (w w' : World κ TrackedDirectory) : Prop where
  sound : Sound w'.os
  directory : ∀ cwd, kernel.workingDirectory w.os = .ok cwd →
    kernel.workingDirectory w'.os = .ok cwd
  host : w'.host = w.host

variable {kernel} {Sound : κ → Prop} {w w' : World κ TrackedDirectory}

theorem Stays.known (h : w.Stays kernel Sound w') (hknown : w.Known kernel) : w'.Known kernel := by
  unfold Known
  rw [h.host]
  exact h.directory _ hknown

end World

namespace Conduct

variable {kernel : Kernel κ} {Sound : κ → Prop} {logger : Logger} {name : String}
  {args : List Variant} {w w' : World κ TrackedDirectory}
  (h : Conduct (.tracking kernel logger) name args w w')
include h

theorem host_eq (hname : name ≠ "chdir") : w'.host = w.host := by
  induction h with
  | nothing => rfl
  | requested _ _ _ ih => exact ih
  | directory _ ih => exact ih
  | constant _ _ ih => exact ih
  | told _ hchdir _ _ => exact absurd hchdir hname
  | turned _ _ _ _ _ ih => exact ih

variable (hkernel : kernel.Locates Sound) (hsound : Sound w.os)
include hkernel hsound

theorem sound : Sound w'.os := by
  induction h with
  | nothing => exact hsound
  | @requested w' _ _ p _ ih => exact hkernel.sound p w'.toMachine ih
  | directory _ ih => exact ih
  | constant _ _ ih => exact ih
  | told _ _ _ ih => exact ih
  | turned _ _ _ _ _ ih => exact ih

theorem stays (hname : name ∉ relocations) : w.Stays kernel Sound w' := by
  have hchdir : name ≠ "chdir" := by
    rintro rfl
    exact hname List.mem_cons_self
  refine ⟨h.sound hkernel hsound, ?_, h.host_eq hchdir⟩
  intro cwd hcwd
  induction h with
  | nothing => exact hcwd
  | @requested w' h _ p htakes ih =>
    have hoperation : p.operation ∉ relocations := by
      rwa [htakes.operation]
    exact hkernel.stays p w'.toMachine (h.sound hkernel hsound) hoperation cwd ih
  | directory _ ih => exact ih
  | constant _ _ ih => exact ih
  | told _ htold _ _ => exact absurd htold hchdir
  | turned _ _ _ _ _ ih => exact ih

end Conduct

/-- The arguments name the directory `target`, and no span is open. -/
structure Directed (args : List Variant) (w : World κ TrackedDirectory) (path : String)
    (target : CString) : Prop where
  named : args = [.str path]
  target : CString.ofText? path = some target
  outside : w.span = none

theorem Directed.unique {args : List Variant} {w : World κ TrackedDirectory} {path path' : String}
    {target target' : CString} (h : Directed args w path target)
    (h' : Directed args w path' target') : target = target' := by
  cases h.named.symm.trans h'.named
  exact Option.some.inj (h.target.symm.trans h'.target)

/-- What comes of a call to change the directory: it is refused, the system fails to change the
directory, or it has changed it and the host has taken notice. -/
inductive Relocated (kernel : Kernel κ) (args : List Variant) (w : World κ TrackedDirectory)
    : Except CallError Variant × World κ TrackedDirectory → Prop where
  | refused {e : CallError} {w' : World κ TrackedDirectory}
      (hargs : ∀ path target, ¬ Directed args w path target) (hos : w'.os = w.os)
      (hhost : w'.host = w.host) : Relocated kernel args w (.error e, w')
  | failed {path : String} {target : CString} {w' : World κ TrackedDirectory}
      (hargs : Directed args w path target)
      (hanswer : (kernel.run (.chdir target) w.toMachine).1 = -1)
      (hos : w'.os = (kernel.run (.chdir target) w.toMachine).2.os) (hhost : w'.host = w.host)
      : Relocated kernel args w (.ok (.int (-1)), w')
  | changed {path : String} {target : CString} {w' : World κ TrackedDirectory}
      (hargs : Directed args w path target)
      (hanswer : (kernel.run (.chdir target) w.toMachine).1 ≠ -1)
      (hos : w'.os = (kernel.run (.chdir target) w.toMachine).2.os)
      (hhost : w'.host = w.host.changed kernel w'.os path)
      : Relocated kernel args w (.ok (.int (kernel.run (.chdir target) w.toMachine).1), w')

namespace BoundOperation

variable (config : BindingConfig) (kernel : Kernel κ) (logger : Logger) (site : String)

theorem call_chdir_of_str (path : String) {w : World κ TrackedDirectory}
    (hadmits : (⟨Table.chdir, config⟩ : BoundOperation κ TrackedDirectory).Admits [.str path] w)
    : Relocated kernel [.str path] w
        ((⟨Table.chdir, config⟩ : BoundOperation κ TrackedDirectory).call
          (.tracking kernel logger) site [.str path] w) := by
  have ⟨log, hentered⟩ := entered_eq ⟨Table.chdir, config⟩ (.tracking kernel logger) site
    [.str path] w
  have hrun := chdir_dispatch (.tracking kernel logger) path
    (entered ⟨Table.chdir, config⟩ (.tracking kernel logger) site [.str path] w)
  cases htarget : CString.ofText? path with
  | none =>
    have hargs : ∀ path' target, ¬ Directed [.str path] w path' target := by
      rintro path' target ⟨⟨⟩, hsome, _⟩
      cases htarget.symm.trans hsome
    rw [htarget] at hrun
    have ⟨_, hcall⟩ := call_eq _ _ site _ hadmits hrun
    rw [hcall, resumed_of_error, hentered]
    exact .refused hargs rfl rfl
  | some target =>
    have hargs : Directed [.str path] w path target := ⟨rfl, htarget, hadmits.outside⟩
    rcases hafter : (Platform.tracking kernel logger).run (.chdir target)
      (entered ⟨Table.chdir, config⟩ (.tracking kernel logger) site [.str path] w)
      with ⟨answer, after⟩
    simp only [htarget, hafter] at hrun
    have ⟨_, hcall⟩ := call_eq _ _ site _ hadmits hrun
    rw [hentered] at hafter
    have hanswer : (kernel.run (.chdir target) w.toMachine).1 = answer := congrArg Prod.fst hafter
    have hos : (kernel.run (.chdir target) w.toMachine).2.os = after.os :=
      congrArg (·.2.os) hafter
    have hhost : w.host = after.host := congrArg (·.2.host) hafter
    rw [hcall]
    by_cases hfailure : answer = -1
    . subst hfailure
      rw [sentinel_eq_error_iff.mpr ⟨rfl, rfl⟩, resumed_of_failure _ _ _ rfl]
      exact .failed hargs hanswer hos.symm hhost.symm
    . have hsuccess : sentinel answer after.errno = .ok answer := if_neg hfailure
      rw [hsuccess, resumed_of_success _ _ _ rfl]
      subst hanswer
      refine .changed hargs hfailure hos.symm ?_
      rw [hhost]
      rfl

theorem call_chdir (args : List Variant) (w : World κ TrackedDirectory)
    : Relocated kernel args w
        ((⟨Table.chdir, config⟩ : BoundOperation κ TrackedDirectory).call
          (.tracking kernel logger) site args w) := by
  by_cases hadmits : (⟨Table.chdir, config⟩ : BoundOperation κ TrackedDirectory).Admits args w
  . have ⟨log, hentered⟩ := entered_eq ⟨Table.chdir, config⟩ (.tracking kernel logger) site args w
    have ⟨v, hargs⟩ := List.length_eq_one_iff.mp hadmits.arity
    subst hargs
    cases v with
    | str path => exact call_chdir_of_str config kernel logger site path hadmits
    | nil | bool | int | float | symbol | pointer =>
      have ⟨_, hcall⟩ := call_eq _ (.tracking kernel logger) site _ hadmits
        (dispatch_eq _ _ _ _ _)
      rw [hcall, hentered]
      exact .refused (by rintro _ _ ⟨⟨⟩, _, _⟩) rfl rfl
  . have ⟨e, w', hcall, hlogged, _⟩ := call_of_not_admits _ (.tracking kernel logger) site args
      hadmits
    have ⟨log, register, hw'⟩ := hlogged.eq
    rw [hcall, hw']
    refine .refused ?_ rfl rfl
    rintro path target ⟨rfl, _, hspan⟩
    exact hadmits ⟨rfl, nofun, hspan⟩

end BoundOperation

namespace Table

theorem find?_getcwd {η : Type} (config : BindingConfig)
    : (Registry.builtIn config : Registry κ η).find? "getcwd" = some getcwd := by
  rfl

end Table

theorem Request.getcwd_of_fits (op : String) {p : Pointer} (hp : p.address ≠ 0) {n : Int64}
    (hn : 0 ≤ n.toInt) (hfits : ∀ length, p.length = some length → n.toInt ≤ length.toNat)
    : getcwd ⟨op, [.pointer p, .int n]⟩ =
        .ok ⟨.getcwd p.address n.toUInt64, fun found register =>
          .value (if found then .ok (.pointer p) else .error register)⟩ := by
  have hsize := Invocation.toNat_toUInt64 hn
  have hcheck : View.check ⟨p.address, p.length, hp⟩ 0 n.toUInt64 = .ok () := by
    apply View.check_of_fits
    . rw [UInt64.toNat_zero, Nat.zero_add]
      exact n.toUInt64.toNat_lt
    . rw [UInt64.toNat_zero, Nat.zero_add]
      intro length hlength
      have := hfits length hlength
      omega
  unfold getcwd
  rw [Invocation.pointer_of_arg (p := p) rfl, Invocation.view_of_pointer rfl hp,
    Invocation.size_of_nonneg (n := n) rfl hn]
  change (do Invocation.memory _ 0 (View.check ⟨p.address, p.length, hp⟩ 0 n.toUInt64); _) = _
  rw [hcheck]
  rfl

namespace Registry

variable {kernel : Kernel κ} {w : World κ TrackedDirectory} (hspan : w.span = none)
include hspan

theorem getcwd_of_str (config : BindingConfig) (logger : Logger) (site text : String) (n : Int64)
    : Gives config (.tracking kernel logger) site "getcwd" [.str text, .int n] w
        (.ok (.str w.host.text)) w.memory := by
  have hselect : Dispatch.select "getcwd"
      (Table.getcwd.arms : List (Arm (CallPath κ TrackedDirectory))) [.str text, .int n] =
        .ok ⟨[.str, .int], .hostDirectory⟩ := by
    rfl
  refine gives_of_dispatch Table.getcwd (.ok (.value (.ok (.str w.host.text))))
    (Table.find?_getcwd config) rfl ⟨rfl, nofun, hspan⟩ rfl ?_
  intro log span
  exact Dispatch.dispatch_of_final hselect rfl nofun

variable {Sound : κ → Prop} (hkernel : kernel.Locates Sound) (hsound : Sound w.os)
include hkernel hsound

theorem getcwd_of_pointer {cwd : Path} (hcwd : kernel.workingDirectory w.os = .ok cwd)
    (config : BindingConfig) (logger : Logger) (site : String) {p : Pointer} (hp : p.address ≠ 0)
    {n : Int64} (hroom : cwd.length < n.toInt)
    (hfits : ∀ length, p.length = some length → n.toInt ≤ length.toNat)
    : ((builtIn config).call (.tracking kernel logger) site "getcwd" [.pointer p, .int n] w).1 =
          .ok (.pointer p) ∧
        w.memory.Stored p.address.toNat (cwd ++ [0])
          ((builtIn config).call (.tracking kernel logger) site "getcwd" [.pointer p, .int n]
            w).2.memory := by
  have hn : 0 ≤ n.toInt := by omega
  have hsize := Invocation.toNat_toUInt64 hn
  have hdecode := Request.getcwd_of_fits "getcwd" hp hn hfits
  have hselect : Dispatch.select "getcwd"
      (Table.getcwd.arms : List (Arm (CallPath (Traced κ) TrackedDirectory)))
      [.pointer p, .int n] = .ok (Table.arm [.pointer, .int] Request.getcwd) := by
    rfl
  have hcomes : ComesDownTo config (.tracking kernel logger) site Table.getcwd
      [.pointer p, .int n] w w.toMachine (.ok ⟨.getcwd p.address n.toUInt64, fun found register =>
        .value (if found then .ok (.pointer p) else .error register)⟩) := by
    rw [← hdecode]
    refine comesDownTo_of_native (Table.find?_getcwd config) rfl ⟨rfl, nofun, hspan⟩ hselect ?_
    intro plan hplan
    cases hdecode.symm.trans hplan
    nofun
  have ⟨hfound, hstored⟩ := hkernel.tells p.address n.toUInt64 w.toMachine hsound cwd hcwd
    (by omega)
  constructor
  . refine hcomes.result.trans ?_
    change BoundOperation.settle _ site (.ok (.value
      (if (kernel.run (.getcwd p.address n.toUInt64) w.toMachine).1 = true then _ else _))) = _
    rw [if_pos hfound]
    rfl
  . have hmachine : ((builtIn config).call (.tracking kernel logger) site "getcwd"
        [.pointer p, .int n] w).2.toMachine = _ := hcomes.machine
    rw [hmachine]
    exact hstored

end Registry

/-- The process can go to the directory for temporary files from the start. -/
theorem Posix.chdir_initial : initial.chdir [47, 116, 109, 112] = .ok { initial with cwd := 1 } := by
  have hwalk : initial.files.walk true FileTree.maxLinks FileTree.rootId [[116, 109, 112]] =
      .ok 1 := by
    simp only [FileTree.walk]
    rfl
  have hnode : initial.nodeAt [47, 116, 109, 112] true = .ok 1 := hwalk
  unfold Posix.chdir
  rw [hnode]
  rfl

namespace Turn

variable {η : Type}

def Relocates (platform : Platform κ η) (turn : Turn κ η) (w : World κ η) : Prop :=
  turn.name = "chdir" ∧ ∃ answer, (turn.call platform w).1 = .ok (.int answer) ∧ answer ≠ -1

/-- Whenever a call of the run changes the directory, the system can say where the process is
then. -/
def Located (platform : Platform κ η) : List (Turn κ η) → World κ η → Prop
  | [], _ => True
  | turn :: rest, w =>
    (turn.Relocates platform w →
      ∃ cwd, platform.kernel.workingDirectory (turn.call platform w).2.os = .ok cwd) ∧
      Located platform rest (turn.call platform w).2

/-- What other code does before the call leaves the process where it is, and the host alone. -/
def Aloof (kernel : Kernel κ) (Sound : κ → Prop) (turn : Turn κ TrackedDirectory) : Prop :=
  ∀ w, Sound w.os →
    w.Stays kernel Sound (turn.meanwhile w) ∧ (turn.meanwhile w).span = w.span

theorem Located.append {platform : Platform κ η} {earlier later : List (Turn κ η)} {w : World κ η}
    (h : Located platform (earlier ++ later) w)
    : Located platform later (run platform earlier w).2 := by
  induction earlier generalizing w with
  | nil => exact h
  | cons turn rest ih =>
    rw [List.cons_append] at h
    rw [run_cons]
    exact ih h.2

section Step

variable {kernel : Kernel κ} {Sound : κ → Prop} {logger : Logger} {turn : Turn κ TrackedDirectory}
  {w : World κ TrackedDirectory}

theorem conduct
    : Conduct (.tracking kernel logger) turn.name turn.args (turn.meanwhile w)
        (turn.call (.tracking kernel logger) w).2 := by
  rw [call_eq]
  apply Registry.untracedCall_conduct

theorem relocated (hname : turn.name = "chdir")
    : Relocated kernel turn.args (turn.meanwhile w) (turn.call (.tracking kernel logger) w) := by
  have hfound := (Registry.builtIn turn.config).call_of_find?_eq_some (.tracking kernel logger)
    turn.site turn.args (Table.find?_chdir turn.config)
  rw [← hname] at hfound
  rw [call_eq, hfound]
  apply BoundOperation.call_chdir

theorem os_of_directed (hname : turn.name = "chdir") {path : String} {target : CString}
    (hargs : Directed turn.args (turn.meanwhile w) path target)
    : (turn.call (.tracking kernel logger) w).2.os =
        (kernel.run (.chdir target) (turn.meanwhile w).toMachine).2.os := by
  have hrelocated : Relocated kernel _ _ (turn.call (.tracking kernel logger) w) := relocated hname
  generalize turn.call (.tracking kernel logger) w = run at *
  cases hrelocated with
  | refused hnone _ _ => exact absurd hargs (hnone path target)
  | failed hargs' _ hos _ => exact hargs.unique hargs' ▸ hos
  | changed hargs' _ hos _ => exact hargs.unique hargs' ▸ hos

theorem relocates_iff
    : turn.Relocates (.tracking kernel logger) w ↔
        turn.name = "chdir" ∧ ∃ path target, Directed turn.args (turn.meanwhile w) path target ∧
          (kernel.run (.chdir target) (turn.meanwhile w).toMachine).1 ≠ -1 := by
  unfold Relocates
  apply and_congr_right
  intro hname
  have hrelocated : Relocated kernel _ _ (turn.call (.tracking kernel logger) w) := relocated hname
  generalize turn.call (.tracking kernel logger) w = run at *
  constructor
  . rintro ⟨answer, hresult, hanswer⟩
    cases hrelocated with
    | refused => cases hresult
    | failed =>
      cases hresult
      contradiction
    | changed hargs hsuccess _ _ => exact ⟨_, _, hargs, hsuccess⟩
  . rintro ⟨path, target, hargs, hanswer⟩
    cases hrelocated with
    | refused hnone _ _ => exact absurd hargs (hnone path target)
    | failed hargs' hfailure _ _ =>
      obtain rfl := hargs.unique hargs'
      contradiction
    | changed _ hsuccess _ _ => exact ⟨_, rfl, hsuccess⟩

theorem known_of_relocates (h : turn.Relocates (.tracking kernel logger) w) {cwd : Path}
    (hcwd : kernel.workingDirectory (turn.call (.tracking kernel logger) w).2.os = .ok cwd)
    : (turn.call (.tracking kernel logger) w).2.Known kernel := by
  have ⟨hname, answer, hresult, hanswer⟩ := h
  have hrelocated : Relocated kernel _ _ (turn.call (.tracking kernel logger) w) := relocated hname
  generalize turn.call (.tracking kernel logger) w = run at *
  cases hrelocated with
  | refused => cases hresult
  | failed =>
    cases hresult
    contradiction
  | changed _ _ _ hhost =>
    unfold World.Known
    rw [hhost]
    unfold TrackedDirectory.changed
    rw [hcwd]

theorem span_of_relocates (h : turn.Relocates (.tracking kernel logger) w)
    : (turn.meanwhile w).span = none := by
  have ⟨_, _, _, hargs, _⟩ := relocates_iff.mp h
  exact hargs.outside

theorem call_span
    : (turn.call (.tracking kernel logger) w).2.span = (turn.meanwhile w).span := by
  apply Registry.call_keepsSpan
  intro op hook hfind hhook
  rw [Registry.hook_eq_tellDirectory hfind hhook]
  intro w
  unfold Table.tellDirectory
  cases turn.args.head?.bind Variant.asStr? <;> rfl

theorem host_of_not_relocates (h : ¬ turn.Relocates (.tracking kernel logger) w)
    : (turn.call (.tracking kernel logger) w).2.host = (turn.meanwhile w).host := by
  by_cases hname : turn.name = "chdir"
  . have hrelocated : Relocated kernel _ _ (turn.call (.tracking kernel logger) w) := relocated hname
    unfold Relocates at h
    generalize turn.call (.tracking kernel logger) w = run at *
    cases hrelocated with
    | refused _ _ hhost => exact hhost
    | failed _ _ _ hhost => exact hhost
    | changed _ hanswer _ _ => exact absurd ⟨hname, _, rfl, hanswer⟩ h
  . exact conduct.host_eq hname

section Host

variable (hkernel : kernel.Locates Sound)
include hkernel

theorem stays_of_not_relocates (hsound : Sound (turn.meanwhile w).os) (hname : turn.name = "chdir")
    (h : ¬ turn.Relocates (.tracking kernel logger) w)
    : (turn.meanwhile w).Stays kernel Sound (turn.call (.tracking kernel logger) w).2 := by
  have hrelocated : Relocated kernel _ _ (turn.call (.tracking kernel logger) w) := relocated hname
  unfold Relocates at h
  generalize turn.call (.tracking kernel logger) w = run at *
  generalize turn.meanwhile w = v at *
  cases hrelocated with
  | refused _ hos hhost =>
    refine ⟨hos ▸ hsound, ?_, hhost⟩
    rw [hos]
    exact fun _ => id
  | @failed _ target _ _ hanswer hos hhost =>
    refine ⟨hos ▸ hkernel.sound (.chdir target) v.toMachine hsound, ?_, hhost⟩
    rw [hos]
    exact hkernel.fails target v.toMachine hsound hanswer
  | changed _ hanswer _ _ => exact absurd ⟨hname, _, rfl, hanswer⟩ h

variable (haloof : turn.Aloof kernel Sound) (hsound : Sound w.os)
include haloof hsound

theorem call_sound : Sound (turn.call (.tracking kernel logger) w).2.os := by
  have ⟨hstays, _⟩ := haloof w hsound
  exact conduct.sound hkernel hstays.sound

theorem call_known (hknown : w.Known kernel) (hname : turn.name ≠ "rename" ∧ turn.name ≠ "rmdir")
    (hlocated : turn.Relocates (.tracking kernel logger) w →
      ∃ cwd, kernel.workingDirectory (turn.call (.tracking kernel logger) w).2.os = .ok cwd)
    : (turn.call (.tracking kernel logger) w).2.Known kernel := by
  have ⟨hstays, _⟩ := haloof w hsound
  have hmeanwhile := hstays.known hknown
  by_cases hrelocates : turn.Relocates (.tracking kernel logger) w
  . have ⟨cwd, hcwd⟩ := hlocated hrelocates
    exact known_of_relocates hrelocates hcwd
  . by_cases hchdir : turn.name = "chdir"
    . exact (stays_of_not_relocates hkernel hstays.sound hchdir hrelocates).known hmeanwhile
    . have hother : turn.name ∉ relocations := by
        unfold relocations
        simp [hchdir, hname]
      exact (conduct.stays hkernel hstays.sound hother).known hmeanwhile

end Host

end Step

section Run

variable {kernel : Kernel κ} {Sound : κ → Prop} (hkernel : kernel.Locates Sound) (logger : Logger)
  {turns : List (Turn κ TrackedDirectory)} {w : World κ TrackedDirectory}
  (haloof : ∀ turn ∈ turns, turn.Aloof kernel Sound) (hsound : Sound w.os)
include hkernel haloof hsound

theorem run_sound : Sound (run (.tracking kernel logger) turns w).2.os := by
  induction turns generalizing w with
  | nil => exact hsound
  | cons turn rest ih =>
    have ⟨hturn, hrest⟩ := List.forall_mem_cons.mp haloof
    rw [run_cons]
    exact ih hrest (call_sound hkernel hturn hsound)

theorem run_span : (run (.tracking kernel logger) turns w).2.span = w.span := by
  induction turns generalizing w with
  | nil => rfl
  | cons turn rest ih =>
    have ⟨hturn, hrest⟩ := List.forall_mem_cons.mp haloof
    have ⟨_, hspan⟩ := hturn w hsound
    rw [run_cons, ih hrest (call_sound hkernel hturn hsound), call_span, hspan]

theorem run_known (hknown : w.Known kernel)
    (hnames : ∀ turn ∈ turns, turn.name ≠ "rename" ∧ turn.name ≠ "rmdir")
    (hlocated : Located (.tracking kernel logger) turns w)
    : (run (.tracking kernel logger) turns w).2.Known kernel := by
  induction turns generalizing w with
  | nil => exact hknown
  | cons turn rest ih =>
    have ⟨hturn, hrest⟩ := List.forall_mem_cons.mp haloof
    have ⟨hname, hothers⟩ := List.forall_mem_cons.mp hnames
    have ⟨hhere, hlater⟩ := hlocated
    rw [run_cons]
    exact ih hrest (call_sound hkernel hturn hsound)
      (call_known hkernel hturn hsound hknown hname hhere) hothers hlater

end Run

end Turn

end NativeCall
