import NativeCall.Posix.Kernel
import NativeCall.Proofs.Figures
import NativeCall.Proofs.FileTrees
import NativeCall.Proofs.Storing

/-!
This module contains what a system does about the working directory of the process, and that the
in-memory system does it.
-/

namespace NativeCall

/-- The operations after which the process may be in a directory of another path. -/
def relocations : List String := ["chdir", "rename", "rmdir"]

/-- What a system does about the working directory of the process, as long as its state is sound. -/
structure Kernel.Locates {κ : Type} (kernel : Kernel κ) (Sound : κ → Prop) : Prop where
  sound : ∀ {reply : Reply} (p : Primitive reply) (m : Machine κ), Sound m.os →
    Sound (kernel.run p m).2.os
  /-- The other requests leave the path of the directory as it is. -/
  stays : ∀ {reply : Reply} (p : Primitive reply) (m : Machine κ), Sound m.os →
    p.operation ∉ relocations → ∀ cwd, kernel.workingDirectory m.os = .ok cwd →
      kernel.workingDirectory (kernel.run p m).2.os = .ok cwd
  /-- So does a change of directory that fails. -/
  fails : ∀ (target : CString) (m : Machine κ), Sound m.os → (kernel.run (.chdir target) m).1 = -1 →
    ∀ cwd, kernel.workingDirectory m.os = .ok cwd →
      kernel.workingDirectory (kernel.run (.chdir target) m).2.os = .ok cwd
  /-- The path is written into a buffer that has room for it and the zero behind it. -/
  tells : ∀ (buffer size : UInt64) (m : Machine κ), Sound m.os →
    ∀ cwd, kernel.workingDirectory m.os = .ok cwd → cwd.length < size.toNat →
      (kernel.run (.getcwd buffer size) m).1 = true ∧
        m.memory.Stored buffer.toNat (cwd ++ [0]) (kernel.run (.getcwd buffer size) m).2.memory

/-- Whatever `x` yields satisfies `p`. -/
def Yields {α : Type} (x : Except Errno α) (p : α → Prop) : Prop :=
  ∀ a, x = .ok a → p a

namespace Yields

variable {α β : Type} {p : α → Prop} {q : β → Prop}

theorem pure {a : α} (h : p a) : Yields (Pure.pure a) p := by
  rintro _ ⟨⟩
  exact h

theorem ok {a : α} (h : p a) : Yields (.ok a) p := by
  exact pure h

theorem throw {e : Errno} : Yields (MonadExcept.throw e) p := by
  nofun

theorem error {e : Errno} : Yields (.error e) p := by
  nofun

theorem bind {x : Except Errno β} {f : β → Except Errno α}
    (h : ∀ b, x = .ok b → Yields (f b) p) : Yields (x >>= f) p := by
  cases hx : x with
  | error e => nofun
  | ok b => exact h b hx

theorem guarded {c : Prop} [Decidable c] {e : Errno} {rest : PUnit → Except Errno α}
    (h : ¬ c → Yields (rest ()) p)
    : Yields (if c then MonadExcept.throw e >>= rest else rest ()) p := by
  split
  . nofun
  . next hc => exact h hc

end Yields

namespace Posix

variable {s s' s'' : Posix}

/-- The tree of files is sound, and the process is in one of its directories. -/
structure Sound (s : Posix) : Prop where
  files : s.files.Sound
  inside : s.files.isDirectory s.cwd

/-- The process stays in its directory, and directories keep their names. -/
def Keeps (s s' : Posix) : Prop :=
  s.files.Sound → s.files.Keeps s'.files ∧ s'.cwd = s.cwd

theorem Keeps.of_eq (hfiles : s'.files = s.files) (hcwd : s'.cwd = s.cwd) : s.Keeps s' := by
  intro hsound
  rw [hfiles]
  exact ⟨.refl hsound, hcwd⟩

theorem Keeps.of_same (h : s' = s) : s.Keeps s' := by
  exact .of_eq (congrArg files h) (congrArg cwd h)

theorem Keeps.trans (h : s.Keeps s') (h' : s'.Keeps s'') : s.Keeps s'' := by
  intro hsound
  have ⟨hkeeps, hcwd⟩ := h hsound
  have ⟨hkeeps', hcwd'⟩ := h' hkeeps.sound
  exact ⟨hkeeps.trans hkeeps', hcwd'.trans hcwd⟩

theorem nodeAt_file_keeps (id : Nat) {f : FileNode → FileNode} (hf : ∀ n, (f n).content = n.content)
    : s.Keeps { s with files := s.files.update id f } := by
  intro hsound
  exact ⟨FileTree.keeps_update hsound hf, rfl⟩

theorem chmod_keeps (path : Path) (mode : UInt32) : Yields (s.chmod path mode) s.Keeps := by
  apply Yields.bind
  intro id _
  exact .pure (nodeAt_file_keeps id fun _ => rfl)

theorem chown_keeps (path : Path) (owner group : UInt32)
    : Yields (s.chown path owner group) s.Keeps := by
  apply Yields.bind
  intro id _
  exact .pure (nodeAt_file_keeps id fun _ => rfl)

theorem fchmod_keeps (fd : Int32) (mode : UInt32) : Yields (s.fchmod fd mode) s.Keeps := by
  apply Yields.bind
  rintro ⟨id, d⟩ _
  dsimp only
  split
  . exact .pure (nodeAt_file_keeps _ fun _ => rfl)
  . exact .pure (.of_eq rfl rfl)

theorem fchown_keeps (fd : Int32) (owner group : UInt32)
    : Yields (s.fchown fd owner group) s.Keeps := by
  apply Yields.bind
  intro described _
  split
  . exact .pure (nodeAt_file_keeps _ fun _ => rfl)
  . exact .pure (.of_eq rfl rfl)

theorem setTimes_keeps (path : Path) (accessed modified : Timestamp)
    : Yields (s.setTimes path accessed modified) s.Keeps := by
  apply Yields.bind
  intro id _
  exact .pure (nodeAt_file_keeps id fun _ => rfl)

theorem vacancy_free (t : FileTree) (cwd : Nat) (path : Path) (directory : Bool)
    : Yields (t.vacancy cwd path directory) fun place =>
        (t.entries place.1).lookup place.2 = none := by
  apply Yields.bind
  intro site _
  split
  . apply Yields.bind
    intro found hfound
    split
    . exact .throw
    . split
      . exact .throw
      . exact .pure (FileTree.lookup_eq_ok hfound)
  . exact .throw

theorem newNodeIn_content (directory : Nat) (content : FileContent) (mode : UInt32)
    : (s.newNodeIn directory content mode).content = content := by
  unfold newNodeIn
  split
  . split <;> rfl
  . rfl

theorem create_keeps {directory : Nat} {name : Path} (content : FileContent) (mode : UInt32)
    (hempty : ∀ parent entries, content = .directory parent entries → entries = [])
    (hname : (s.files.entries directory).lookup name = none)
    : s.Keeps (s.create directory name content mode).2 := by
  intro hsound
  refine ⟨?_, rfl⟩
  apply FileTree.keeps_add_enter hsound _ hname
  intro parent entries hcontent
  exact hempty parent entries ((newNodeIn_content directory content mode).symm.trans hcontent)

theorem link_keeps (existing new : Path) : Yields (s.link existing new) s.Keeps := by
  apply Yields.bind
  intro id _
  apply Yields.bind
  rintro ⟨directory, name⟩ hplace
  have hname := vacancy_free s.files s.cwd new false _ hplace
  apply Yields.guarded
  intro hid
  apply Yields.guarded
  intro _
  apply Yields.pure
  intro hsound
  have hentered := (FileTree.Keeps.refl hsound).enter hname hid
  exact ⟨hentered.trans (FileTree.keeps_countLinks id hentered.sound _), rfl⟩

theorem symlink_keeps (target path : Path) : Yields (s.symlink target path) s.Keeps := by
  apply Yields.bind
  intro _ _
  apply Yields.bind
  rintro ⟨directory, name⟩ hplace
  exact .pure (create_keeps _ _ nofun (vacancy_free _ _ _ _ _ hplace))

theorem mkdir_keeps (path : Path) (mode : UInt32) : Yields (s.mkdir path mode) s.Keeps := by
  apply Yields.bind
  rintro ⟨directory, name⟩ hplace
  apply Yields.pure
  apply create_keeps _ _ _ (vacancy_free _ _ _ _ _ hplace)
  rintro _ _ ⟨⟩
  rfl

theorem present_held (directory : Nat) (name : Path)
    : Yields (s.present directory name) fun id =>
        (s.files.entries directory).lookup name = some id := by
  apply Yields.bind
  intro found hfound
  split
  . exact .pure (FileTree.lookup_eq_ok hfound)
  . exact .throw

theorem unlink_keeps (path : Path) : Yields (s.unlink path) s.Keeps := by
  apply Yields.bind
  intro site _
  split
  . apply Yields.bind
    intro id hid
    have hname := present_held _ _ id hid
    apply Yields.guarded
    intro hfile
    apply Yields.guarded
    intro _
    apply Yields.pure
    intro hsound
    have hstruck := FileTree.keeps_strike hsound hname hfile
    exact ⟨hstruck.trans (FileTree.keeps_countLinks id hstruck.sound (· - 1)), rfl⟩
  . exact .throw

theorem bind_keeps (fd : Int32) (bytes : List UInt8) : Yields (s.bind fd bytes) s.Keeps := by
  apply Yields.bind
  rintro ⟨id, d, socket⟩ _
  apply Yields.guarded
  intro _
  apply Yields.bind
  intro target _
  split
  . split
    . exact .pure (.of_eq rfl rfl)
    . exact .pure (.of_eq rfl rfl)
  . next path =>
    apply Yields.bind
    rintro ⟨directory, name⟩ hplace
    apply Yields.guarded
    intro _
    apply Yields.pure
    have hname : (s.files.entries directory).lookup name = none := by
      split at hplace
      . next place hvacancy =>
        cases hplace
        exact vacancy_free _ _ _ _ _ hvacancy
      . cases hplace
    exact (create_keeps .socket _ nofun hname).trans (.of_eq rfl rfl)
  . apply Yields.guarded
    intro _
    apply Yields.guarded
    intro _
    exact .pure (.of_eq rfl rfl)

theorem Keeps.sound (h : s.Keeps s') (hsound : s.Sound) : s'.Sound := by
  have ⟨hkeeps, hcwd⟩ := h hsound.files
  refine ⟨hkeeps.sound, ?_⟩
  rw [hcwd]
  exact hkeeps.directory _ hsound.inside

theorem Sound.of_survives (hsound : s.Sound) {files : FileTree} (h : s.files.Survives files)
    : Sound { s with files := files } := by
  exact ⟨h.sound, h.directory _ hsound.inside⟩

theorem drop_sound (hsound : s.Sound) (directory : Nat) (name : Path) (id : Nat)
    : (s.drop directory name id).Sound := by
  have hstruck := FileTree.survives_strike hsound.files directory name
  have hcounted := FileTree.keeps_countLinks id hstruck.sound (· - 1)
  exact hsound.of_survives (hstruck.trans hcounted.toSurvives)

theorem drop_free (directory : Nat) (name : Path) (id : Nat)
    : ((s.drop directory name id).files.entries directory).lookup name = none := by
  have hentries := (s.files.strike directory name).entries_countLinks id (· - 1) directory
  exact (congrArg _ hentries).trans FileTree.lookup_strike_self

theorem move_sound (hsound : s.Sound) (source : Nat × Path) {target : Nat × Path} (id : Nat)
    (hname : (s.files.entries target.1).lookup target.2 = none)
    : (s.move source target id).Sound := by
  have hstruck := FileTree.survives_strike hsound.files source.1 source.2
  have hfree := FileTree.lookup_strike hname source.1 source.2
  have hentered := hstruck.trans (FileTree.survives_enter hstruck.sound hfree id)
  unfold move
  dsimp only
  split
  . exact hsound.of_survives
      (hentered.trans (FileTree.survives_setParent hentered.sound target.1))
  . exact hsound.of_survives hentered

theorem rmdir_sound (hsound : s.Sound) (path : Path) : Yields (s.rmdir path) Sound := by
  apply Yields.bind
  intro site _
  split
  . apply Yields.bind
    intro id _
    apply Yields.guarded
    intro _
    apply Yields.guarded
    intro _
    exact .pure (drop_sound hsound _ _ _)
  . exact .throw
  . exact .throw
  . exact .throw

theorem rename_sound (hsound : s.Sound) (source target : Path)
    : Yields (s.rename source target) Sound := by
  apply Yields.bind
  intro here _
  apply Yields.bind
  intro there _
  split
  . next oldName newName hold hnew =>
    apply Yields.bind
    intro old _
    apply Yields.bind
    intro new? hfound
    have hname := FileTree.lookup_eq_ok hfound
    apply Yields.guarded
    intro _
    apply Yields.guarded
    intro _
    split
    . exact .pure (move_sound hsound _ _ hname)
    . next new =>
      apply Yields.guarded
      intro _
      split
      . exact .pure hsound
      . apply Yields.guarded
        intro _
        apply Yields.guarded
        intro _
        apply Yields.guarded
        intro _
        apply Yields.pure
        apply move_sound (drop_sound hsound _ _ _)
        exact drop_free _ _ _
  . exact .throw

theorem chdir_sound (hsound : s.Sound) (path : Path) : Yields (s.chdir path) Sound := by
  apply Yields.bind
  intro id _
  split
  . next hdirectory => exact .pure ⟨hsound.files, hdirectory⟩
  . exact .throw

/-- Whatever comes of the request, it leaves the process in its directory, and directories their
names. -/
def Leaves {ε α : Type} (x : ExceptT ε (StateM (Machine Posix)) α) : Prop :=
  ∀ m : Machine Posix, m.os.Keeps (x m).2.os

namespace Leaves

variable {ε α β : Type}

theorem of_os {x : ExceptT ε (StateM (Machine Posix)) α} (h : ∀ m, (x m).2.os = m.os)
    : Leaves x := by
  intro m
  exact .of_same (h m)

theorem pure (a : α) : Leaves (Pure.pure a : ExceptT ε (StateM (Machine Posix)) α) := by
  exact of_os fun _ => rfl

theorem throw (e : ε) : Leaves (MonadExcept.throw e : ExceptT ε (StateM (Machine Posix)) α) := by
  exact of_os fun _ => rfl

theorem lift (x : Except ε α) : Leaves (liftM x : ExceptT ε (StateM (Machine Posix)) α) := by
  exact of_os fun _ => rfl

theorem bind {x : ExceptT ε (StateM (Machine Posix)) β}
    {f : β → ExceptT ε (StateM (Machine Posix)) α} (hx : Leaves x) (hf : ∀ b, Leaves (f b))
    : Leaves (x >>= f) := by
  intro m
  have hfirst := hx m
  show m.os.Keeps (ExceptT.bindCont f (x m).1 (x m).2).2.os
  cases (x m).1 with
  | error e => exact hfirst
  | ok b => exact hfirst.trans (hf b (x m).2)

theorem guarded {c : Prop} [Decidable c] {e : ε}
    {rest : PUnit → ExceptT ε (StateM (Machine Posix)) α} (h : ¬ c → Leaves (rest ()))
    : Leaves (if c then MonadExcept.throw e >>= rest else rest ()) := by
  split
  . exact of_os fun _ => rfl
  . next hc => exact h hc

theorem system : Leaves Syscall.system := by
  exact of_os fun _ => rfl

theorem readMemory (address : UInt64) (count : Nat) : Leaves (Syscall.readMemory address count) := by
  exact of_os fun _ => rfl

theorem writeMemory (address : UInt64) (data : List UInt8)
    : Leaves (Syscall.writeMemory address data) := by
  exact of_os fun _ => rfl

theorem readNat (address : UInt64) (width : Nat) : Leaves (Syscall.readNat address width) := by
  exact of_os fun _ => rfl

theorem change {f : Posix → Except Errno Posix} (h : ∀ s, Yields (f s) s.Keeps)
    : Leaves (Posix.change f) := by
  intro m
  show m.os.Keeps (ExceptT.bindCont (fun s => do Syscall.setSystem s; return 0) (f m.os) m).2.os
  cases hresult : f m.os with
  | error e => exact .of_eq rfl rfl
  | ok s => exact h m.os s hresult

theorem answer {f : Posix → Except Errno (Int64 × Posix)}
    (h : ∀ s, Yields (f s) fun r => s.Keeps r.2) : Leaves (Posix.answer f) := by
  intro m
  show m.os.Keeps (ExceptT.bindCont (fun r => do Syscall.setSystem r.2; return r.1) (f m.os)
    m).2.os
  cases hresult : f m.os with
  | error e => exact .of_eq rfl rfl
  | ok r => exact h m.os r hresult

/-- So does a request that goes on with the register and an answer. -/
theorem settled {x : ExceptT ε (StateM (Machine Posix)) α} (h : Leaves x)
    {f : Except ε α → StateM (Machine Posix) β} (hf : ∀ r m, (f r m).2.os = m.os)
    (m : Machine Posix) : m.os.Keeps ((x.run >>= f) m).2.os := by
  show m.os.Keeps (f (x m).1 (x m).2).2.os
  rw [hf]
  exact h m

theorem number {call : Syscall Int64} (h : Leaves call) (m : Machine Posix)
    : m.os.Keeps (Posix.number call m).2.os := by
  apply h.settled
  rintro (_ | _) _ <;> rfl

theorem numberOrZero {call : Syscall Int64} (h : Leaves call) (m : Machine Posix)
    : m.os.Keeps (Posix.numberOrZero call m).2.os := by
  apply h.settled
  rintro (_ | _) _ <;> rfl

theorem idList {call : Syscall IdList} (h : Leaves call) (m : Machine Posix)
    : m.os.Keeps (Posix.idList call m).2.os := by
  apply h.settled
  rintro (_ | _) _ <;> rfl

theorem flag {call : Syscall Unit} (h : Leaves call) (m : Machine Posix)
    : m.os.Keeps (Posix.flag call m).2.os := by
  apply h.settled
  rintro (_ | _) _ <;> rfl

end Leaves

theorem close_keeps (fd : Int32) : Yields (s.close fd) s.Keeps := by
  apply Yields.bind
  rintro ⟨n, d⟩ _
  apply Yields.pure
  unfold forget
  split <;> exact .of_eq rfl rfl

theorem flock_keeps (fd operation : Int32) : s.Keeps (s.flock fd operation).2 := by
  unfold flock
  split
  . exact .of_eq rfl rfl
  . split
    . exact .of_eq rfl rfl
    . split
      . exact .of_eq rfl rfl
      . dsimp only
        split
        . exact .of_eq rfl rfl
        . split
          . exact .of_eq rfl rfl
          . split <;> exact .of_eq rfl rfl

theorem flockCall_leaves (fd operation : Int32) : Leaves (flockCall fd operation) := by
  intro m
  have hos : (flockCall fd operation m).2.os = (m.os.flock fd operation).2 := by
    change ((do
      (m.os.flock fd operation).1
      return 0 : Syscall Int64) { m with os := (m.os.flock fd operation).2 }).2.os = _
    cases (m.os.flock fd operation).1 <;> rfl
  rw [hos]
  exact flock_keeps fd operation

theorem readTime_leaves (address : UInt64) : Leaves (readTime address) := by
  refine .bind (.bind (.readNat _ _) fun _ => .pure _) fun seconds => ?_
  refine .bind (.bind (.readNat _ _) fun _ => .pure _) fun micros => ?_
  apply Leaves.guarded
  intro _
  exact .pure _

theorem utimes_leaves (path : Path) (times : UInt64) : Leaves (utimes path times) := by
  refine .bind .system fun s => .bind (.lift _) fun _ => ?_
  refine .bind (readTime_leaves _) fun accessed => .bind (readTime_leaves _) fun modified => ?_
  exact .change fun s => setTimes_keeps path accessed modified

theorem writeName_leaves (target : UInt64) (length : UInt32) (text : List UInt8) (cut : Bool)
    : Leaves (writeName target length text cut) := by
  unfold writeName
  split
  . exact .of_os fun _ => rfl
  . cases cut <;> exact .of_os fun _ => rfl

theorem getnameinfo_leaves (source : UInt64) (length : UInt32) (host : UInt64)
    (hostLength : UInt32) (service : UInt64) (serviceLength : UInt32) (flags : Int32)
    : Leaves (getnameinfo source length host hostLength service serviceLength flags) := by
  apply Leaves.guarded
  intro _
  apply Leaves.guarded
  intro _
  refine .bind (.of_os fun _ => rfl) fun m => ?_
  apply Leaves.guarded
  intro _
  refine .bind (.lift _) fun names => ?_
  have hservice : Leaves (if service ≠ 0 ∧ serviceLength ≠ 0 then
      writeName service serviceLength names.2.1 names.2.2 else Pure.pure ()) := by
    split
    . exact writeName_leaves _ _ _ _
    . exact .pure _
  dsimp only
  split
  . apply Leaves.guarded
    intro _
    exact .bind (writeName_leaves _ _ _ _) fun _ => hservice
  . exact hservice

theorem getaddrinfo_os (host : CString) (service : Option CString) (hints result : UInt64)
    (m : Machine Posix) : (getaddrinfo host service hints result m).2.os = m.os := by
  have hrun : getaddrinfo host service hints result m = _ := StateT.run_bind get _ m
  rw [hrun]
  change Machine.os (Prod.snd ((_ : StateM (Machine Posix) Int64) m)) = m.os
  generalize Net.resolve _ _ _ = resolved
  cases resolved <;> rfl

theorem run_keeps {reply : Reply} (p : Primitive reply) (hother : p.operation ∉ relocations)
    (m : Machine Posix) : m.os.Keeps (Posix.run p m).2.os := by
  cases p with
  | chdir | rename | rmdir => simp [Primitive.operation, relocations] at hother
  | chmod path mode => exact Leaves.number (.change fun s => chmod_keeps path.bytes mode) m
  | chown path owner group =>
    exact Leaves.number (.change fun s => chown_keeps path.bytes owner group) m
  | link existing new =>
    exact Leaves.number (.change fun s => link_keeps existing.bytes new.bytes) m
  | symlink target path =>
    exact Leaves.number (.change fun s => symlink_keeps target.bytes path.bytes) m
  | unlink path => exact Leaves.number (.change fun s => unlink_keeps path.bytes) m
  | mkdir path mode => exact Leaves.number (.change fun s => mkdir_keeps path.bytes mode) m
  | close fd => exact Leaves.number (.change fun s => close_keeps fd) m
  | fchmod fd mode => exact Leaves.number (.change fun s => fchmod_keeps fd mode) m
  | fchown fd owner group => exact Leaves.number (.change fun s => fchown_keeps fd owner group) m
  | flock fd operation => exact Leaves.number (flockCall_leaves fd operation) m
  | bind fd target length =>
    refine Leaves.number (.bind (.readMemory target _) fun bytes => ?_) m
    exact .change fun s => bind_keeps fd bytes
  | utimes path times => exact Leaves.number (utimes_leaves path.bytes times) m
  | getaddrinfo host service hints result => exact .of_same (getaddrinfo_os host service hints result m)
  | getnameinfo target length host hostLength service serviceLength flags =>
    apply (getnameinfo_leaves target length host hostLength service serviceLength flags).settled
    rintro (_ | _) _ <;> rfl
  | getenv | environ | freeaddrinfo => exact .of_eq rfl rfl
  | setsid =>
    refine Leaves.number (.answer fun s => ?_) m
    unfold Posix.setsid
    split
    . exact .error
    . exact .ok (.of_eq rfl rfl)
  | getcwd | readlink | isatty | getuid | geteuid | getgid | getegid | getpid | getppid | getpgrp
  | getpgid | getpriority | getrlimit | gethostname | getsockopt | getpeername | getsockname
  | getgroups =>
    -- these read the system, and write to memory alone
    first
      | refine Leaves.number ?_ m
      | refine Leaves.numberOrZero ?_ m
      | refine Leaves.flag ?_ m
      | refine Leaves.idList ?_ m
    repeat' first
      | with_reducible exact Leaves.system
      | with_reducible exact Leaves.readNat _ _
      | with_reducible exact Leaves.writeMemory _ _
      | with_reducible exact Leaves.pure _
      | with_reducible exact Leaves.lift _
      | with_reducible refine Leaves.guarded fun _ => ?_
      | with_reducible refine Leaves.bind ?_ fun _ => ?_
      | dsimp -zeta only [Posix.getcwd, Posix.readlink, Posix.getrlimit, Posix.gethostname,
          Posix.getsockopt, writeAddress, writeSized, ask]
  | _ =>
    -- these change the system elsewhere than in its tree of files
    refine Leaves.number ?_ m
    repeat' first
      | with_reducible exact Leaves.readMemory _ _
      | with_reducible exact Leaves.readNat _ _
      | with_reducible exact Yields.throw
      | with_reducible exact Yields.error
      | with_reducible refine Leaves.guarded fun _ => ?_
      | with_reducible refine Leaves.bind ?_ fun _ => ?_
      | with_reducible refine Leaves.change fun s => ?_
      | with_reducible refine Leaves.answer fun s => ?_
      | with_reducible refine Yields.guarded fun _ => ?_
      | (with_reducible apply Yields.pure; exact .of_eq rfl rfl)
      | (with_reducible apply Yields.ok; exact .of_eq rfl rfl)
      | with_reducible refine Yields.bind fun _ _ => ?_
      | split
      | dsimp -zeta only [setsockopt, setrlimit, readAddress, access, dup, fsync, fcntl, setuid,
          seteuid, setgid, setpriority, setLimit, setenv, unsetenv, socket, listen, shutdown, connect,
          setSocketOption]
      | dsimp only

theorem workingDirectory_of_keeps (h : s.Keeps s') (hsound : s.Sound) {cwd : Path}
    (hcwd : s.workingDirectory = .ok cwd) : s'.workingDirectory = .ok cwd := by
  have ⟨hkeeps, hsame⟩ := h hsound.files
  unfold workingDirectory at hcwd ⊢
  split at hcwd
  . next path hpath =>
    rw [hsame, hkeeps.pathOf? hsound.inside hpath]
    exact hcwd
  . cases hcwd

section Settled

variable {m m' : Machine Posix}

theorem number_of_ok {call : Syscall Int64} {n : Int64} (h : call m = (.ok n, m'))
    : number call m = (n, m') := by
  have hrun : number call m = _ := StateT.run_bind call.run _ m
  rw [hrun, show call.run.run m = _ from h]
  rfl

theorem number_of_error {call : Syscall Int64} {e : Errno} (h : call m = (.error e, m'))
    : number call m = (-1, { m' with errno := e }) := by
  have hrun : number call m = _ := StateT.run_bind call.run _ m
  rw [hrun, show call.run.run m = _ from h]
  rfl

theorem flag_of_ok {call : Syscall Unit} (h : call m = (.ok (), m')) : flag call m = (true, m') := by
  have hrun : flag call m = _ := StateT.run_bind call.run _ m
  rw [hrun, show call.run.run m = _ from h]
  rfl

variable {f : Posix → Except Errno Posix}

theorem number_change_of_ok (h : f m.os = .ok s)
    : number (change f) m = (0, { m with os := s }) := by
  apply number_of_ok
  change ExceptT.bindCont (fun s => do Syscall.setSystem s; return 0) (f m.os) m = _
  rw [h]
  rfl

theorem number_change_of_error {e : Errno} (h : f m.os = .error e)
    : number (change f) m = (-1, { m with errno := e }) := by
  apply number_of_error
  change ExceptT.bindCont (fun s => do Syscall.setSystem s; return 0) (f m.os) m = _
  rw [h]
  rfl

theorem change_sound (hsound : m.os.Sound) (h : Yields (f m.os) Sound)
    : (number (change f) m).2.os.Sound := by
  cases hresult : f m.os with
  | error e => rwa [number_change_of_error hresult]
  | ok s =>
    rw [number_change_of_ok hresult]
    exact h s hresult

end Settled

theorem run_sound {reply : Reply} (p : Primitive reply) {m : Machine Posix} (hsound : m.os.Sound)
    : (Posix.run p m).2.os.Sound := by
  cases p with
  | chdir path => exact change_sound hsound (chdir_sound hsound path.bytes)
  | rename source target =>
    exact change_sound hsound (rename_sound hsound source.bytes target.bytes)
  | rmdir path => exact change_sound hsound (rmdir_sound hsound path.bytes)
  | _ =>
    apply Keeps.sound _ hsound
    apply run_keeps
    simp [Primitive.operation, relocations]

theorem getcwd_tells (buffer : UInt64) {size : UInt64} {m : Machine Posix} {cwd : Path}
    (hcwd : m.os.workingDirectory = .ok cwd) (hroom : cwd.length < size.toNat)
    : flag (getcwd buffer size) m =
        (true, { m with memory := m.memory.write buffer.toNat (cwd ++ [0]) }) := by
  have hsize : size ≠ 0 := by
    rintro rfl
    exact absurd hroom (Nat.not_lt_zero _)
  have hrun : getcwd buffer size m =
      (.ok (), { m with memory := m.memory.write buffer.toNat (cwd ++ [0]) }) := by
    unfold getcwd
    rw [if_neg hsize]
    change ExceptT.bindCont (fun path : Path => if size.toNat < path.length + 1 then
      throw .erange >>= fun _ => Syscall.writeMemory buffer (path ++ [0])
      else Syscall.writeMemory buffer (path ++ [0])) m.os.workingDirectory m = _
    rw [hcwd]
    change (if size.toNat < cwd.length + 1 then _ else Syscall.writeMemory buffer (cwd ++ [0])) m = _
    rw [if_neg (by omega)]
    rfl
  exact flag_of_ok hrun

/-- The in-memory system keeps the path of the working directory through every request but the
three. -/
theorem kernel_locates : kernel.Locates Sound := by
  refine ⟨?sound, ?stays, ?fails, ?tells⟩
  case sound =>
    intro reply p m hsound
    exact run_sound p hsound
  case stays =>
    intro reply p m hsound hother cwd hcwd
    exact workingDirectory_of_keeps (run_keeps p hother m) hsound hcwd
  case fails =>
    intro target m _ hanswer cwd hcwd
    cases hresult : m.os.chdir target.bytes with
    | error e =>
      have hrun : kernel.run (.chdir target) m = _ := number_change_of_error hresult
      rw [hrun]
      exact hcwd
    | ok s =>
      have hrun : kernel.run (.chdir target) m = _ := number_change_of_ok hresult
      rw [hrun] at hanswer
      cases hanswer
  case tells =>
    intro buffer size m hsound cwd hcwd hroom
    have hrun : kernel.run (.getcwd buffer size) m = _ := getcwd_tells buffer hcwd hroom
    rw [hrun]
    exact ⟨rfl, m.memory.stored_write buffer.toNat (cwd ++ [0])⟩

theorem initial_sound : initial.Sound := by
  refine ⟨FileTree.sound_of_ids ?_ ?_, ?_⟩
  all_goals decide +kernel

end Posix

end NativeCall
