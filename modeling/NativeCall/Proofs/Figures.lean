import NativeCall.Proofs.Choice
import NativeCall.Proofs.Plans

/-!
This module contains the numbers that requests hand to the system, and what it takes for them to be
the numbers that the caller gave.
-/

namespace NativeCall

/-- A number in the type of the native parameter that it is for. -/
inductive NativeNumber where
  | int (n : Int32)
  /-- The length of an address, of a name or of a socket option. -/
  | length (n : UInt32)
  | size (n : UInt64)
  /-- A mode, an id or a selector: a parameter without a sign for an integer of 32 bits with one. -/
  | bits (n : UInt32)

/-- The number is the integer; one without a sign has its bits, and has them all. -/
def NativeNumber.Holds : NativeNumber → Int → Prop
  | int n, v => n.toInt = v
  | length n, v => n.toNat = v
  | size n, v => n.toNat = v
  | bits n, v => -2 ^ 31 ≤ v ∧ v < 2 ^ 31 ∧ n.toNat = v % 2 ^ 32

/-- A number handed to the system, and the place of the argument that gives it. If it is `nameable`,
the argument may be a symbol for which the host has the number. -/
structure Figure where
  index : Nat
  number : NativeNumber
  nameable : Bool

inductive Figure.Sound (args : List Variant) : Figure → Prop where
  | given {index : Nat} {number : NativeNumber} {nameable : Bool} {v : Int64}
      (harg : args[index]? = some (.int v)) (h : number.Holds v.toInt)
      : Sound args ⟨index, number, nameable⟩
  | named {index : Nat} {number : NativeNumber} {symbol : String}
      (harg : args[index]? = some (.symbol symbol)) : Sound args ⟨index, number, true⟩

namespace Primitive

variable {reply : Reply}

def operation : {reply : Reply} → Primitive reply → String
  | _, .access .. => "access"
  | _, .chmod .. => "chmod"
  | _, .chown .. => "chown"
  | _, .link .. => "link"
  | _, .symlink .. => "symlink"
  | _, .unlink .. => "unlink"
  | _, .rename .. => "rename"
  | _, .mkdir .. => "mkdir"
  | _, .rmdir .. => "rmdir"
  | _, .chdir .. => "chdir"
  | _, .getcwd .. => "getcwd"
  | _, .readlink .. => "readlink"
  | _, .utimes .. => "utimes"
  | _, .dup .. => "dup"
  | _, .close .. => "close"
  | _, .fchmod .. => "fchmod"
  | _, .fchown .. => "fchown"
  | _, .fsync .. => "fsync"
  | _, .flock .. => "flock"
  | _, .isatty .. => "isatty"
  | _, .fcntl .. => "fcntl"
  | _, .fcntlInt .. => "fcntl"
  | _, .getuid => "getuid"
  | _, .geteuid => "geteuid"
  | _, .getgid => "getgid"
  | _, .getegid => "getegid"
  | _, .getpid => "getpid"
  | _, .getppid => "getppid"
  | _, .getpgrp => "getpgrp"
  | _, .getpgid .. => "getpgid"
  | _, .setsid => "setsid"
  | _, .setuid .. => "setuid"
  | _, .seteuid .. => "seteuid"
  | _, .setgid .. => "setgid"
  | _, .getgroups .. => "getgroups"
  | _, .getpriority .. => "getpriority"
  | _, .setpriority .. => "setpriority"
  | _, .umask .. => "umask"
  | _, .getrlimit .. => "getrlimit"
  | _, .setrlimit .. => "setrlimit"
  | _, .getenv .. => "getenv"
  | _, .setenv .. => "setenv"
  | _, .unsetenv .. => "unsetenv"
  | _, .environ => "environ"
  | _, .socket .. => "socket"
  | _, .listen .. => "listen"
  | _, .shutdown .. => "shutdown"
  | _, .connect .. => "_connect"
  | _, .bind .. => "_bind"
  | _, .setsockopt .. => "setsockopt"
  | _, .getsockopt .. => "_getsockopt"
  | _, .gethostname .. => "gethostname"
  | _, .getpeername .. => "_getpeername"
  | _, .getsockname .. => "_getsockname"
  | _, .getaddrinfo .. => "_getaddrinfo"
  | _, .freeaddrinfo .. => "freeaddrinfo"
  | _, .getnameinfo .. => "_getnameinfo"

def figures : {reply : Reply} → Primitive reply → List Figure
  | _, .access _ mode => [⟨1, .int mode, false⟩]
  | _, .chmod _ mode => [⟨1, .bits mode, false⟩]
  | _, .chown _ owner group => [⟨1, .bits owner, false⟩, ⟨2, .bits group, false⟩]
  | _, .mkdir _ mode => [⟨1, .bits mode, false⟩]
  | _, .getcwd _ size => [⟨1, .size size, false⟩]
  | _, .readlink _ _ size => [⟨2, .size size, false⟩]
  | _, .dup fd => [⟨0, .int fd, false⟩]
  | _, .close fd => [⟨0, .int fd, false⟩]
  | _, .fchmod fd mode => [⟨0, .int fd, false⟩, ⟨1, .bits mode, false⟩]
  | _, .fchown fd owner group =>
    [⟨0, .int fd, false⟩, ⟨1, .bits owner, false⟩, ⟨2, .bits group, false⟩]
  | _, .fsync fd => [⟨0, .int fd, false⟩]
  | _, .flock fd operation => [⟨0, .int fd, false⟩, ⟨1, .int operation, false⟩]
  | _, .isatty fd => [⟨0, .int fd, false⟩]
  | _, .fcntl fd command => [⟨0, .int fd, false⟩, ⟨1, .int command, false⟩]
  | _, .fcntlInt fd command argument =>
    [⟨0, .int fd, false⟩, ⟨1, .int command, false⟩, ⟨2, .int argument, false⟩]
  | _, .getpgid pid => [⟨0, .int pid, false⟩]
  | _, .setuid id => [⟨0, .bits id, false⟩]
  | _, .seteuid id => [⟨0, .bits id, false⟩]
  | _, .setgid id => [⟨0, .bits id, false⟩]
  -- the size of a list of groups is no argument but the number of them that the system has given
  | _, .getgroups _ => []
  | _, .getpriority which who => [⟨0, .bits which, false⟩, ⟨1, .bits who, false⟩]
  | _, .setpriority which who priority =>
    [⟨0, .bits which, false⟩, ⟨1, .bits who, false⟩, ⟨2, .int priority, false⟩]
  | _, .umask mask => [⟨0, .bits mask, false⟩]
  | _, .getrlimit resource _ => [⟨0, .bits resource, false⟩]
  | _, .setrlimit resource _ => [⟨0, .bits resource, false⟩]
  | _, .setenv _ _ overwrite => [⟨2, .int overwrite, false⟩]
  | _, .socket domain type protocol =>
    [⟨0, .int domain, false⟩, ⟨1, .int type, false⟩, ⟨2, .int protocol, false⟩]
  | _, .listen fd backlog => [⟨0, .int fd, false⟩, ⟨1, .int backlog, false⟩]
  | _, .shutdown fd how => [⟨0, .int fd, false⟩, ⟨1, .int how, false⟩]
  | _, .connect fd _ length => [⟨0, .int fd, false⟩, ⟨2, .length length, false⟩]
  | _, .bind fd _ length => [⟨0, .int fd, false⟩, ⟨2, .length length, false⟩]
  | _, .setsockopt fd level name _ length =>
    [⟨0, .int fd, false⟩, ⟨1, .int level, false⟩, ⟨2, .int name, false⟩,
      ⟨4, .length length, false⟩]
  -- the capacity is not an argument but stands in memory
  | _, .getsockopt fd level name _ _ =>
    [⟨0, .int fd, false⟩, ⟨1, .int level, true⟩, ⟨2, .int name, true⟩]
  | _, .gethostname _ length => [⟨1, .size length, false⟩]
  | _, .getpeername fd _ _ => [⟨0, .int fd, false⟩]
  | _, .getsockname fd _ _ => [⟨0, .int fd, false⟩]
  | _, .getnameinfo _ length _ hostLength _ serviceLength flags =>
    [⟨1, .length length, false⟩, ⟨3, .length hostLength, false⟩,
      ⟨5, .length serviceLength, false⟩, ⟨6, .int flags, false⟩]
  | _, _ => []

/-- The request is one of the operation `name`. Its numbers are those of the arguments, of which none
is left out but the limit on groups, which the system is not told. -/
structure Takes (name : String) (args : List Variant) (p : Primitive reply) : Prop where
  operation : p.operation = name
  figures : ∀ figure ∈ p.figures, figure.Sound args
  covered : ∀ index v, args[index]? = some (.int v) →
    (∃ figure ∈ p.figures, figure.index = index) ∨ (name = "getgroups" ∧ index = 0)

end Primitive

namespace Guard

/-- The places where the guard wants a number, or a symbol for one. -/
def numberPlaces : Guard → List Nat
  | [] => []
  | .int :: guard => 0 :: (numberPlaces guard).map (· + 1)
  | .symbol :: guard => 0 :: (numberPlaces guard).map (· + 1)
  | _ :: guard => (numberPlaces guard).map (· + 1)

theorem mem_numberPlaces {guard : Guard} {args : List Variant}
    (h : List.Forall₂ Shape.Admits guard args) (hany : .any ∉ guard) {index : Nat} {v : Int64}
    (harg : args[index]? = some (.int v)) : index ∈ guard.numberPlaces := by
  induction h generalizing index with
  | nil => simp at harg
  | @cons shape arg guard args hadmits _ ih =>
    rw [List.mem_cons, not_or] at hany
    cases index with
    | zero =>
      cases Option.some.inj harg
      cases hadmits with
      | any => exact absurd rfl hany.1
      | int => exact List.mem_cons_self
    | succ index =>
      have hmem : index + 1 ∈ (numberPlaces guard).map (· + 1) := by
        exact List.mem_map_of_mem (ih hany.2 harg)
      cases shape with
      | int | symbol => exact List.mem_cons_of_mem 0 hmem
      | any | nil | str | pointer => exact hmem

end Guard

/-- The plan makes a request of the operation `name`, with a number of the arguments wherever the
guard wants one. -/
structure Plan.Takes (name : String) (guard : Guard) (args : List Variant) (plan : Plan)
    : Prop where
  operation : plan.primitive.operation = name
  figures : ∀ figure ∈ plan.primitive.figures, figure.Sound args
  places : plan.primitive.figures.map Figure.index = guard.numberPlaces

theorem Plan.Takes.primitive {name : String} {guard : Guard} {args : List Variant} {plan : Plan}
    (h : plan.Takes name guard args) (hfits : List.Forall₂ Shape.Admits guard args)
    (hany : .any ∉ guard) : plan.primitive.Takes name args := by
  refine ⟨h.operation, h.figures, ?_⟩
  intro index v harg
  have hmem := Guard.mem_numberPlaces hfits hany harg
  rw [← h.places, List.mem_map] at hmem
  exact Or.inl hmem

class Reads {α : Type} (x : Except CallError α) (p : outParam (α → Prop)) : Prop where
  decodes : Decodes x p

section Instances

variable (inv : Invocation) (index : Nat)

instance : Reads (inv.cInt index) fun n =>
    (∀ nameable, (⟨index, .int n, nameable⟩ : Figure).Sound inv.args) ∧
      (⟨index, .bits n.toUInt32, false⟩ : Figure).Sound inv.args := by
  constructor
  apply (inv.decodes_cInt index).mono
  rintro n ⟨v, harg, hn⟩
  have hlow := n.le_toInt
  have hhigh := n.toInt_lt
  rw [hn] at hlow hhigh
  refine ⟨fun _ => .given harg hn, .given harg ⟨hlow, hhigh, ?_⟩⟩
  rw [Invocation.toNat_toUInt32, hn]

instance : Reads (inv.size index) fun n =>
    (⟨index, .size n, false⟩ : Figure).Sound inv.args := by
  constructor
  apply (inv.decodes_size index).mono
  rintro n ⟨v, harg, hn⟩
  exact .given harg hn

instance : Reads (inv.socketLength index) fun n =>
    (⟨index, .length n, false⟩ : Figure).Sound inv.args := by
  constructor
  apply (inv.decodes_socketLength index).mono
  rintro n ⟨v, harg, hn⟩
  exact .given harg hn

instance : Reads (inv.cString index) fun _ => True :=
  ⟨(inv.decodes_cString index).mono fun _ _ => trivial⟩

instance : Reads (inv.pointer index) fun _ => True :=
  ⟨(inv.decodes_pointer index).mono fun _ _ => trivial⟩

instance : Reads (inv.view index) fun _ => True :=
  ⟨(inv.decodes_view index).mono fun _ _ => trivial⟩

instance (count : UInt64) : Reads (inv.region index count) fun _ => True :=
  ⟨(inv.decodes_region index count).mono fun _ _ => trivial⟩

instance {α : Type} (r : Except MemoryFault α) : Reads (inv.memory index r) fun _ => True :=
  ⟨(inv.decodes_memory index r).mono fun _ _ => trivial⟩

end Instances

namespace Decodes

variable {α β : Type}

theorem read {x : Except CallError α} {p : α → Prop} [Reads x p] {f : α → Except CallError β}
    {q : β → Prop} (h : ∀ a, p a → Decodes (f a) q) : Decodes (x >>= f) q := by
  exact (Reads.decodes (p := p)).bind h

theorem taken {name : String} {guard : Guard} {args : List Variant} {plan : Plan}
    (hoperation : plan.primitive.operation = name)
    (hplaces : plan.primitive.figures.map Figure.index = guard.numberPlaces)
    (hfigures : plan.primitive.figures.Forall (Figure.Sound args))
    : Decodes (Pure.pure plan) (Plan.Takes name guard args) := by
  exact .pure ⟨hoperation, List.forall_iff_forall_mem.mp hfigures, hplaces⟩

end Decodes

namespace Request

variable (memory : Memory) (inv : Invocation) (index : Nat)

instance (lengthIndex : Nat) : Reads (sizedRegion inv index lengthIndex) fun r =>
    (⟨lengthIndex, .length r.2, false⟩ : Figure).Sound inv.args := by
  constructor
  unfold sizedRegion
  apply Decodes.read
  intro view _
  apply Decodes.read
  intro length hlength
  apply Decodes.read
  intro _ _
  exact .pure hlength

instance (lengthIndex : Nat) : Reads (outputRegion memory inv index lengthIndex) fun _ => True := by
  constructor
  exact (decodes_outputRegion memory inv index lengthIndex).mono fun _ _ => trivial

instance (what : String) : Reads (nameOutput inv index what) fun r =>
    (⟨index + 1, .length r.2, false⟩ : Figure).Sound inv.args := by
  constructor
  unfold nameOutput
  apply Decodes.read
  intro length hlength
  apply (inv.decodes_nullableView index).bind
  intro view _
  cases view with
  | none =>
    dsimp only
    split
    . next hzero =>
      rw [hzero] at hlength
      exact .pure hlength
    . exact .throw rfl
  | some view =>
    dsimp only
    split
    . exact .throw rfl
    . apply Decodes.read
      intro _ _
      exact .pure hlength

theorem addressed_takes {name : String} (p : Int32 → UInt64 → UInt32 → Primitive .number)
    (hoperation : ∀ fd target length, (p fd target length).operation = name)
    (hfigures : ∀ fd target length, (p fd target length).figures =
      [⟨0, .int fd, false⟩, ⟨2, .length length, false⟩])
    : Decodes
        (do
          let (target, length) ← sizedRegion inv 1 2
          return .status (p (← inv.cInt 0) target.base length))
        (Plan.Takes name [.int, .pointer, .int] inv.args) := by
  apply Decodes.read
  rintro ⟨target, length⟩ hlength
  apply Decodes.read
  intro fd hfd
  apply Decodes.taken (hoperation _ _ _)
  . exact congrArg (List.map Figure.index) (hfigures _ _ _)
  . show List.Forall _ (p fd target.base length).figures
    rw [hfigures]
    exact ⟨hfd.1 false, hlength⟩

theorem setsockopt_takes
    : Decodes (setsockopt inv)
        (Plan.Takes "setsockopt" [.int, .int, .int, .pointer, .int] inv.args) := by
  apply Decodes.read
  rintro ⟨value, length⟩ hlength
  apply Decodes.read
  intro fd hfd
  apply Decodes.read
  intro level hlevel
  apply Decodes.read
  intro name hname
  exact .taken rfl rfl ⟨hfd.1 false, hlevel.1 false, hname.1 false, hlength⟩

theorem socketOption_takes {level name : Int32}
    (hlevel : (⟨1, .int level, true⟩ : Figure).Sound inv.args)
    (hname : (⟨2, .int name, true⟩ : Figure).Sound inv.args) (guard : Guard)
    (hguard : guard.numberPlaces = [0, 1, 2])
    : Decodes (socketOption memory inv level name)
        (Plan.Takes "_getsockopt" guard inv.args) := by
  apply Decodes.read
  rintro ⟨value, length⟩ _
  apply Decodes.read
  intro fd hfd
  exact .taken rfl hguard.symm ⟨hfd.1 false, hlevel, hname⟩

theorem getsockopt_takes
    : Decodes (getsockopt memory inv)
        (Plan.Takes "_getsockopt" [.int, .int, .int, .pointer, .pointer] inv.args) := by
  apply Decodes.read
  intro level hlevel
  apply Decodes.read
  intro name hname
  exact socketOption_takes memory inv (hlevel.1 true) (hname.1 true) _ rfl

theorem endpoint_takes {name : String} (p : Int32 → UInt64 → UInt64 → Primitive .number)
    (hoperation : ∀ fd target length, (p fd target length).operation = name)
    (hfigures : ∀ fd target length, (p fd target length).figures = [⟨0, .int fd, false⟩])
    : Decodes
        (do
          let (target, length) ← outputRegion memory inv 1 2
          return .status (p (← inv.cInt 0) target.base length.base))
        (Plan.Takes name [.int, .pointer, .pointer] inv.args) := by
  apply Decodes.read
  rintro ⟨target, length⟩ _
  apply Decodes.read
  intro fd hfd
  apply Decodes.taken (hoperation _ _ _)
  . exact congrArg (List.map Figure.index) (hfigures _ _ _)
  . show List.Forall _ (p fd target.base length.base).figures
    rw [hfigures]
    exact hfd.1 false

theorem getnameinfo_takes {guard : Guard} (hguard : guard.numberPlaces = [1, 3, 5, 6])
    : Decodes (getnameinfo inv) (Plan.Takes "_getnameinfo" guard inv.args) := by
  apply Decodes.read
  rintro ⟨target, length⟩ hlength
  apply Decodes.read
  rintro ⟨host, hostLength⟩ hhost
  apply Decodes.read
  rintro ⟨service, serviceLength⟩ hservice
  apply Decodes.read
  intro flags hflags
  exact .taken rfl hguard.symm ⟨hlength, hhost, hservice, hflags.1 false⟩

end Request

end NativeCall
