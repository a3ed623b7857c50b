import Mathlib.Data.List.Forall2
import NativeCall.Proofs.DecodingBlame
import NativeCall.Proofs.Figures
import NativeCall.Table.BuiltIn

/-!
This module contains the rows of the table of operations, sorted by what their arms do: what holds of
every kind of row holds of the table.
-/

namespace NativeCall

/-- A decoding that reads a text or a number wherever the guard has one, one after the other, and makes
a request of them that is handed no memory. -/
inductive Request.Plain (name : String) (policy : Policy) (guard : Guard) (inv : Invocation)
    : Except CallError Plan → Prop where
  | status {p : Primitive .number} (hpolicy : policy ≠ .informational)
      (hregions : ∀ memory, p.handovers memory = [])
      (htakes : (Plan.status p).Takes name guard inv.args)
      : Plain name policy guard inv (Pure.pure (.status p))
  | info {p : Primitive .number} (hpolicy : policy = .informational)
      (hregions : ∀ memory, p.handovers memory = [])
      (htakes : (Plan.info p).Takes name guard inv.args)
      : Plain name policy guard inv (Pure.pure (.info p))
  | text {index : Nat} {f : CString → Except CallError Plan} (hshape : guard[index]? = some .str)
      (h : ∀ s, Plain name policy guard inv (f s))
      : Plain name policy guard inv (inv.cString index >>= f)
  | number {index : Nat} {f : Int32 → Except CallError Plan} (hshape : guard[index]? = some .int)
      (hnarrowing : Narrowing.at? name index = some .cInt)
      (h : ∀ n, (∀ nameable, (⟨index, .int n, nameable⟩ : Figure).Sound inv.args) →
        (⟨index, .bits n.toUInt32, false⟩ : Figure).Sound inv.args →
        Plain name policy guard inv (f n))
      : Plain name policy guard inv (inv.cInt index >>= f)

namespace Table

/-- The rows of the table, whatever the systems and the hosts of their platforms are. -/
inductive Row : (∀ κ η : Type, Operation κ η) → Prop where
  | plain {name : String} {arity : Nat} {policy : Policy} {guard : Guard}
      {decode : Invocation → Except CallError Plan} (hany : .any ∉ guard)
      (h : ∀ inv, Request.Plain name policy guard inv (decode inv))
      : Row fun _ _ => ⟨name, arity, policy, [arm guard decode], none⟩
  | missing (name : String) (arity : Nat) : Row fun _ _ => missing name arity
  | chdir (h : ∀ inv, Request.Plain "chdir" .passThrough [.str] inv (Request.chdir inv))
      : Row fun _ _ => chdir
  | fcntl (h : ∀ inv, Request.Plain "fcntl" .passThrough [.int, .int, .nil] inv (Request.fcntl inv))
      (h' : ∀ inv, Request.Plain "fcntl" .passThrough [.int, .int, .int] inv (Request.fcntlInt inv))
      : Row fun _ _ => fcntl
  | getcwd : Row fun _ _ => getcwd
  | readlink : Row fun _ _ => readlink
  | utimes : Row fun _ _ => utimes
  | getgroups : Row fun _ _ => getgroups
  | getrlimit : Row fun _ _ => getrlimit
  | setrlimit : Row fun _ _ => setrlimit
  | getenv : Row fun _ _ => getenv
  | environ : Row fun _ _ => environ
  | memset : Row fun _ _ => memset
  | major : Row fun _ _ => device "major" Device.major
  | minor : Row fun _ _ => device "minor" Device.minor
  | getaddrinfo : Row fun _ _ => getaddrinfo
  | freeaddrinfo : Row fun _ _ => freeaddrinfo
  | getnameinfo : Row fun _ _ => getnameinfo
  | connect : Row fun _ _ => connect
  | bind : Row fun _ _ => bind
  | setsockopt : Row fun _ _ => setsockopt
  | getsockopt : Row fun _ _ => getsockopt
  | gethostname : Row fun _ _ => gethostname
  | getpeername : Row fun _ _ => getpeername
  | getsockname : Row fun _ _ => getsockname
  | lastErrno : Row fun _ _ => lastErrno
  | setErrno : Row fun _ _ => setErrno

attribute [local simp] Primitive.figures

/-- What relates every row to itself relates the table to itself, on whatever platforms it is. -/
theorem forall₂_builtIn {κ η κ' η' : Type} {P : Operation κ η → Operation κ' η' → Prop}
    (h : ∀ row, Row row → P (row κ η) (row κ' η')) : List.Forall₂ P builtIn builtIn := by
  unfold builtIn files descriptors identity limits environment memory resolution sockets lastError
  repeat' apply List.rel_append
  all_goals repeat' apply List.Forall₂.cons
  all_goals first
    | exact List.Forall₂.nil
    | exact h _ (.missing _ _)
    | exact h _ .getcwd
    | exact h _ .readlink
    | exact h _ .utimes
    | exact h _ .getgroups
    | exact h _ .getrlimit
    | exact h _ .setrlimit
    | exact h _ .getenv
    | exact h _ .environ
    | exact h _ .memset
    | exact h _ .major
    | exact h _ .minor
    | exact h _ .getaddrinfo
    | exact h _ .freeaddrinfo
    | exact h _ .getnameinfo
    | exact h _ .connect
    | exact h _ .bind
    | exact h _ .setsockopt
    | exact h _ .getsockopt
    | exact h _ .gethostname
    | exact h _ .getpeername
    | exact h _ .getsockname
    | exact h _ .lastErrno
    | exact h _ .setErrno
    | refine h _ (.chdir ?_)
    | refine h _ (.fcntl ?_ ?_)
    | refine h _ (.plain (by decide) ?_)
  all_goals
    intro inv
    repeat' first
      | (apply Request.Plain.text rfl; intro _)
      | (apply Request.Plain.number rfl rfl; intro _ _ _)
    first
      | refine .status (by decide) (fun _ => rfl) ⟨rfl, ?_, rfl⟩
      | refine .info rfl (fun _ => rfl) ⟨rfl, ?_, rfl⟩
    simp [Plan.status, Plan.info, *]

theorem forall_builtIn {κ η : Type} {P : Operation κ η → Prop}
    (h : ∀ row, Row row → P (row κ η)) : ∀ op ∈ builtIn, P op := by
  exact List.forall₂_same.mp (forall₂_builtIn h)

end Table

end NativeCall
