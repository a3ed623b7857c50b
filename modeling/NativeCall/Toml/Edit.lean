import NativeCall.Toml.Node

/-!
This module contains changes of a tree: going down to a table by the keys that lead there, and giving
a key its value. What a document has said once it may not say again.
-/

namespace NativeCall.Toml

/-- A change of the entries of a table, if the table allows it. -/
abbrev Edit := StateT Entries Option

namespace Edit

variable {α : Type}

/-- Change the table to which `path` leads. Missing tables are made on the way and come to be as `made`
says; of an array of tables the last one is passed. -/
def within (made : Origin) (change : Origin → Edit α) (here : Origin) : List Key → Edit α
  | [] => change here
  | key :: path => fun entries =>
    match entries.find? key.name with
    | none => do
      let (a, inner) ← within made change made path []
      return (a, entries ++ [(key, .table made inner none)])
    | some (.table origin inner span) => do
      if origin = .inline ∨ made = .dotted ∧ origin = .header then none
      let (a, inner) ← within made change origin path inner
      return (a, entries.replace key.name (.table origin inner span))
    | some (.tables items span) =>
      match items.getLast? with
      | some (.table origin inner place) => do
        let (a, inner) ← within made change origin path inner
        let items := items.dropLast ++ [.table origin inner place]
        return (a, entries.replace key.name (.tables items span))
      | _ => none
    | some _ => none

/-- Give a key, which has no value yet, its value. Of dotted keys the last is one of a table that
dotted keys have named. -/
def assign (path : KeyPath) (value : Node) : Edit Unit :=
  within .dotted add .header path.parents
where
  add (here : Origin) : Edit Unit := fun entries =>
    if !path.parents.isEmpty && here != .dotted then none
    else if (entries.find? path.last.name).isSome then none
    else some ((), entries ++ [(path.last, value)])

end Edit

end NativeCall.Toml
