import NativeCall.Config.Format

/-!
This module contains what is promised of a format of documents: that no table has a key twice, that
records are decoded entry by entry, and that it does not matter where in a document a value stands.
-/

namespace NativeCall

theorem except_bind_eq_ok_iff {ε α β : Type} {x : Except ε α} {f : α → Except ε β} {b : β}
    : (x >>= f) = .ok b ↔ ∃ a, x = .ok a ∧ f a = .ok b := by
  cases x with
  | error e => simp [bind, Except.bind]
  | ok a => simp [bind, Except.bind]

theorem except_bind_pure_eq_ok_iff {ε α β : Type} {x : Except ε α} {f : α → β} {b : β}
    : (x >>= fun a => pure (f a)) = .ok b ↔ ∃ a, x = .ok a ∧ f a = b := by
  rw [except_bind_eq_ok_iff]
  simp [pure, Except.pure]

namespace Format

variable {format : Format}

/-- The second value stands in the first, in tables at any depth. -/
inductive Inside (v : format.Value) : format.Value → Prop where
  | self : Inside v v
  | entry {table u : format.Value} {entries : List (String × format.Value)} {key : String}
      (h : Inside v table) (htable : format.entries? table = some entries)
      (hmem : (key, u) ∈ entries) : Inside v u

/-- What tables hand on to the values in them holds of all values that stand in one. -/
theorem Inside.induct {p : format.Value → Prop} {v u : format.Value} (hin : format.Inside v u)
    (hentry : ∀ table entries, format.entries? table = some entries → p table →
      ∀ entry ∈ entries, p entry.2)
    (hv : p v) : p u := by
  induction hin with
  | self => exact hv
  | entry _ htable hmem ih => exact hentry _ _ htable ih _ hmem

/-- The decoding of a field comes to the same for values that are. -/
def Respects {δ : Type} (same : format.Value → format.Value → Prop)
    (field : Field format.Value format.Fault δ) : Prop :=
  ∀ v v' d d', same v v' → field.put v d = .ok d' → field.put v' d = .ok d'

/-- What is known of the libraries; `same` says which values are the same up to their places. -/
structure Lawful (format : Format) (same : format.Value → format.Value → Prop) : Prop where
  exists_entries {text : String} {v : format.Value} (h : format.read text = .ok v)
      : ∃ entries, format.entries? v = some entries
  nodup {text : String} {v table : format.Value} {entries : List (String × format.Value)}
      (h : format.read text = .ok v) (hin : format.Inside v table)
      (htable : format.entries? table = some entries) : (entries.map Prod.fst).Nodup
  record_of_table {δ σ : Type} (declared : Record format.Value format.Fault δ σ)
      {v : format.Value} {entries : List (String × format.Value)}
      (hentries : format.entries? v = some entries) (hnodup : (entries.map Prod.fst).Nodup) {s : σ}
      : format.record declared v = .ok s ↔
          ∃ d, entries.foldlM declared.visit declared.start = .ok d ∧ declared.finish d = .ok s
  same_symm {v v' : format.Value} (h : same v v') : same v' v
  boolean_of_same {v v' : format.Value} {b : Bool} (h : same v v') (hv : format.boolean v = .ok b)
      : format.boolean v' = .ok b
  levelFilter_of_same {v v' : format.Value} {filter : LevelFilter} (h : same v v')
      (hv : format.levelFilter v = .ok filter) : format.levelFilter v' = .ok filter
  record_of_same {δ σ : Type} {declared : Record format.Value format.Fault δ σ}
      (hfields : ∀ field ∈ declared.fields, format.Respects same field) {v v' : format.Value}
      (h : same v v') (hentries : format.entries? v = none) {s : σ}
      (hv : format.record declared v = .ok s) : format.record declared v' = .ok s

end Format

end NativeCall
