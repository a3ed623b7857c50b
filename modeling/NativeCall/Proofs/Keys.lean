import NativeCall.Proofs.Readers
import NativeCall.Toml.Document

/-!
This module contains the keys of a document: no table in it has the same one twice, at whatever depth it
is and in whichever way it is written.
-/

namespace NativeCall.Toml

namespace Entries

def names (entries : Entries) : List String :=
  entries.map (·.1.name)

variable {entries : Entries} {name : String}

theorem find?_eq_none_iff : entries.find? name = none ↔ name ∉ entries.names := by
  unfold find? names
  rw [Option.map_eq_none_iff, List.find?_eq_none]
  simp

theorem find?_cons (entry : Key × Node) (rest : Entries) (name : String)
    : find? (entry :: rest) name = if entry.1.name = name then some entry.2 else rest.find? name := by
  unfold find?
  rw [List.find?_cons]
  by_cases h : entry.1.name = name
  . rw [beq_iff_eq.mpr h, if_pos h]
    rfl
  . rw [beq_eq_false_iff_ne.mpr h, if_neg h]

theorem find?_append_of_eq_none {key : Key} (h : entries.find? key.name = none) (node : Node)
    : (entries ++ [(key, node)] : Entries).find? key.name = some node := by
  induction entries with
  | nil => rw [List.nil_append, find?_cons, if_pos rfl]
  | cons entry rest ih =>
    rw [find?_cons] at h
    split at h
    . cases h
    . next hne => rw [List.cons_append, find?_cons, if_neg hne, ih h]

theorem find?_replace {old : Node} (h : entries.find? name = some old) (node : Node)
    : (entries.replace name node).find? name = some node := by
  induction entries with
  | nil => cases h
  | cons entry rest ih =>
    show find? ((entry.1, if entry.1.name == name then node else entry.2) :: replace rest name node)
      name = some node
    rw [find?_cons] at h ⊢
    by_cases hname : entry.1.name = name
    . rw [if_pos hname, if_pos (beq_iff_eq.mpr hname)]
    . rw [if_neg hname] at h ⊢
      exact ih h

@[simp]
theorem names_append (entries others : Entries)
    : (entries ++ others : Entries).names = entries.names ++ others.names := by
  exact List.map_append

@[simp]
theorem names_replace (entries : Entries) (name : String) (node : Node)
    : (entries.replace name node).names = entries.names := by
  unfold replace names
  rw [List.map_map]
  rfl

theorem not_mem_names_erase : name ∉ (entries.erase name).names := by
  unfold erase names
  simp

end Entries

/-- No table in the value has a key twice. -/
inductive Node.Distinct : Node → Prop where
  | intro {v : Node}
      (hitems : ∀ items, v.items? = some items → ∀ item ∈ items, Distinct item)
      (hnames : ∀ entries, v.entries? = some entries → (Entries.names entries).Nodup)
      (hvalues : ∀ entries, v.entries? = some entries → ∀ entry ∈ entries, Distinct entry.2)
      : Distinct v

/-- The keys are different, and no table in their values has one twice. -/
structure Entries.Distinct (entries : Entries) : Prop where
  names : entries.names.Nodup
  values : ∀ entry ∈ entries, entry.2.Distinct

namespace Node

variable {v : Node} {items : List Node} {entries : Entries}

theorem distinct_of_scalar (hitems : v.items? = none) (hentries : v.entries? = none)
    : v.Distinct := by
  constructor
  . intro items h
    cases hitems.symm.trans h
  . intro entries h
    cases hentries.symm.trans h
  . intro entries h
    cases hentries.symm.trans h

theorem distinct_of_items (hv : v.items? = some items) (hentries : v.entries? = none)
    (h : ∀ item ∈ items, item.Distinct) : v.Distinct := by
  constructor
  . intro items' hv'
    cases hv.symm.trans hv'
    exact h
  . intro entries h
    cases hentries.symm.trans h
  . intro entries h
    cases hentries.symm.trans h

theorem distinct_table (origin : Origin) (span : Option Text.Span) (h : entries.Distinct)
    : (table origin entries span).Distinct := by
  constructor
  . nofun
  . rintro _ ⟨⟩
    exact h.names
  . rintro _ ⟨⟩
    exact h.values

theorem distinct_tables (span : Option Text.Span) (h : ∀ item ∈ items, item.Distinct)
    : (tables items span).Distinct := by
  exact distinct_of_items rfl rfl h

theorem Distinct.inner (h : v.Distinct) (hv : v.entries? = some entries) : entries.Distinct := by
  cases h with
  | intro _ hnames hvalues => exact ⟨hnames entries hv, hvalues entries hv⟩

theorem Distinct.elements (h : v.Distinct) (hv : v.items? = some items)
    : ∀ item ∈ items, item.Distinct := by
  cases h with
  | intro hitems _ _ => exact hitems items hv

end Node

namespace Entries

variable {entries : Entries} {key : Key} {node : Node}

theorem distinct_nil : Distinct [] := by
  exact ⟨List.nodup_nil, nofun⟩

namespace Distinct

variable (h : entries.Distinct)
include h

theorem find? {name : String} (hfind : entries.find? name = some node) : node.Distinct := by
  have ⟨entry, hentry, hnode⟩ := Option.map_eq_some_iff.mp hfind
  exact hnode ▸ h.values entry (List.mem_of_find?_eq_some hentry)

theorem append (hnew : key.name ∉ entries.names) (hnode : node.Distinct)
    : Distinct (entries ++ [(key, node)]) := by
  constructor
  . rw [names_append]
    refine List.nodup_append.mpr ⟨h.names, List.pairwise_singleton _ _, ?_⟩
    intro old hmem new hnew'
    rw [List.mem_singleton.mp hnew']
    exact ne_of_mem_of_not_mem hmem hnew
  . intro entry hmem
    rcases List.mem_append.mp hmem with hold | hlast
    . exact h.values entry hold
    . rw [List.mem_singleton.mp hlast]
      exact hnode

theorem replace (name : String) (hnode : node.Distinct) : Distinct (entries.replace name node) := by
  constructor
  . rw [names_replace]
    exact h.names
  . intro entry hmem
    have ⟨old, hold, hentry⟩ := List.mem_map.mp hmem
    rw [← hentry]
    show Node.Distinct (if old.1.name == name then node else old.2)
    split
    . exact hnode
    . exact h.values old hold

theorem erase (name : String) : Distinct (entries.erase name) := by
  constructor
  . exact h.names.sublist (List.filter_sublist.map _)
  . intro entry hmem
    exact h.values entry ((List.mem_filter.mp hmem).1)

end Distinct

/-- The table that the keys lead to has the property, if they lead to one. -/
def At (property : Entries → Prop) : List Key → Entries → Prop
  | [], entries => property entries
  | key :: path, entries =>
    match entries.find? key.name with
    | none => At property path []
    | some (.table _ inner _) => At property path inner
    | some (.tables items _) =>
      match items.getLast? with
      | some (.table _ inner _) => At property path inner
      | _ => True
    | some _ => True

theorem at_trivial (path : List Key) (entries : Entries) : At (fun _ => True) path entries := by
  induction path generalizing entries with
  | nil => trivial
  | cons key path ih =>
    unfold At
    split
    . exact ih _
    . exact ih _
    . split
      . exact ih _
      . trivial
    . trivial

end Entries

namespace Edit

variable {α : Type} {made here : Origin} {change : Origin → Edit α} {path : List Key}
  {entries after : Entries} {a : α} {before' after' : Entries → Prop} {given : α → Prop}

variable (given after') in
/-- A change at the end of the way changes nothing beside it, and the way leads there afterwards. -/
theorem distinct_within
    (hchange : ∀ origin entries a after, change origin entries = some (a, after) →
      entries.Distinct → before' entries → given a ∧ after.Distinct ∧ after' after)
    (h : (within made change here path).run entries = some (a, after)) (hentries : entries.Distinct)
    (hbefore : entries.At before' path)
    : given a ∧ after.Distinct ∧ after.At after' path := by
  induction path generalizing here entries a after with
  | nil => exact hchange here entries a after h hentries hbefore
  | cons key path ih =>
    unfold Entries.At at hbefore ⊢
    unfold within at h
    dsimp only [StateT.run] at h
    split at h
    . next hfind =>
      simp only [hfind] at hbefore
      have ⟨⟨a, inner⟩, hrun, hafter⟩ := Option.bind_eq_some_iff.mp h
      have ⟨hgiven, hinner, hat⟩ := ih hrun Entries.distinct_nil hbefore
      cases hafter
      refine ⟨hgiven, ?_, ?_⟩
      . exact hentries.append (Entries.find?_eq_none_iff.mp hfind)
          (Node.distinct_table made none hinner)
      . simp only [Entries.find?_append_of_eq_none hfind]
        exact hat
    . next origin inner span hfind =>
      simp only [hfind] at hbefore
      split at h
      . cases h
      . have ⟨⟨a, inner'⟩, hrun, hafter⟩ := Option.bind_eq_some_iff.mp h
        have hinner := (hentries.find? hfind).inner rfl
        have ⟨hgiven, hinner', hat⟩ := ih hrun hinner hbefore
        cases hafter
        refine ⟨hgiven, hentries.replace _ (Node.distinct_table origin span hinner'), ?_⟩
        simp only [Entries.find?_replace hfind]
        exact hat
    . next items span hfind =>
      simp only [hfind] at hbefore
      split at h
      . next origin inner place hlast =>
        simp only [hlast] at hbefore
        have ⟨⟨a, inner'⟩, hrun, hafter⟩ := Option.bind_eq_some_iff.mp h
        have hitems := (hentries.find? hfind).elements rfl
        have hinner := (hitems _ (List.mem_of_getLast? hlast)).inner rfl
        have ⟨hgiven, hinner', hat⟩ := ih hrun hinner hbefore
        cases hafter
        refine ⟨hgiven, hentries.replace _ (Node.distinct_tables span ?_), ?_⟩
        . intro item hmem
          rcases List.mem_append.mp hmem with hold | hnew
          . exact hitems item ((List.dropLast_sublist items).subset hold)
          . rw [List.mem_singleton.mp hnew]
            exact Node.distinct_table origin place hinner'
        . simp only [Entries.find?_replace hfind, List.getLast?_concat]
          exact hat
      . cases h
    . cases h

theorem distinct_of_within
    (hchange : ∀ origin entries a after, change origin entries = some (a, after) →
      entries.Distinct → before' entries → after.Distinct)
    (h : (within made change here path).run entries = some (a, after)) (hentries : entries.Distinct)
    (hbefore : entries.At before' path) : after.Distinct := by
  have ⟨_, hafter, _⟩ : True ∧ after.Distinct ∧ after.At (fun _ => True) path := by
    refine distinct_within (fun _ => True) (fun _ => True) ?_ h hentries hbefore
    intro origin entries a after hrun hentries hbefore
    exact ⟨trivial, hchange origin entries a after hrun hentries hbefore, trivial⟩
  exact hafter

theorem distinct_assign {path : KeyPath} {value : Node}
    (h : (assign path value).run entries = some ((), after)) (hentries : entries.Distinct)
    (hvalue : value.Distinct) : after.Distinct := by
  have hadd : ∀ origin entries a after, assign.add path value origin entries = some (a, after) →
      entries.Distinct → True → after.Distinct := by
    intro origin entries a after hadd hentries _
    unfold assign.add at hadd
    split at hadd
    . cases hadd
    . split at hadd
      . cases hadd
      . next hfind =>
        cases hadd
        have hnew := Entries.find?_eq_none_iff.mp (Option.not_isSome_iff_eq_none.mp hfind)
        exact hentries.append hnew hvalue
  exact distinct_of_within hadd h hentries (Entries.at_trivial _ _)

theorem distinct_forM_assign {pairs : List (KeyPath × Node)}
    (h : (pairs.forM fun (path, v) => assign path v).run entries = some ((), after))
    (hentries : entries.Distinct) (hpairs : ∀ pair ∈ pairs, pair.2.Distinct) : after.Distinct := by
  induction pairs generalizing entries with
  | nil =>
    cases h
    exact hentries
  | cons pair pairs ih =>
    have ⟨hfirst, hrest⟩ := List.forall_mem_cons.mp hpairs
    have ⟨⟨_, mid⟩, hrun, hothers⟩ := Option.bind_eq_some_iff.mp h
    exact ih hothers (distinct_assign hrun hentries hfirst) hrest

end Edit

/-- No table has a key twice, neither in the tree nor in the table that the statements are about, and
that one can still be put into the tree. -/
structure Draft.Sound (d : Draft) : Prop where
  tree : d.tree.Distinct
  entries : d.entries.Distinct
  table : ∀ path, d.place = .table path → d.tree.At (path.last.name ∉ ·.names) path.parents

namespace Draft

theorem sound_empty : empty.Sound := by
  exact ⟨Entries.distinct_nil, Entries.distinct_nil, nofun⟩

variable {d d' : Draft} {entries : Entries}

theorem Sound.close (h : d.Sound) (hclose : d.close = some entries) : entries.Distinct := by
  have hnode := Node.distinct_table .header (some d.span) h.entries
  unfold Draft.close at hclose
  split at hclose
  . cases hclose
    exact h.entries
  . next path hplace =>
    have ⟨⟨_, after⟩, hrun, hafter⟩ := Option.map_eq_some_iff.mp hclose
    cases hafter
    refine Edit.distinct_of_within ?_ hrun h.tree (h.table path hplace)
    rintro origin entries _ _ ⟨⟩ hentries hnew
    exact hentries.append hnew hnode
  . next path hplace =>
    have ⟨⟨_, after⟩, hrun, hafter⟩ := Option.map_eq_some_iff.mp hclose
    cases hafter
    refine Edit.distinct_of_within ?_ hrun h.tree (Entries.at_trivial _ _)
    intro origin entries a after hchange hentries _
    dsimp only at hchange
    split at hchange
    . next items _ hfind =>
      cases hchange
      apply hentries.replace _ (Node.distinct_tables _ ?_)
      intro item hmem
      rcases List.mem_append.mp hmem with hold | hlast
      . exact (hentries.find? hfind).elements rfl item hold
      . rw [List.mem_singleton.mp hlast]
        exact hnode
    . cases hchange

theorem Sound.beginTable {path : KeyPath} {span : Text.Span} (h : d.Sound)
    (hbegin : d.beginTable path span = some d') : d'.Sound := by
  unfold Draft.beginTable at hbegin
  have ⟨closed, hclose, hbegin⟩ := Option.bind_eq_some_iff.mp hbegin
  have ⟨⟨inner, tree⟩, hrun, hdone⟩ := Option.bind_eq_some_iff.mp hbegin
  cases hdone
  -- what is known of the table has been taken out of the tree, if the tree had it
  have ⟨hinner, htree, hnew⟩ : Entries.Distinct inner ∧ Entries.Distinct tree ∧
      tree.At (path.last.name ∉ ·.names) path.parents := by
    refine Edit.distinct_within (path.last.name ∉ ·.names) Entries.Distinct ?_ hrun (h.close hclose)
      (Entries.at_trivial _ _)
    intro origin entries a after hchange hentries _
    split at hchange
    . next hfind =>
      cases hchange
      exact ⟨Entries.distinct_nil, hentries, Entries.find?_eq_none_iff.mp hfind⟩
    . next hfind =>
      cases hchange
      exact ⟨(hentries.find? hfind).inner rfl, hentries.erase _, Entries.not_mem_names_erase⟩
    . cases hchange
  refine ⟨htree, hinner, ?_⟩
  rintro path' ⟨⟩
  exact hnew

theorem Sound.beginElement {path : KeyPath} {span : Text.Span} (h : d.Sound)
    (hbegin : d.beginElement path span = some d') : d'.Sound := by
  unfold Draft.beginElement at hbegin
  have ⟨closed, hclose, hbegin⟩ := Option.bind_eq_some_iff.mp hbegin
  have ⟨⟨_, tree⟩, hrun, hdone⟩ := Option.bind_eq_some_iff.mp hbegin
  cases hdone
  refine ⟨?_, Entries.distinct_nil, nofun⟩
  refine Edit.distinct_of_within ?_ hrun (h.close hclose) (Entries.at_trivial _ _)
  intro origin entries a after hchange hentries _
  split at hchange
  . next hfind =>
    cases hchange
    have hitems : Node.Distinct (.tables [] none) := Node.distinct_tables none nofun
    exact hentries.append (Entries.find?_eq_none_iff.mp hfind) hitems
  . cases hchange
    exact hentries
  . cases hchange

end Draft

namespace Grammar

open Text Reader

/-- What stands between the first and the last character of a value has no key twice. -/
def Sound (make : Span → Node) : Prop :=
  ∀ span, (make span).Distinct

theorem scalar_gives : scalar.Gives Sound := by
  have hscalar {α : Type} (x : Reader α) (make : α → Span → Node)
      (hitems : ∀ a span, (make a span).items? = none)
      (hentries : ∀ a span, (make a span).entries? = none) : Gives (make <$> x) Sound := by
    apply (gives_trivial x).map
    intro a _ span
    exact Node.distinct_of_scalar (hitems a span) (hentries a span)
  have hword (x : Reader Unit) (make : Span → Node) (hitems : ∀ span, (make span).items? = none)
      (hentries : ∀ span, (make span).entries? = none)
      : Gives (do x; return make) Sound := by
    apply gives_bind
    intro _
    exact gives_pure fun span => Node.distinct_of_scalar (hitems span) (hentries span)
  unfold scalar
  refine .orElse (hscalar quoted .string ?_ ?_) (.orElse (hword date .date ?_ ?_)
    (.orElse (hscalar float .float ?_ ?_) (.orElse (hscalar integer .integer ?_ ?_)
      (.orElse (hword _ (.boolean true) ?_ ?_) (hword _ (.boolean false) ?_ ?_)))))
  all_goals
    intros
    rfl

section

variable {value : Reader Node} (hvalue : value.Gives Node.Distinct)
include hvalue

theorem array_gives : (array value).Gives Sound := by
  have helement : Gives (do blankLines; let v ← value; blankLines; return v) Node.Distinct := by
    exact gives_bind fun _ => hvalue.bind fun v hv => gives_bind fun _ => gives_pure hv
  unfold array
  apply gives_bind
  intro _
  have hitems : Gives (do
      let items ← separated (char ',') (do blankLines; let v ← value; blankLines; return v)
      let _ ← optional (char ',')
      return items) fun items => ∀ item ∈ items, item.Distinct := by
    exact (helement.separated _).bind fun items hall => gives_bind fun _ => gives_pure hall
  apply hitems.optional.bind
  intro items hall
  refine gives_bind fun _ => gives_bind fun _ => gives_pure fun span => ?_
  apply Node.distinct_of_items rfl rfl
  cases items with
  | none => nofun
  | some items => exact hall items rfl

theorem inlineTable_gives : (inlineTable value).Gives Sound := by
  have hpair : Gives (do
      let path ← keyPath
      char '='
      blanks
      let v ← value
      blanks
      return (path, v)) fun pair => pair.2.Distinct := by
    refine gives_bind fun path => gives_bind fun _ => gives_bind fun _ => ?_
    exact hvalue.bind fun v hv => gives_bind fun _ => gives_pure hv
  unfold inlineTable
  apply gives_bind
  intro _
  apply (hpair.separated (char ',')).optional.bind
  intro pairs hpairs
  refine gives_bind fun _ => gives_bind fun _ => ?_
  split
  . next entries hrun =>
    apply gives_pure
    intro span
    apply Node.distinct_table
    apply Edit.distinct_forM_assign hrun Entries.distinct_nil
    cases pairs with
    | none => nofun
    | some pairs => exact hpairs pairs rfl
  . exact gives_failure

end

theorem valueWithin_gives (depth : Nat) : (valueWithin depth).Gives Node.Distinct := by
  induction depth with
  | zero =>
    unfold valueWithin
    apply scalar_gives.spanned.bind
    intro found hsound
    exact gives_pure (hsound found.2)
  | succ depth ih =>
    unfold valueWithin
    apply (scalar_gives.orElse ((array_gives ih).orElse (inlineTable_gives ih))).spanned.bind
    intro found hsound
    exact gives_pure (hsound found.2)

/-- What the statement says of a key has no key twice in itself. -/
def Stated : Statement → Prop
  | .assign _ value => value.Distinct
  | _ => True

theorem header_gives : header.Gives Stated := by
  unfold header
  apply Gives.orElse
  . exact gives_bind fun _ => gives_pure trivial
  . exact gives_bind fun _ => gives_pure trivial

theorem assignment_gives : assignment.Gives Stated := by
  unfold assignment
  refine gives_bind fun _ => gives_bind fun _ => gives_bind fun _ => ?_
  exact (valueWithin_gives _).bind fun value hvalue => gives_pure hvalue

theorem line_gives : line.Gives fun found => ∀ statement, found = some statement → Stated statement := by
  unfold line
  refine .orElse ?_ (.orElse ?_ ?_)
  . exact gives_bind fun _ => gives_bind fun _ => gives_pure nofun
  . exact gives_bind fun _ => gives_pure nofun
  . apply (header_gives.orElse assignment_gives).bind
    intro statement hstatement
    refine gives_bind fun _ => gives_pure ?_
    rintro _ ⟨⟩
    exact hstatement

theorem statements_gives : statements.Gives fun found => ∀ statement ∈ found, Stated statement := by
  have hline : Gives (do let l ← line; blanks; return l)
      fun found => ∀ statement, found = some statement → Stated statement := by
    exact line_gives.bind fun l hl => gives_bind fun _ => gives_pure hl
  unfold statements
  refine gives_bind fun _ => gives_bind fun _ => hline.many.bind fun lines hlines => gives_pure ?_
  intro statement hmem
  have ⟨found, hfound, heq⟩ := List.mem_filterMap.mp hmem
  exact hlines found hfound statement heq

end Grammar

theorem Draft.Sound.state {d d' : Draft} {statement : Statement} (h : d.Sound)
    (hstated : Grammar.Stated statement) (hstate : d.state statement = some d') : d'.Sound := by
  cases statement with
  | table path span => exact h.beginTable hstate
  | element path span => exact h.beginElement hstate
  | assign path value =>
    have ⟨⟨_, entries⟩, hrun, hdone⟩ := Option.bind_eq_some_iff.mp hstate
    cases hdone
    exact ⟨h.tree, Edit.distinct_assign hrun h.entries hstated, h.table⟩

theorem Draft.Sound.foldlM {d d' : Draft} {statements : List Statement} (h : d.Sound)
    (hstated : ∀ statement ∈ statements, Grammar.Stated statement)
    (hfold : statements.foldlM Draft.state d = some d') : d'.Sound := by
  induction statements generalizing d with
  | nil =>
    cases hfold
    exact h
  | cons statement statements ih =>
    have ⟨hfirst, hrest⟩ := List.forall_mem_cons.mp hstated
    have ⟨next, hstate, hfold⟩ := Option.bind_eq_some_iff.mp hfold
    exact ih (h.state hfirst hstate) hrest hfold

/-- A text with a table that has a key twice is no document. -/
theorem Document.distinct_of_read? {text : String} {document : Document}
    (h : read? text = some document) : document.entries.Distinct := by
  have ⟨statements, hrun, hstatements⟩ := Option.bind_eq_some_iff.mp h
  have ⟨draft, hfold, hdone⟩ := Option.bind_eq_some_iff.mp hstatements
  have ⟨entries, hclose, hdocument⟩ := Option.bind_eq_some_iff.mp hdone
  cases hdocument
  have hstated := Grammar.statements_gives.run hrun
  exact (Draft.sound_empty.foldlM hstated hfold).close hclose

end NativeCall.Toml
