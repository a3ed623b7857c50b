import Mathlib.Data.List.Perm.Basic
import Mathlib.Data.Option.Basic
import NativeCall.Config.Document
import NativeCall.Proofs.Formats
import NativeCall.Proofs.Keys

/-!
This module contains that the format of documents keeps what is promised of one.
-/

namespace NativeCall

open Toml
open Text (Span)

namespace Toml.Node

def Hollow (v : Node) : Prop :=
  v.items? = some [] ∨ v.entries? = some []

/-- The values are the same wherever they stand, whichever way they are written, and in whatever order
the entries of their tables are. What dates say does not count. -/
inductive Alike : Node → Node → Prop where
  | string (text : String) (span span' : Span) : Alike (.string text span) (.string text span')
  | integer (n : Int64) (span span' : Span) : Alike (.integer n span) (.integer n span')
  | float (d : Decimal.Double) (span span' : Span) : Alike (.float d span) (.float d span')
  | boolean (b : Bool) (span span' : Span) : Alike (.boolean b span) (.boolean b span')
  | date (span span' : Span) : Alike (.date span) (.date span')
  | array {v v' : Node} {items items' : List Node} (h : v.items? = some items)
      (h' : v'.items? = some items') (hlength : items.length = items'.length)
      (hitems : ∀ (i : Nat) item item', items[i]? = some item → items'[i]? = some item' →
        Alike item item') : Alike v v'
  | table {v v' : Node} {entries entries' : Entries} (h : v.entries? = some entries)
      (h' : v'.entries? = some entries') (hnames : entries.names.Perm entries'.names)
      (hvalues : ∀ name value value', entries.find? name = some value →
        entries'.find? name = some value' → Alike value value') : Alike v v'

variable {v v' : Node} {items : List Node} {entries entries' : Entries}

theorem Alike.symm (h : Alike v v') : Alike v' v := by
  induction h with
  | string text span span' => exact .string text span' span
  | integer n span span' => exact .integer n span' span
  | float d span span' => exact .float d span' span
  | boolean b span span' => exact .boolean b span' span
  | date span span' => exact .date span' span
  | array h h' hlength _ ih =>
    exact .array h' h hlength.symm fun i item' item hitem' hitem => ih i item item' hitem hitem'
  | table h h' hnames _ ih =>
    exact .table h' h hnames.symm fun name value' value hvalue' hvalue =>
      ih name value value' hvalue hvalue'

theorem entries?_eq_none_of_items? (h : v.items? = some items) : v.entries? = none := by
  cases v with
  | array _ _ => rfl
  | tables _ _ => rfl
  | _ => cases h

theorem Alike.hollow (h : Alike v v') (hhollow : v.Hollow) : v'.Hollow := by
  cases h with
  | array h h' hlength _ =>
    rcases hhollow with hitems | hentries
    . cases h.symm.trans hitems
      exact .inl (h'.trans (congrArg some (List.eq_nil_of_length_eq_zero hlength.symm)))
    . cases (entries?_eq_none_of_items? h).symm.trans hentries
  | table h h' hnames _ =>
    rcases hhollow with hitems | hentries
    . cases (entries?_eq_none_of_items? hitems).symm.trans h
    . cases h.symm.trans hentries
      exact .inr (h'.trans (congrArg some (List.map_eq_nil_iff.mp hnames.nil_eq.symm)))
  | _ =>
    rcases hhollow with hitems | hentries
    . cases hitems
    . cases hentries

end Toml.Node

namespace Item

variable {v v' : Item}

theorem filterNamed_eq_ok_iff {name : String} {span : Span} {filter : LevelFilter}
    : filterNamed name span = .ok filter ↔ LevelFilter.ofName? name = some filter := by
  unfold filterNamed misshapen
  split <;> simp_all

theorem checkEmpty_eq_ok_iff {node : Node} {span : Span}
    : checkEmpty node span = .ok () ↔ node.Hollow := by
  unfold checkEmpty Node.Hollow misshapen
  cases node with
  | array items _ => cases items <;> simp [Node.items?, Node.entries?]
  | tables items _ => cases items <;> simp [Node.items?, Node.entries?]
  | table _ entries _ => cases entries <;> simp [Node.items?, Node.entries?]
  | _ => simp [Node.items?, Node.entries?]

/-- The value names the level filter: it is the name, or a table with the name alone as its key and
nothing behind it. -/
inductive Names : Node → LevelFilter → Prop where
  | text {name : String} {filter : LevelFilter} (span : Span)
      (hname : LevelFilter.ofName? name = some filter) : Names (.string name span) filter
  | key {v value : Node} {key : Key} {filter : LevelFilter}
      (hentries : v.entries? = some [(key, value)])
      (hname : LevelFilter.ofName? key.name = some filter) (hempty : value.Hollow) : Names v filter

theorem names_table_iff {origin : Origin} {entries : Entries} {place : Option Span}
    {filter : LevelFilter}
    : Names (.table origin entries place) filter ↔ ∃ key value,
        entries = [(key, value)] ∧ LevelFilter.ofName? key.name = some filter ∧ value.Hollow := by
  constructor
  . rintro (_ | ⟨hentries, hname, hempty⟩)
    exact ⟨_, _, Option.some.inj hentries, hname, hempty⟩
  . rintro ⟨key, value, rfl, hname, hempty⟩
    exact .key rfl hname hempty

theorem levelFilter_eq_ok_iff {filter : LevelFilter}
    : v.levelFilter = .ok filter ↔ Names v.node filter := by
  rcases v with ⟨node, span⟩
  cases node with
  | string name place =>
    unfold levelFilter
    rw [filterNamed_eq_ok_iff]
    constructor
    . exact .text place
    . rintro (⟨_, hname⟩ | ⟨hentries, _, _⟩)
      . exact hname
      . cases hentries
  | table origin entries place =>
    rw [names_table_iff]
    match entries with
    | [] => simp [levelFilter, misshapen]
    | [(key, value)] =>
      unfold levelFilter
      simp only [except_bind_eq_ok_iff, filterNamed_eq_ok_iff]
      constructor
      . rintro ⟨found, hname, _, hempty, hfound⟩
        cases hfound
        exact ⟨key, value, rfl, hname, checkEmpty_eq_ok_iff.mp hempty⟩
      . rintro ⟨_, _, ⟨⟩, hname, hempty⟩
        exact ⟨filter, hname, (), checkEmpty_eq_ok_iff.mpr hempty, rfl⟩
    | _ :: _ :: _ => simp [levelFilter, misshapen]
  | _ =>
    constructor
    . nofun
    . rintro (_ | ⟨hentries, _, _⟩)
      cases hentries

theorem Names.of_alike {node node' : Node} {filter : LevelFilter} (h : Names node filter)
    (halike : node.Alike node') : Names node' filter := by
  cases h with
  | text span hname =>
    cases halike with
    | string _ _ span' => exact .text span' hname
    | array hitems _ _ _ => cases hitems
    | table hentries _ _ _ => cases hentries
  | @key _ value key _ hentries hname hempty =>
    cases halike with
    | array hitems _ _ _ => cases (Node.entries?_eq_none_of_items? hitems).symm.trans hentries
    | @table _ _ entries entries' h h' hnames hvalues =>
      cases h.symm.trans hentries
      -- the only entry of one table is the only one of the other
      have ⟨⟨key', value'⟩, hentries', hkey⟩ :=
        List.map_eq_singleton_iff.mp (List.singleton_perm.mp hnames).symm
      rw [hentries'] at h' hvalues
      have hvalue := Entries.find?_cons (key, value) [] key.name
      have hvalue' := Entries.find?_cons (key', value') [] key.name
      rw [if_pos rfl] at hvalue
      rw [if_pos hkey] at hvalue'
      exact .key h' (hkey ▸ hname) ((hvalues _ _ _ hvalue hvalue').hollow hempty)
    | _ => cases hentries

theorem boolean_eq_ok_iff {b : Bool} : v.boolean = .ok b ↔ ∃ span, v.node = .boolean b span := by
  rcases v with ⟨node, span⟩
  cases node with
  | boolean b' place => simp [boolean]
  | _ => simp [boolean, misshapen]

theorem boolean_of_alike {b : Bool} (halike : v.node.Alike v'.node) (h : v.boolean = .ok b)
    : v'.boolean = .ok b := by
  have ⟨span, hv⟩ := boolean_eq_ok_iff.mp h
  rw [hv] at halike
  rw [boolean_eq_ok_iff]
  generalize v'.node = node' at halike
  cases halike with
  | boolean _ _ span' => exact ⟨span', rfl⟩
  | array hitems _ _ _ => cases hitems
  | table hentries _ _ _ => cases hentries

section

variable {δ σ : Type} {declared : Record Item ConfigError δ σ} {entries : List (String × Item)}
  {items items' : List Item} {s : σ}

theorem conclude_eq_ok_iff {fault : String → ShapeFault} {d : δ}
    : v.conclude declared fault d = .ok s ↔ declared.finish d = .ok s := by
  unfold conclude misshapen
  split <;> simp_all

theorem record_of_entries (hentries : v.entries? = some entries)
    : v.record declared = .ok s ↔
        ∃ d, entries.foldlM declared.visit declared.start = .ok d ∧ declared.finish d = .ok s := by
  unfold record
  simp only [hentries, except_bind_eq_ok_iff, conclude_eq_ok_iff]

theorem record_of_items (hentries : v.entries? = none) (hitems : v.items? = some items)
    : v.record declared = .ok s ↔
        ∃ d, (declared.fields.zip items).foldlM (fun d (field, item) => field.put item d)
          declared.start = .ok d ∧ declared.finish d = .ok s := by
  unfold record
  simp only [hentries, hitems, except_bind_eq_ok_iff, conclude_eq_ok_iff]

theorem record_of_date {span place : Span}
    : record declared ⟨.date place, span⟩ = .ok s ↔ declared.finish declared.start = .ok s := by
  exact conclude_eq_ok_iff

theorem foldlM_put_of_alike {fields : List (Field Item ConfigError δ)}
    (hfields : ∀ field ∈ fields, Format.toml.Respects (fun v v' => v.node.Alike v'.node) field)
    (halike : List.Forall₂ (fun v v' => v.node.Alike v'.node) items items') {d d' : δ}
    (h : (fields.zip items).foldlM (fun d (field, item) => field.put item d) d = .ok d')
    : (fields.zip items').foldlM (fun d (field, item) => field.put item d) d = .ok d' := by
  induction fields generalizing items items' d with
  | nil => exact h
  | cons field fields ih =>
    cases halike with
    | nil => exact h
    | cons hfirst hrest =>
      have ⟨hput, hfields⟩ := List.forall_mem_cons.mp hfields
      rw [List.zip_cons_cons, List.foldlM_cons, except_bind_eq_ok_iff] at h ⊢
      have ⟨mid, hmid, hothers⟩ := h
      exact ⟨mid, hput _ _ _ _ hfirst hmid, ih hfields hrest hothers⟩

end

theorem entries?_eq_some {entries : List (String × Item)} (h : v.entries? = some entries)
    : ∃ inner, v.node.entries? = some inner ∧ entries.map Prod.fst = Entries.names inner ∧
        ∀ entry ∈ entries, ∃ old ∈ inner, old.2 = entry.2.node := by
  have ⟨inner, hinner, hentries⟩ := Option.map_eq_some_iff.mp h
  subst hentries
  refine ⟨inner, hinner, ?_, ?_⟩
  . rw [List.map_map]
    rfl
  . intro entry hmem
    have ⟨old, hold, hentry⟩ := List.mem_map.mp hmem
    exact ⟨old, hold, hentry ▸ rfl⟩

theorem distinct_of_inside (h : Format.toml.Inside v v') (hv : v.node.Distinct)
    : v'.node.Distinct := by
  refine h.induct (p := fun u : Item => u.node.Distinct) ?_ hv
  intro table entries htable hdistinct entry hmem
  have ⟨inner, hinner, _, hentries⟩ := entries?_eq_some htable
  have ⟨old, hold, hnode⟩ := hentries _ hmem
  exact hnode ▸ (hdistinct.inner hinner).values old hold

theorem items_alike {items : List Item} {nodes nodes' : List Node}
    (hitems : v.items? = some items) (h : v.node.items? = some nodes)
    (h' : v'.node.items? = some nodes') (hlength : nodes.length = nodes'.length)
    (halike : ∀ (i : Nat) node node', nodes[i]? = some node → nodes'[i]? = some node' →
      Node.Alike node node')
    : ∃ items', v'.items? = some items' ∧
        List.Forall₂ (fun v v' => v.node.Alike v'.node) items items' := by
  unfold items? at hitems ⊢
  rw [h] at hitems
  rw [h']
  cases hitems
  refine ⟨_, rfl, ?_⟩
  rw [List.forall₂_map_left_iff, List.forall₂_map_right_iff, List.forall₂_iff_get]
  refine ⟨hlength, ?_⟩
  intro i hi hi'
  exact halike i _ _ (List.getElem?_eq_getElem hi) (List.getElem?_eq_getElem hi')

theorem record_of_alike {δ σ : Type} {declared : Record Item ConfigError δ σ} {s : σ}
    (hfields : ∀ field ∈ declared.fields,
      Format.toml.Respects (fun v v' => v.node.Alike v'.node) field)
    (halike : v.node.Alike v'.node) (hentries : v.entries? = none) (h : v.record declared = .ok s)
    : v'.record declared = .ok s := by
  rcases v with ⟨node, span⟩
  rcases v' with ⟨node', span'⟩
  cases halike with
  | date _ _ => exact record_of_date.mpr (record_of_date.mp h)
  | table hnode _ _ _ =>
    unfold entries? at hentries
    rw [hnode] at hentries
    cases hentries
  | @array _ _ nodes nodes' hnode hnode' hlength hnodes =>
    have ⟨items, hitems⟩ : ∃ items, items? ⟨node, span⟩ = some items := by
      unfold items?
      rw [hnode]
      exact ⟨_, rfl⟩
    have ⟨items', hitems', hall⟩ : ∃ items', items? ⟨node', span'⟩ = some items' ∧ _ :=
      items_alike hitems hnode hnode' hlength hnodes
    have hentries' : entries? ⟨node', span'⟩ = none := by
      unfold entries?
      rw [Node.entries?_eq_none_of_items? hnode']
      rfl
    rw [record_of_items hentries hitems] at h
    rw [record_of_items hentries' hitems']
    have ⟨d, hfold, hfinish⟩ := h
    exact ⟨d, foldlM_put_of_alike hfields hall hfold, hfinish⟩
  | _ => cases h

end Item

theorem Toml.Document.entries?_item (document : Document)
    : ∃ entries, document.item.entries? = some entries := by
  exact ⟨_, rfl⟩

theorem Format.read_toml_eq_ok {text : String} {v : Item} (h : toml.read text = .ok v)
    : ∃ document, Document.read? text = some document ∧ v = document.item := by
  dsimp only [toml] at h
  split at h
  . next document hread =>
    cases h
    exact ⟨document, hread, rfl⟩
  . cases h

/-- Values are the same if they are alike wherever they stand. -/
theorem Format.lawful_toml : toml.Lawful fun v v' => v.node.Alike v'.node where
  exists_entries h := by
    have ⟨document, _, hv⟩ := read_toml_eq_ok h
    exact hv ▸ document.entries?_item
  nodup h hin htable := by
    have ⟨document, hread, hv⟩ := read_toml_eq_ok h
    have hdistinct : document.item.node.Distinct := by
      exact Node.distinct_table .header none (Document.distinct_of_read? hread)
    have ⟨inner, hinner, hnames, _⟩ := Item.entries?_eq_some htable
    rw [hnames]
    exact ((Item.distinct_of_inside hin (hv ▸ hdistinct)).inner hinner).names
  record_of_table declared _ _ hentries _ _ := Item.record_of_entries hentries
  same_symm h := h.symm
  boolean_of_same h hv := Item.boolean_of_alike h hv
  levelFilter_of_same h hv := by
    exact Item.levelFilter_eq_ok_iff.mpr ((Item.levelFilter_eq_ok_iff.mp hv).of_alike h)
  record_of_same hfields _ _ h hentries _ hv := Item.record_of_alike hfields h hentries hv

end NativeCall
