import Mathlib.Data.List.Find
import Mathlib.Data.List.Nodup
import NativeCall.Posix.Walk

/-!
This module contains what becomes of the names of directories when a tree of files is changed.
-/

namespace NativeCall.FileTree

variable {t t' t'' : FileTree}

def ids (t : FileTree) : List Nat :=
  t.nodes.map Prod.fst

/-- The next number is new, and no directory has two entries of one name. -/
structure Sound (t : FileTree) : Prop where
  numbered : ∀ id ∈ t.ids, id < t.next
  named : ∀ id, ((t.entries id).map Prod.fst).Nodup

/-- The tree `t'` is sound, and what is a directory in `t` is one in it. -/
structure Survives (t t' : FileTree) : Prop where
  sound : t'.Sound
  directory : ∀ id, t.isDirectory id → t'.isDirectory id

/-- What is a directory in `t` is one in `t'` and has the same name. -/
structure Keeps (t t' : FileTree) : Prop extends Survives t t' where
  holder : ∀ id, t.isDirectory id → ∀ place, t.holder? id = some place → t'.holder? id = some place
  size : t.ids.length ≤ t'.ids.length

theorem Survives.trans (h : t.Survives t') (h' : t'.Survives t'') : t.Survives t'' := by
  refine ⟨h'.sound, ?_⟩
  intro id hid
  exact h'.directory id (h.directory id hid)

theorem Keeps.refl (h : t.Sound) : t.Keeps t := by
  exact ⟨⟨h, fun _ => id⟩, fun _ _ _ => id, Nat.le_refl _⟩

theorem Keeps.trans (h : t.Keeps t') (h' : t'.Keeps t'') : t.Keeps t'' := by
  refine ⟨h.toSurvives.trans h'.toSurvives, ?_, Nat.le_trans h.size h'.size⟩
  intro id hid place hplace
  exact h'.holder id (h.directory id hid) place (h.holder id hid place hplace)

theorem isDirectory_iff {id : Nat}
    : t.isDirectory id ↔
        ∃ parent entries,
          (t.node? id).map FileNode.content = some (.directory parent entries) := by
  unfold isDirectory FileNode.isDirectory
  cases t.node? id with
  | none => simp
  | some n => cases hcontent : n.content <;> simp [hcontent]

theorem isDirectory_of_entries {id : Nat} (h : t.entries id ≠ []) : t.isDirectory id := by
  rw [isDirectory_iff]
  unfold entries at h
  split at h
  . next parent entries hcontent => exact ⟨parent, entries, hcontent⟩
  . exact absurd rfl h

theorem node?_eq_none {id : Nat} (h : id ∉ t.ids) : t.node? id = none := by
  unfold node?
  rw [List.lookup_eq_none_iff]
  intro entry hentry
  rw [bne_iff_ne]
  rintro rfl
  exact h (List.mem_map_of_mem hentry)

theorem sound_of_ids (hnumbered : ∀ id ∈ t.ids, id < t.next)
    (hnamed : ∀ id ∈ t.ids, ((t.entries id).map Prod.fst).Nodup) : t.Sound := by
  refine ⟨hnumbered, ?_⟩
  intro id
  by_cases hid : id ∈ t.ids
  . exact hnamed id hid
  . unfold entries
    rw [node?_eq_none hid]
    exact List.nodup_nil

theorem Sound.node?_next (h : t.Sound) : t.node? t.next = none := by
  apply node?_eq_none
  intro hmem
  exact Nat.lt_irrefl _ (h.numbered _ hmem)

theorem Sound.entries_next (h : t.Sound) : t.entries t.next = [] := by
  unfold entries
  rw [h.node?_next]
  rfl

theorem holder?_eq (id : Nat)
    : t.holder? id = t.ids.findSome? fun directory =>
        ((t.entries directory).find? (·.2 = id)).map fun entry => (directory, entry.1) := by
  unfold holder? ids
  rw [List.findSome?_map]
  rfl

theorem isDirectory_of_holder? {id : Nat} {place : Nat × Path} (h : t.holder? id = some place)
    : t.isDirectory place.1 := by
  rw [holder?_eq] at h
  have ⟨directory, _, hplace⟩ := List.exists_of_findSome?_eq_some h
  have ⟨entry, hentry, heq⟩ := Option.map_eq_some_iff.mp hplace
  rw [← heq]
  exact isDirectory_of_entries (List.ne_nil_of_mem (List.mem_of_find?_eq_some hentry))

/-- A directory that has a path has it in any tree that keeps the names of directories. -/
theorem Keeps.namesTo (h : t.Keeps t') {fuel fuel' : Nat} (hfuel : fuel ≤ fuel') {id : Nat}
    (hid : t.isDirectory id) {below names : List Path}
    (hnames : t.namesTo fuel id below = some names) : t'.namesTo fuel' id below = some names := by
  induction fuel generalizing fuel' id below with
  | zero => cases hnames
  | succ fuel ih =>
    obtain ⟨fuel', rfl⟩ : ∃ n, fuel' = n + 1 := ⟨fuel' - 1, by omega⟩
    unfold FileTree.namesTo at hnames ⊢
    split at hnames
    . next hroot => rw [if_pos hroot, hnames]
    . next hroot =>
      rw [if_neg hroot]
      cases hholder : t.holder? id with
      | none =>
        rw [hholder] at hnames
        cases hnames
      | some place =>
        rw [hholder] at hnames
        rw [h.holder id hid place hholder]
        exact ih (by omega) (isDirectory_of_holder? hholder) hnames

theorem Keeps.pathOf? (h : t.Keeps t') {id : Nat} (hid : t.isDirectory id) {path : Path}
    (hpath : t.pathOf? id = some path) : t'.pathOf? id = some path := by
  have hsize := h.size
  unfold ids at hsize
  rw [List.length_map, List.length_map] at hsize
  unfold FileTree.pathOf? at hpath ⊢
  obtain ⟨names, hnames, rfl⟩ := Option.map_eq_some_iff.mp hpath
  rw [h.namesTo (Nat.succ_le_succ hsize) hid hnames]
  rfl

theorem Keeps.of_entries (hsurvives : t.Survives t') {new : List Nat} (hids : t'.ids = new ++ t.ids)
    (hnew : ∀ id ∈ new, t.entries id = [])
    (hfind : ∀ id, t.isDirectory id → ∀ directory,
      (t'.entries directory).find? (·.2 = id) = (t.entries directory).find? (·.2 = id))
    : t.Keeps t' := by
  refine ⟨hsurvives, ?_, ?_⟩
  . intro id hid place hplace
    rw [← hplace, holder?_eq, holder?_eq, hids, List.findSome?_append]
    simp only [hfind id hid]
    have hnone : (new.findSome? fun directory =>
        ((t.entries directory).find? (·.2 = id)).map fun entry => (directory, entry.1)) = none := by
      rw [List.findSome?_eq_none_iff]
      intro directory hmem
      rw [hnew directory hmem]
      rfl
    rw [hnone, Option.none_or]
  . rw [hids, List.length_append]
    exact Nat.le_add_left _ _

section Update

variable {id : Nat} {f : FileNode → FileNode}

theorem ids_update : (t.update id f).ids = t.ids := by
  unfold ids update
  rw [List.map_map]
  apply List.map_congr_left
  intro entry _
  dsimp only [Function.comp_apply]
  split <;> rfl

theorem node?_update (i : Nat)
    : (t.update id f).node? i = if i = id then (t.node? i).map f else t.node? i := by
  unfold node? update
  induction t.nodes with
  | nil => simp
  | cons entry rest ih =>
    rw [List.map_cons, List.lookup_cons, List.lookup_cons, ih]
    rcases entry with ⟨key, n⟩
    by_cases hkey : i = key
    . subst hkey
      by_cases hid : i = id <;> simp [hid]
    . have hbeq : (i == key) = false := beq_eq_false_iff_ne.mpr hkey
      by_cases hid : key = id
      . subst hid
        simp [hkey, hbeq]
      . simp [hid, hbeq]

theorem content_update {g : FileContent → FileContent} (hf : ∀ n, (f n).content = g n.content)
    (i : Nat)
    : ((t.update id f).node? i).map FileNode.content =
        if i = id then ((t.node? i).map FileNode.content).map g
        else (t.node? i).map FileNode.content := by
  rw [node?_update]
  split
  . rw [Option.map_map, Option.map_map]
    congr 1
    funext n
    exact hf n
  . rfl

theorem content_update_of_eq (hf : ∀ n, (f n).content = n.content) (i : Nat)
    : ((t.update id f).node? i).map FileNode.content = (t.node? i).map FileNode.content := by
  rw [content_update (g := fun content => content) hf, Option.map_id', ite_self]

theorem entries_update_of_eq (hf : ∀ n, (f n).content = n.content) (i : Nat)
    : (t.update id f).entries i = t.entries i := by
  unfold entries
  rw [content_update_of_eq hf]

theorem keeps_update (hsound : t.Sound) (hf : ∀ n, (f n).content = n.content)
    : t.Keeps (t.update id f) := by
  refine .of_entries ⟨⟨?_, ?_⟩, ?_⟩ (List.nil_append _ ▸ ids_update) (List.forall_mem_nil _) ?_
  . rw [ids_update]
    exact hsound.numbered
  . intro i
    rw [entries_update_of_eq hf]
    exact hsound.named i
  . intro i hi
    rw [isDirectory_iff] at hi ⊢
    rwa [content_update_of_eq hf]
  . intro _ _ directory
    rw [entries_update_of_eq hf]

variable (id) in
theorem keeps_countLinks (hsound : t.Sound) (count : Nat → Nat)
    : t.Keeps (t.countLinks id count) := by
  apply keeps_update hsound
  intro n
  rfl

variable (id) in
theorem entries_countLinks (count : Nat → Nat) (i : Nat)
    : (t.countLinks id count).entries i = t.entries i := by
  apply entries_update_of_eq
  intro n
  rfl

end Update

section Entries

variable {id : Nat} {f : List (Path × Nat) → List (Path × Nat)}

theorem ids_updateEntries : (t.updateEntries id f).ids = t.ids := by
  exact ids_update

theorem content_updateEntries (i : Nat)
    : ((t.updateEntries id f).node? i).map FileNode.content =
        if i = id then
          ((t.node? i).map FileNode.content).map fun
            | .directory parent entries => .directory parent (f entries)
            | content => content
        else (t.node? i).map FileNode.content := by
  apply content_update
  intro n
  cases hcontent : n.content <;> simp [hcontent]

theorem isDirectory_updateEntries (i : Nat)
    : (t.updateEntries id f).isDirectory i = t.isDirectory i := by
  rw [Bool.eq_iff_iff, isDirectory_iff, isDirectory_iff, content_updateEntries]
  split
  . cases (t.node? i).map FileNode.content with
    | none => simp
    | some content => cases content <;> simp
  . rfl

theorem entries_updateEntries (i : Nat)
    : (t.updateEntries id f).entries i =
        if i = id ∧ t.isDirectory i then f (t.entries i) else t.entries i := by
  have hcontent := @content_updateEntries t id f i
  by_cases hdirectory : t.isDirectory i
  . have ⟨parent, entries, hentries⟩ := isDirectory_iff.mp hdirectory
    rw [hentries] at hcontent
    unfold FileTree.entries
    by_cases hid : i = id
    . rw [if_pos hid] at hcontent
      rw [if_pos ⟨hid, hdirectory⟩, hcontent, hentries]
      rfl
    . rw [if_neg hid] at hcontent
      rw [if_neg fun h => hid h.1, hcontent, hentries]
  . have hentries : (t.updateEntries id f).entries i = [] := by
      by_contra hne
      exact hdirectory (isDirectory_updateEntries i ▸ isDirectory_of_entries hne)
    rw [if_neg fun h => hdirectory h.2, hentries]
    by_contra hne
    exact hdirectory (isDirectory_of_entries (Ne.symm hne))

theorem survives_updateEntries (hsound : t.Sound)
    (hnamed : t.isDirectory id → ((f (t.entries id)).map Prod.fst).Nodup)
    : t.Survives (t.updateEntries id f) := by
  refine ⟨⟨?_, ?_⟩, ?_⟩
  . rw [ids_updateEntries]
    exact hsound.numbered
  . intro i
    rw [entries_updateEntries]
    split
    . next h =>
      obtain ⟨rfl, hdirectory⟩ := h
      exact hnamed hdirectory
    . exact hsound.named i
  . intro i hi
    rwa [isDirectory_updateEntries]

theorem holder?_updateEntries {i : Nat}
    (hfind : (f (t.entries id)).find? (·.2 = i) = (t.entries id).find? (·.2 = i))
    : (t.updateEntries id f).holder? i = t.holder? i := by
  rw [holder?_eq, holder?_eq, ids_updateEntries]
  congr 1
  funext directory
  rw [entries_updateEntries]
  split
  . next h => rw [h.1, hfind]
  . rfl

theorem Keeps.updateEntries (h : t.Keeps t') (hsurvives : t'.Survives (t'.updateEntries id f))
    (hfind : ∀ i, t.isDirectory i →
      (f (t'.entries id)).find? (·.2 = i) = (t'.entries id).find? (·.2 = i))
    : t.Keeps (t'.updateEntries id f) := by
  refine ⟨h.toSurvives.trans hsurvives, ?_, ?_⟩
  . intro i hi place hplace
    rw [holder?_updateEntries (hfind i hi)]
    exact h.holder i hi place hplace
  . rw [ids_updateEntries]
    exact h.size

theorem survives_enter (hsound : t.Sound) {directory : Nat} {name : Path}
    (hname : (t.entries directory).lookup name = none) (id : Nat)
    : t.Survives (t.enter directory name id) := by
  apply survives_updateEntries hsound
  intro _
  rw [List.map_append, List.map_singleton, List.nodup_append]
  refine ⟨hsound.named directory, List.nodup_singleton _, ?_⟩
  rintro a ha b hb rfl
  have ⟨entry, hentry, heq⟩ := List.mem_map.mp ha
  have hne := bne_iff_ne.mp (List.lookup_eq_none_iff.mp hname entry hentry)
  exact hne ((List.mem_singleton.mp hb).symm.trans heq.symm)

theorem Keeps.enter (h : t.Keeps t') {directory : Nat} {name : Path}
    (hname : (t'.entries directory).lookup name = none) {id : Nat} (hid : ¬ t.isDirectory id)
    : t.Keeps (t'.enter directory name id) := by
  apply h.updateEntries (survives_enter h.sound hname id)
  intro i hi
  have hne : ¬ id = i := by
    rintro rfl
    exact hid hi
  rw [List.find?_append, List.find?_singleton]
  simp [hne]

theorem survives_strike (hsound : t.Sound) (directory : Nat) (name : Path)
    : t.Survives (t.strike directory name) := by
  apply survives_updateEntries hsound
  intro _
  exact (hsound.named directory).sublist (List.filter_sublist.map Prod.fst)

theorem keeps_strike (hsound : t.Sound) {directory : Nat} {name : Path} {id : Nat}
    (hname : (t.entries directory).lookup name = some id) (hid : ¬ t.isDirectory id)
    : t.Keeps (t.strike directory name) := by
  apply (Keeps.refl hsound).updateEntries (survives_strike hsound directory name)
  intro i hi
  rw [List.find?_filter]
  apply List.find?_congr
  intro entry hentry
  have hmem : (name, id) ∈ t.entries directory := by
    have ⟨before, after, hsplit, _⟩ := List.lookup_eq_some_iff.mp hname
    rw [hsplit]
    exact List.mem_append_right before List.mem_cons_self
  have hne (heq : entry.2 = i) : entry.1 ≠ name := by
    intro hsame
    have hpair := List.inj_on_of_nodup_map (hsound.named directory) hentry hmem hsame
    subst hpair
    obtain rfl : id = i := heq
    exact hid hi
  by_cases heq : entry.2 = i <;> simp [heq, hne]

/-- Moving a directory changes which one is above it, and none of its entries. -/
theorem survives_setParent (hsound : t.Sound) (parent : Nat)
    : t.Survives (t.setParent id parent) := by
  have hcontent (i : Nat) : ((t.setParent id parent).node? i).map FileNode.content =
      if i = id then
        ((t.node? i).map FileNode.content).map fun
          | .directory _ entries => .directory parent entries
          | content => content
      else (t.node? i).map FileNode.content := by
    apply content_update
    intro n
    cases hcontent : n.content <;> simp [hcontent]
  have hentries (i : Nat) : (t.setParent id parent).entries i = t.entries i := by
    unfold entries
    rw [hcontent]
    by_cases hid : i = id
    . rw [if_pos hid]
      cases (t.node? i).map FileNode.content with
      | none => rfl
      | some content => cases content <;> rfl
    . rw [if_neg hid]
  refine ⟨⟨?_, ?_⟩, ?_⟩
  . unfold setParent
    rw [ids_update]
    exact hsound.numbered
  . intro i
    rw [hentries]
    exact hsound.named i
  . intro i hi
    have ⟨above, entries, hdirectory⟩ := isDirectory_iff.mp hi
    rw [isDirectory_iff, hcontent, hdirectory]
    split
    . exact ⟨parent, entries, rfl⟩
    . exact ⟨above, entries, rfl⟩

end Entries

theorem node?_add (n : FileNode) {i : Nat} (h : i ≠ t.next) : (t.add n).2.node? i = t.node? i := by
  unfold node? add
  rw [List.lookup_cons, beq_eq_false_iff_ne.mpr h]

theorem node?_add_next (n : FileNode) : (t.add n).2.node? t.next = some n := by
  unfold node? add
  rw [List.lookup_cons, beq_self_eq_true]

section Add

variable (hsound : t.Sound) {n : FileNode}
  (hempty : ∀ parent entries, n.content = .directory parent entries → entries = [])
include hsound hempty

theorem entries_add (i : Nat) : (t.add n).2.entries i = t.entries i := by
  by_cases hnext : i = t.next
  . rw [hnext, hsound.entries_next]
    unfold entries
    rw [node?_add_next, Option.map_some]
    cases hcontent : n.content with
    | directory parent entries => exact hempty parent entries hcontent
    | _ => rfl
  . unfold entries
    rw [node?_add n hnext]

/-- A new node that is not a directory with entries takes no name away from any. -/
theorem keeps_add : t.Keeps (t.add n).2 := by
  have hentries := entries_add hsound hempty
  have hids : (t.add n).2.ids = [t.next] ++ t.ids := rfl
  refine .of_entries ⟨⟨?_, ?_⟩, ?_⟩ hids (List.forall_mem_singleton.mpr hsound.entries_next) ?_
  . have hlater : ∀ i ∈ t.ids, i < t.next + 1 := by
      intro i hi
      exact Nat.lt_succ_of_lt (hsound.numbered i hi)
    rw [hids]
    exact List.forall_mem_cons.mpr ⟨Nat.lt_succ_self _, hlater⟩
  . intro i
    rw [hentries]
    exact hsound.named i
  . intro i hi
    have hnext : i ≠ t.next := by
      rintro rfl
      rw [isDirectory, hsound.node?_next] at hi
      cases hi
    rw [isDirectory_iff, node?_add n hnext, ← isDirectory_iff]
    exact hi
  . intro _ _ directory
    rw [hentries]

theorem keeps_add_enter {directory : Nat} {name : Path}
    (hname : (t.entries directory).lookup name = none)
    : t.Keeps ((t.add n).2.enter directory name t.next) := by
  apply (keeps_add hsound hempty).enter
  . rw [entries_add hsound hempty, hname]
  . rw [isDirectory, hsound.node?_next]
    exact Bool.false_ne_true

end Add

section Lookup

variable {directory : Nat} {name : Path}

theorem lookup_eq_ok {found : Option Nat} (h : t.lookup directory name = .ok found)
    : (t.entries directory).lookup name = found := by
  unfold lookup at h
  split at h
  . cases h
  . split at h
    . cases h
    . exact Except.ok.inj h

theorem lookup_strike_self : ((t.strike directory name).entries directory).lookup name = none := by
  rw [List.lookup_eq_none_iff]
  intro entry hentry
  unfold strike at hentry
  rw [entries_updateEntries] at hentry
  split at hentry
  . have hne := (List.mem_filter.mp hentry).2
    exact bne_iff_ne.mpr (Ne.symm (of_decide_eq_true hne))
  . next hother =>
    exact absurd ⟨rfl, isDirectory_of_entries (List.ne_nil_of_mem hentry)⟩ hother

theorem lookup_strike (h : (t.entries directory).lookup name = none) (other : Nat)
    (struck : Path) : ((t.strike other struck).entries directory).lookup name = none := by
  rw [List.lookup_eq_none_iff] at h ⊢
  intro entry hentry
  unfold strike at hentry
  rw [entries_updateEntries] at hentry
  split at hentry
  . exact h entry (List.mem_filter.mp hentry).1
  . exact h entry hentry

end Lookup

end NativeCall.FileTree
