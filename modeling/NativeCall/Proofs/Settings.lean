import Mathlib.Data.Option.Basic
import NativeCall.Proofs.Documents

/-!
This module contains the reading of settings key by key: which values a key may have, what a document
sets, and that nothing else in it counts.
-/

namespace NativeCall

open Toml

theorem option_rel_symm {α : Type} {r : α → α → Prop} {a? b? : Option α}
    (hsymm : ∀ a b, r a b → r b a) (h : Option.Rel r a? b?) : Option.Rel r b? a? := by
  cases h with
  | none => exact .none
  | some h => exact .some (hsymm _ _ h)

section

variable {ν α : Type}

/-- What is set after a key has been looked at: what its value reads as, or what was set before if the
key is not there. -/
def Sets (value? : Option ν) (reads : ν → α → Prop) (before a : α) : Prop :=
  match value? with
  | some value => reads value a
  | none => a = before

variable {value? value'? : Option ν} {reads : ν → α → Prop} {before a : α} {name : String}

theorem exists_sets_iff
    : (∃ a, Sets value? reads before a) ↔ ∀ value, value? = some value → ∃ a, reads value a := by
  cases value? with
  | none =>
    refine ⟨nofun, ?_⟩
    intro _
    exact ⟨before, rfl⟩
  | some value =>
    constructor
    . rintro h _ ⟨⟩
      exact h
    . intro h
      exact h value rfl

theorem Sets.of_rel {same : ν → ν → Prop} (h : Sets value? reads before a)
    (hrel : Option.Rel same value? value'?)
    (hreads : ∀ value value', value? = some value → value'? = some value' → same value value' →
      reads value a → reads value' a)
    : Sets value'? reads before a := by
  cases hrel with
  | none => exact h
  | some hsame => exact hreads _ _ rfl rfl hsame h

theorem lookup_cons_eq (entry : String × ν) (entries : List (String × ν)) (name : String)
    : (entry :: entries).lookup name = if entry.1 = name then some entry.2 else entries.lookup name := by
  rw [List.lookup_cons]
  by_cases h : entry.1 = name
  . rw [if_pos h, beq_iff_eq.mpr h.symm]
  . rw [if_neg h, beq_eq_false_iff_ne.mpr (Ne.symm h)]

/-- What the first entry sets stays, since no other one has its key. -/
theorem sets_cons_iff {entry : String × ν} {entries : List (String × ν)}
    (hnodup : ((entry :: entries).map Prod.fst).Nodup)
    : Sets ((entry :: entries).lookup name) reads before a ↔ ∃ mid,
        Sets ([entry].lookup name) reads before mid ∧ Sets (entries.lookup name) reads mid a := by
  rw [lookup_cons_eq, lookup_cons_eq]
  split
  . next hname =>
    have hrest : entries.lookup name = none := by
      rw [List.lookup_eq_none_iff]
      rintro ⟨key, value⟩ hmem
      apply bne_iff_ne.mpr
      rintro rfl
      exact (List.nodup_cons.mp hnodup).1 (hname ▸ List.mem_map_of_mem hmem)
    rw [hrest]
    simp [Sets]
  . show _ ↔ ∃ mid, mid = before ∧ _
    rw [exists_eq_left]

theorem sets_singleton_iff {entry : String × ν}
    : Sets ([entry].lookup name) reads before a ↔
        if entry.1 = name then reads entry.2 a else a = before := by
  rw [lookup_cons_eq]
  split <;> rfl

end

section

variable {ε ν δ : Type} {visit : δ → String × ν → Except ε δ}
  {Taken : List (String × ν) → δ → δ → Prop} {entries : List (String × ν)} {d d' : δ}

/-- Taking in entries with different keys one after the other comes to what all of them set. -/
theorem foldlM_eq_ok_iff (hnil : ∀ d d', Taken [] d d' ↔ d' = d)
    (hvisit : ∀ entry d d', visit d entry = .ok d' ↔ Taken [entry] d d')
    (hcons : ∀ entry entries d d', ((entry :: entries).map Prod.fst).Nodup →
      (Taken (entry :: entries) d d' ↔ ∃ mid, Taken [entry] d mid ∧ Taken entries mid d'))
    (hnodup : (entries.map Prod.fst).Nodup)
    : entries.foldlM visit d = .ok d' ↔ Taken entries d d' := by
  induction entries generalizing d with
  | nil =>
    rw [hnil, List.foldlM_nil]
    constructor
    . rintro ⟨⟩
      rfl
    . rintro rfl
      rfl
  | cons entry entries ih =>
    rw [hcons _ _ _ _ hnodup, List.foldlM_cons, except_bind_eq_ok_iff]
    simp only [hvisit, ih (List.nodup_cons.mp hnodup).2]

end

/-- The value of a field is decoded, and the draft has it then. -/
def Kept {ε ν α : Type} (decode : ν → Except ε α) (v : ν) (a? : Option α) : Prop :=
  ∃ a, decode v = .ok a ∧ a? = some a

theorem sets_kept_iff {ε ν α : Type} {decode : ν → Except ε α} {value? : Option ν} {before a : α}
    : (∃ a?, Sets value? (Kept decode) none a? ∧ a?.getD before = a) ↔
        Sets value? (fun v a => decode v = .ok a) before a := by
  cases value? with
  | none => simp [Sets, eq_comm]
  | some v =>
    constructor
    . rintro ⟨_, ⟨a, ha, rfl⟩, rfl⟩
      exact ha
    . intro ha
      exact ⟨some a, ⟨a, ha, rfl⟩, rfl⟩

namespace Format

variable {format : Format} {same : format.Value → format.Value → Prop} {v : format.Value}
  {entries : List (String × format.Value)}

def Logged (format : Format) (v : format.Value) (filter : LevelFilter) : Prop :=
  format.record format.loggerConfig v = .ok filter

theorem visit_loggerConfig {entry : String × format.Value} {d d' : Option LevelFilter}
    : format.loggerConfig.visit d entry = .ok d' ↔
        Sets ([entry].lookup "level_filter") (Kept format.levelFilter) d d' := by
  rw [sets_singleton_iff]
  unfold Record.visit loggerConfig
  by_cases hname : entry.1 = "level_filter"
  . simp only [hname, if_true, List.find?_cons, beq_self_eq_true]
    rw [except_bind_pure_eq_ok_iff]
    exact exists_congr fun filter => and_congr_right fun _ => eq_comm
  . have hbeq : ("level_filter" == entry.1) = false := beq_eq_false_iff_ne.mpr (Ne.symm hname)
    simp only [if_neg hname, List.find?_cons, hbeq, List.find?_nil, Except.ok.injEq]
    exact eq_comm

theorem foldlM_loggerConfig {d d' : Option LevelFilter} (hnodup : (entries.map Prod.fst).Nodup)
    : entries.foldlM format.loggerConfig.visit d = .ok d' ↔
        Sets (entries.lookup "level_filter") (Kept format.levelFilter) d d' := by
  apply foldlM_eq_ok_iff _ _ _ hnodup
  . exact fun _ _ => Iff.rfl
  . exact fun _ _ _ => visit_loggerConfig
  . exact fun _ _ _ _ hnodup => sets_cons_iff hnodup

theorem Lawful.logged_of_table (h : format.Lawful same) (hentries : format.entries? v = some entries)
    (hnodup : (entries.map Prod.fst).Nodup) {filter : LevelFilter}
    : format.Logged v filter ↔
        ∃ u, entries.lookup "level_filter" = some u ∧ format.levelFilter u = .ok filter := by
  unfold Logged
  rw [h.record_of_table _ hentries hnodup]
  simp only [foldlM_loggerConfig hnodup]
  cases entries.lookup "level_filter" with
  | none => simp [Sets, loggerConfig]
  | some u =>
    constructor
    . rintro ⟨_, ⟨found, hfound, rfl⟩, ⟨⟩⟩
      exact ⟨u, rfl, hfound⟩
    . rintro ⟨_, ⟨⟩, hfound⟩
      exact ⟨some filter, ⟨filter, hfound, rfl⟩, rfl⟩

end Format

namespace BindingConfig

variable {format : Format} {same : format.Value → format.Value → Prop}
  {entries entries' : List (String × format.Value)}

/-- The draft has been changed by what the entries set, each setting on its own. -/
structure Draft.Taken (entries : List (String × format.Value)) (before after : Draft) : Prop where
  logger : Sets (entries.lookup "logger") (Kept (format.record format.loggerConfig)) before.logger
    after.logger
  traceCalls : Sets (entries.lookup "trace_calls") (Kept format.boolean) before.traceCalls
    after.traceCalls
  logOsErrors : Sets (entries.lookup "log_os_errors") (Kept format.boolean) before.logOsErrors
    after.logOsErrors

/-- The configuration has what the entries set, each setting on its own, and is the default apart from
that. -/
structure Configured (format : Format) (entries : List (String × format.Value))
    (c : BindingConfig) : Prop where
  logger : Sets (entries.lookup "logger") format.Logged (.upTo .warn) c.logger
  traceCalls : Sets (entries.lookup "trace_calls") (fun v b => format.boolean v = .ok b) false
    c.traceCalls
  logOsErrors : Sets (entries.lookup "log_os_errors") (fun v b => format.boolean v = .ok b) true
    c.logOsErrors

namespace Draft

theorem taken_nil_iff {d d' : Draft}
    : Taken ([] : List (String × format.Value)) d d' ↔ d' = d := by
  constructor
  . rintro ⟨hlogger, htrace, hlog⟩
    rcases d with ⟨logger, traceCalls, logOsErrors⟩
    rcases d' with ⟨logger', traceCalls', logOsErrors'⟩
    cases hlogger
    cases htrace
    cases hlog
    rfl
  . rintro rfl
    exact ⟨rfl, rfl, rfl⟩

theorem taken_singleton_iff {entry : String × format.Value} {d d' : Draft}
    : Taken [entry] d d' ↔
        (if entry.1 = "logger" then Kept (format.record format.loggerConfig) entry.2 d'.logger
          else d'.logger = d.logger) ∧
        (if entry.1 = "trace_calls" then Kept format.boolean entry.2 d'.traceCalls
          else d'.traceCalls = d.traceCalls) ∧
        (if entry.1 = "log_os_errors" then Kept format.boolean entry.2 d'.logOsErrors
          else d'.logOsErrors = d.logOsErrors) := by
  rw [← sets_singleton_iff, ← sets_singleton_iff, ← sets_singleton_iff]
  constructor
  . rintro ⟨hlogger, htrace, hlog⟩
    exact ⟨hlogger, htrace, hlog⟩
  . rintro ⟨hlogger, htrace, hlog⟩
    exact ⟨hlogger, htrace, hlog⟩

theorem eq_iff {d d' : Draft}
    : d = d' ↔ d.logger = d'.logger ∧ d.traceCalls = d'.traceCalls ∧ d.logOsErrors = d'.logOsErrors := by
  rcases d with ⟨logger, traceCalls, logOsErrors⟩
  rcases d' with ⟨logger', traceCalls', logOsErrors'⟩
  simp

theorem visit_eq_ok_iff {entry : String × format.Value} {d d' : Draft}
    : (declared format).visit d entry = .ok d' ↔ Taken [entry] d d' := by
  rw [taken_singleton_iff]
  unfold Record.visit declared
  by_cases hlogger : entry.1 = "logger"
  . simp only [hlogger, List.find?_cons, beq_self_eq_true, String.reduceEq, ↓reduceIte]
    rw [except_bind_pure_eq_ok_iff]
    constructor
    . rintro ⟨filter, hvalue, rfl⟩
      exact ⟨⟨filter, hvalue, rfl⟩, rfl, rfl⟩
    . rintro ⟨⟨filter, hvalue, hset⟩, htrace, hlog⟩
      exact ⟨filter, hvalue, eq_iff.mpr ⟨hset.symm, htrace.symm, hlog.symm⟩⟩
  by_cases htrace : entry.1 = "trace_calls"
  . simp only [htrace, List.find?_cons, beq_self_eq_true, String.reduceBEq, String.reduceEq,
      ↓reduceIte]
    rw [except_bind_pure_eq_ok_iff]
    constructor
    . rintro ⟨b, hvalue, rfl⟩
      exact ⟨rfl, ⟨b, hvalue, rfl⟩, rfl⟩
    . rintro ⟨hlogger, ⟨b, hvalue, hset⟩, hlog⟩
      exact ⟨b, hvalue, eq_iff.mpr ⟨hlogger.symm, hset.symm, hlog.symm⟩⟩
  by_cases hlog : entry.1 = "log_os_errors"
  . simp only [hlog, List.find?_cons, beq_self_eq_true, String.reduceBEq, String.reduceEq,
      ↓reduceIte]
    rw [except_bind_pure_eq_ok_iff]
    constructor
    . rintro ⟨b, hvalue, rfl⟩
      exact ⟨rfl, rfl, b, hvalue, rfl⟩
    . rintro ⟨hlogger, htrace, b, hvalue, hset⟩
      exact ⟨b, hvalue, eq_iff.mpr ⟨hlogger.symm, htrace.symm, hset.symm⟩⟩
  . have hfind (name : String) (h : entry.1 ≠ name) : (name == entry.1) = false := by
      exact beq_eq_false_iff_ne.mpr h.symm
    simp only [List.find?_cons, hfind _ hlogger, hfind _ htrace, hfind _ hlog, List.find?_nil,
      if_neg hlogger, if_neg htrace, if_neg hlog, Except.ok.injEq]
    rw [eq_comm]
    exact eq_iff

theorem taken_cons_iff (entry : String × format.Value) (entries : List (String × format.Value))
    (d d' : Draft) (hnodup : ((entry :: entries).map Prod.fst).Nodup)
    : Taken (entry :: entries) d d' ↔ ∃ mid, Taken [entry] d mid ∧ Taken entries mid d' := by
  constructor
  . rintro ⟨hlogger, htrace, hlog⟩
    have ⟨logger, hlogger, hlogger'⟩ := (sets_cons_iff hnodup).mp hlogger
    have ⟨traceCalls, htrace, htrace'⟩ := (sets_cons_iff hnodup).mp htrace
    have ⟨logOsErrors, hlog, hlog'⟩ := (sets_cons_iff hnodup).mp hlog
    exact ⟨⟨logger, traceCalls, logOsErrors⟩, ⟨hlogger, htrace, hlog⟩, ⟨hlogger', htrace', hlog'⟩⟩
  . rintro ⟨mid, hentry, hentries⟩
    constructor
    . exact (sets_cons_iff hnodup).mpr ⟨_, hentry.logger, hentries.logger⟩
    . exact (sets_cons_iff hnodup).mpr ⟨_, hentry.traceCalls, hentries.traceCalls⟩
    . exact (sets_cons_iff hnodup).mpr ⟨_, hentry.logOsErrors, hentries.logOsErrors⟩

theorem foldlM_declared {d d' : Draft} (hnodup : (entries.map Prod.fst).Nodup)
    : entries.foldlM (declared format).visit d = .ok d' ↔ Taken entries d d' := by
  apply foldlM_eq_ok_iff _ _ _ hnodup
  . exact fun _ _ => taken_nil_iff
  . exact fun _ _ _ => visit_eq_ok_iff
  . exact taken_cons_iff

theorem exists_taken_iff {c : BindingConfig}
    : (∃ d, Taken entries {} d ∧ d.getD {} = c) ↔ Configured format entries c := by
  constructor
  . rintro ⟨d, ⟨hlogger, htrace, hlog⟩, rfl⟩
    constructor
    . exact sets_kept_iff.mp ⟨_, hlogger, rfl⟩
    . exact sets_kept_iff.mp ⟨_, htrace, rfl⟩
    . exact sets_kept_iff.mp ⟨_, hlog, rfl⟩
  . rintro ⟨hlogger, htrace, hlog⟩
    have ⟨logger, hlogger, hloggerD⟩ := sets_kept_iff.mpr hlogger
    have ⟨traceCalls, htrace, htraceD⟩ := sets_kept_iff.mpr htrace
    have ⟨logOsErrors, hlog, hlogD⟩ := sets_kept_iff.mpr hlog
    refine ⟨⟨logger, traceCalls, logOsErrors⟩, ⟨hlogger, htrace, hlog⟩, ?_⟩
    unfold getD
    rw [hloggerD, htraceD, hlogD]

end Draft

/-- The values are settings of a logger with the same level filter, whatever else is in them; or else
they are the same and no tables. -/
inductive SameLogger (same : format.Value → format.Value → Prop) (v v' : format.Value) : Prop where
  | table {inner inner' : List (String × format.Value)} (h : format.entries? v = some inner)
      (h' : format.entries? v' = some inner')
      (hfilter : Option.Rel same (inner.lookup "level_filter") (inner'.lookup "level_filter"))
  | other (h : format.entries? v = none) (h' : format.entries? v' = none) (hsame : same v v')

/-- The documents have the same settings, each under its key. -/
structure Agreed (same : format.Value → format.Value → Prop)
    (entries entries' : List (String × format.Value)) : Prop where
  logger : Option.Rel (SameLogger same) (entries.lookup "logger") (entries'.lookup "logger")
  traceCalls : Option.Rel same (entries.lookup "trace_calls") (entries'.lookup "trace_calls")
  logOsErrors : Option.Rel same (entries.lookup "log_os_errors") (entries'.lookup "log_os_errors")

theorem Agreed.symm (h : format.Lawful same) (hagreed : Agreed same entries entries')
    : Agreed same entries' entries := by
  have hlogger (v v' : format.Value) (hsame : SameLogger same v v') : SameLogger same v' v := by
    cases hsame with
    | table hv hv' hfilter =>
      exact .table hv' hv (option_rel_symm (fun _ _ => h.same_symm) hfilter)
    | other hv hv' hsame => exact .other hv' hv (h.same_symm hsame)
  exact ⟨option_rel_symm hlogger hagreed.logger,
    option_rel_symm (fun _ _ => h.same_symm) hagreed.traceCalls,
    option_rel_symm (fun _ _ => h.same_symm) hagreed.logOsErrors⟩

theorem loggerConfig_respects (h : format.Lawful same)
    : ∀ field ∈ format.loggerConfig.fields, format.Respects same field := by
  intro field hmem v v' d d' hsame hput
  cases List.mem_singleton.mp hmem
  have ⟨filter, hfilter, hd'⟩ := except_bind_pure_eq_ok_iff.mp hput
  exact except_bind_pure_eq_ok_iff.mpr ⟨filter, h.levelFilter_of_same hsame hfilter, hd'⟩

theorem logged_of_sameLogger (h : format.Lawful same) {v v' : format.Value}
    (hnodup : ∀ inner, format.entries? v = some inner → (inner.map Prod.fst).Nodup)
    (hnodup' : ∀ inner, format.entries? v' = some inner → (inner.map Prod.fst).Nodup)
    (hsame : SameLogger same v v') {filter : LevelFilter} (hv : format.Logged v filter)
    : format.Logged v' filter := by
  cases hsame with
  | other hentries _ hsame => exact h.record_of_same (loggerConfig_respects h) hsame hentries hv
  | @table inner inner' hentries hentries' hfilter =>
    have ⟨u, hu, hdecoded⟩ := (h.logged_of_table hentries (hnodup _ hentries)).mp hv
    rw [hu] at hfilter
    cases hu' : inner'.lookup "level_filter" with
    | none =>
      rw [hu'] at hfilter
      cases hfilter
    | some u' =>
      rw [hu'] at hfilter
      cases hfilter with
      | some hsame =>
        exact (h.logged_of_table hentries' (hnodup' _ hentries')).mpr
          ⟨u', hu', h.levelFilter_of_same hsame hdecoded⟩

section

variable (h : format.Lawful same) {text text' : String} {v v' : format.Value}
  (hread : format.read text = .ok v) (hentries : format.entries? v = some entries)
include h hread hentries

/-- The value of a key is in the document, so that its keys are different if it is a table. -/
theorem nodup_of_lookup {key : String} {u : format.Value} (hu : entries.lookup key = some u)
    (inner : List (String × format.Value)) (hinner : format.entries? u = some inner)
    : (inner.map Prod.fst).Nodup := by
  have ⟨before, after, hsplit, _⟩ := List.lookup_eq_some_iff.mp hu
  have hmem : (key, u) ∈ entries := by
    rw [hsplit]
    exact List.mem_append_right before List.mem_cons_self
  exact h.nodup hread (.entry .self hentries hmem) hinner

theorem parse_eq_ok_iff {c : BindingConfig}
    : parse format text = .ok c ↔ Configured format entries c := by
  have hnodup := h.nodup hread .self hentries
  unfold parse
  rw [hread]
  show format.record (declared format) v = .ok c ↔ _
  rw [h.record_of_table _ hentries hnodup, ← Draft.exists_taken_iff]
  simp only [Draft.foldlM_declared hnodup]
  exact exists_congr fun d => and_congr_right fun _ => by simp [declared]

theorem Configured.of_agreed (hread' : format.read text' = .ok v')
    (hentries' : format.entries? v' = some entries') (hagreed : Agreed same entries entries')
    {c : BindingConfig} (hc : Configured format entries c) : Configured format entries' c := by
  constructor
  . apply hc.logger.of_rel hagreed.logger
    intro u u' hu hu' hsame
    exact logged_of_sameLogger h (nodup_of_lookup h hread hentries hu)
      (nodup_of_lookup h hread' hentries' hu') hsame
  . exact hc.traceCalls.of_rel hagreed.traceCalls fun _ _ _ _ hsame => h.boolean_of_same hsame
  . exact hc.logOsErrors.of_rel hagreed.logOsErrors fun _ _ _ _ hsame => h.boolean_of_same hsame

end

theorem exists_configured_iff
    : (∃ c, Configured format entries c) ↔
        (∀ u, entries.lookup "logger" = some u → ∃ filter, format.Logged u filter) ∧
        (∀ u, entries.lookup "trace_calls" = some u → ∃ b, format.boolean u = .ok b) ∧
        (∀ u, entries.lookup "log_os_errors" = some u → ∃ b, format.boolean u = .ok b) := by
  rw [← exists_sets_iff, ← exists_sets_iff, ← exists_sets_iff]
  constructor
  . rintro ⟨c, hlogger, htrace, hlog⟩
    exact ⟨⟨_, hlogger⟩, ⟨_, htrace⟩, ⟨_, hlog⟩⟩
  . rintro ⟨⟨logger, hlogger⟩, ⟨traceCalls, htrace⟩, ⟨logOsErrors, hlog⟩⟩
    exact ⟨⟨logger, traceCalls, logOsErrors⟩, hlogger, htrace, hlog⟩

/-- A document gives a configuration if and only if each setting in it can be decoded, whatever the
others say; what is not set keeps its default, and nothing else in the document counts. -/
theorem parse_key_by_key (h : format.Lawful same) {text : String} {v : format.Value}
    (hread : format.read text = .ok v)
    : ∃ entries, format.entries? v = some entries ∧
      ((∃ config, parse format text = .ok config) ↔
        (∀ u, entries.lookup "logger" = some u → ∃ filter, format.Logged u filter) ∧
        (∀ u, entries.lookup "trace_calls" = some u → ∃ b, format.boolean u = .ok b) ∧
        (∀ u, entries.lookup "log_os_errors" = some u → ∃ b, format.boolean u = .ok b)) ∧
      (∀ config, parse format text = .ok config ↔ Configured format entries config) ∧
      (∀ u inner filter, entries.lookup "logger" = some u → format.entries? u = some inner →
        (format.Logged u filter ↔
          ∃ w, inner.lookup "level_filter" = some w ∧ format.levelFilter w = .ok filter)) ∧
      ∀ text' v' entries', format.read text' = .ok v' → format.entries? v' = some entries' →
        Agreed same entries entries' →
          ∀ config, parse format text' = .ok config ↔ parse format text = .ok config := by
  have ⟨entries, hentries⟩ := h.exists_entries hread
  have hparse (config : BindingConfig) := parse_eq_ok_iff h hread hentries (c := config)
  refine ⟨entries, hentries, ?_, hparse, ?_, ?_⟩
  . rw [← exists_configured_iff]
    exact exists_congr hparse
  . intro u inner filter hu hinner
    exact h.logged_of_table hinner (nodup_of_lookup h hread hentries hu _ hinner)
  . intro text' v' entries' hread' hentries' hagreed config
    rw [hparse, parse_eq_ok_iff h hread' hentries']
    exact ⟨Configured.of_agreed h hread' hentries' hread hentries (hagreed.symm h),
      Configured.of_agreed h hread hentries hread' hentries' hagreed⟩

/-- Of what the text sets the level filter alone counts. -/
theorem parse_key_by_key_logger_only
    : ∃ v entries,
        Format.toml.read "x = 1\n[logger]\ny = []\nlevel_filter = \"info\"\n" = .ok v ∧
        Format.toml.entries? v = some entries ∧
        parse .toml "x = 1\n[logger]\ny = []\nlevel_filter = \"info\"\n" =
          .ok { logger := .upTo .info } ∧
        Configured .toml entries { logger := .upTo .info } := by
  have hsome : (parse .toml "x = 1\n[logger]\ny = []\nlevel_filter = \"info\"\n").toOption =
      some { logger := .upTo .info } := by
    decide +kernel
  have hparse : parse .toml "x = 1\n[logger]\ny = []\nlevel_filter = \"info\"\n" =
      .ok { logger := .upTo .info } := by
    revert hsome
    cases parse .toml "x = 1\n[logger]\ny = []\nlevel_filter = \"info\"\n" <;>
      simp [Except.toOption]
  have ⟨v, hread, _⟩ := except_bind_eq_ok_iff.mp hparse
  have ⟨entries, hentries, _, hok, _, _⟩ := parse_key_by_key Format.lawful_toml hread
  exact ⟨v, entries, hread, hentries, hparse, (hok _).mp hparse⟩

end BindingConfig

end NativeCall
