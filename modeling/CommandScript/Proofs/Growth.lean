import CommandScript.Proofs.Dictionaries
import CommandScript.Proofs.Executions
import CommandScript.Proofs.Quiet

/-!
# What executing writes

Lines of scripts and of what they include, and properties sources nested in one another,
write to one registry. No write takes a label or a key away or moves it, and a value that was
there changes only where a line was executed that says so. One lemma for each kind of line,
and settling by its recursion.
-/

namespace CommandScript

open Act

/-! ### What lines say -/

namespace ExecutedLine

def LoadsUnder (e : ExecutedLine) (label : Text) : Prop :=
  ∃ written reference, e.builtin = .properties written reference ∧
    e.settings.expander.expand e.store.registry written = .ok label

/-- The line sets the script variable of a name, with a guard or without. -/
def Sets (e : ExecutedLine) (guarded : Bool) (key : Text) : Prop :=
  ∃ written value name, e.builtin = .setProperty written value ∧
    Text.splitOptional written = (guarded, name) ∧
    e.settings.expander.expand e.store.registry name = .ok key

end ExecutedLine

/-- How the lines that were executed may have changed a registry. -/
structure Grows (executed : ExecutedLine → Prop) (before after : Registry) : Prop where
  /-- The labels that there were come first, in their order. -/
  labels : before.keys <+: after.keys
  /-- So do the keys of every table. -/
  keys : ∀ label, (before.table label).keys <+: (after.table label).keys
  /-- A table changes if it holds the script variables, or if a line loads under its label. -/
  tables : ∀ label, before.contains label = true → after.table label ≠ before.table label →
    label = globalsLabel ∨ ∃ e, executed e ∧ e.LoadsUnder label
  /-- A script variable changes if a line sets it without a guard or loads under its label. -/
  values : ∀ key old, (before.table globalsLabel).find? key = some old →
    (after.table globalsLabel).find? key ≠ some old →
      ∃ e, executed e ∧ (e.Sets false key ∨ e.LoadsUnder globalsLabel)

namespace Grows

variable {executed executed' : ExecutedLine → Prop} {r r' r'' : Registry} {label : Text}

protected theorem refl (executed : ExecutedLine → Prop) (r : Registry) : Grows executed r r :=
  ⟨List.prefix_refl _, fun _ => List.prefix_refl _, fun _ _ h => absurd rfl h,
    fun _ _ found changed => absurd found changed⟩

theorem mono (h : Grows executed r r') (more : ∀ e, executed e → executed' e) :
    Grows executed' r r' := by
  refine ⟨h.labels, h.keys, fun label known changed => ?_, fun key old found changed => ?_⟩
  · refine (h.tables label known changed).imp_right ?_
    rintro ⟨e, he, loads⟩
    exact ⟨e, more e he, loads⟩
  · obtain ⟨e, he, writes⟩ := h.values key old found changed
    exact ⟨e, more e he, writes⟩

/-- What was changed was changed by the first lines or by the others. -/
protected theorem trans (h : Grows executed r r') (h' : Grows executed r' r'') :
    Grows executed r r'' := by
  refine ⟨h.labels.trans h'.labels, fun label => (h.keys label).trans (h'.keys label),
    fun label known changed => ?_, fun key old found changed => ?_⟩
  · by_cases early : r'.table label = r.table label
    · refine h'.tables label ?_ (early ▸ changed)
      exact Ordered.contains_iff_mem_keys.mpr
        (h.labels.subset (Ordered.contains_iff_mem_keys.mp known))
    · exact h.tables label known early
  · by_cases early : (r'.table globalsLabel).find? key = some old
    · exact h'.values key old early changed
    · exact h.values key old found early

/-- A table put in place of another one. -/
theorem insert {t : Table} (keys : (r.table label).keys <+: t.keys)
    (attributed : r.contains label = true → t ≠ r.table label →
      label = globalsLabel ∨ ∃ e, executed e ∧ e.LoadsUnder label)
    (values : label = globalsLabel → ∀ key old, (r.table label).find? key = some old →
      t.find? key ≠ some old →
        ∃ e, executed e ∧ (e.Sets false key ∨ e.LoadsUnder globalsLabel)) :
    Grows executed r (r.insert label t) := by
  refine ⟨r.keys_insert label t, fun other => ?_, fun other known changed => ?_,
    fun key old found changed => ?_⟩
  · rw [Registry.table_insert]
    split
    · rename_i same
      exact same ▸ keys
    · exact List.prefix_refl _
  · rw [Registry.table_insert] at changed
    split at changed
    · rename_i same
      subst same
      exact attributed known changed
    · exact absurd rfl changed
  · rw [Registry.table_insert] at changed
    split at changed
    · rename_i same
      exact values same.symm key old (same ▸ found) changed
    · exact absurd found changed

/-- A table under a new label changes none. -/
theorem insert_new (executed : ExecutedLine → Prop) (new : r.contains label = false) (t : Table) :
    Grows executed r (r.insert label t) := by
  have nothing : r.table label = ∅ := Registry.table_of_new new
  refine .insert ?_ ?_ ?_
  · rw [nothing]
    exact List.nil_prefix
  · intro known
    rw [new] at known
    cases known
  · intro _ key old found
    rw [nothing] at found
    cases found

theorem ensure (executed : ExecutedLine → Prop) (r : Registry) (label : Text) :
    Grows executed r (r.ensure label) := by
  rw [Registry.ensure]
  split
  · exact .refl _ r
  · rename_i new
    exact .insert_new _ (by simpa using new) ∅

theorem withEnvironment (executed : ExecutedLine → Prop) (r : Registry) (environment : Table) :
    Grows executed r (r.withEnvironment environment) := by
  rw [Registry.withEnvironment]
  split
  · exact .refl _ r
  · rename_i new
    exact .insert_new _ (by simpa using new) environment

theorem prepare (executed : ExecutedLine → Prop) (kind : Kind) (s : Store) :
    Grows executed s.registry (Scanner.prepare kind s).registry := by
  cases kind with
  | script | records => exact .ensure _ s.registry globalsLabel
  | basic | eager => exact .refl _ s.registry

/-- Loading values under a label, as a line says. -/
theorem merge {e : ExecutedLine} (he : executed e) (loads : e.LoadsUnder label) (values : Table) :
    Grows executed r (r.merge label values) := by
  refine .insert (Ordered.keys_insertAll _ _) ?_ ?_
  · intro _ _
    exact .inr ⟨e, he, loads⟩
  · rintro rfl key old _ _
    exact ⟨e, he, .inr loads⟩

end Grows

/-! ### Lines -/

section

variable {resources : Resources} {settings : Settings} {load : Text → Act Store Table}
variable {loads : Text → Store → ExecutedLine → Prop} {executed : ExecutedLine → Prop} {s : Store}

/-- The action changes the registry only as lines say that are executed. -/
abbrev Act.Grows {α : Type} (x : Act Store α) (executed : ExecutedLine → Prop) (s : Store) : Prop :=
  Leaves x (fun t => CommandScript.Grows executed s.registry t.registry) s

theorem grows_setGlobal {key : Text} {guarded : Bool}
    (attributed : guarded = false → ∃ e, executed e ∧ e.Sets false key) (value : Text) :
    Act.Grows (Store.setGlobal key value guarded) executed s := by
  have made := Grows.ensure executed s.registry globalsLabel
  have written (h : ((s.registry.ensure globalsLabel).table globalsLabel).find? key = none ∨
      guarded = false) :
      Grows executed s.registry ((s.registry.ensure globalsLabel).put globalsLabel key value) := by
    refine made.trans (.insert (Ordered.keys_insert _ _ _) ?_ ?_)
    · intro _ _
      exact .inl rfl
    · intro _ other old found changed
      rw [Ordered.find?_insert] at changed
      split at changed
      · rename_i same
        subst same
        rcases h with new | unguarded
        · rw [new] at found
          cases found
        · obtain ⟨e, he, sets⟩ := attributed unguarded
          exact ⟨e, he, .inl sets⟩
      · exact absurd found changed
  simp only [Act.Grows, Leaves, Store.setGlobal, Wp.bind_iff, Wp.get_iff]
  split
  · rename_i new
    exact written (.inl new)
  · split
    · exact made
    · rename_i unguarded
      exact written (.inr (by simpa using unguarded))

theorem grows_merge {label : Text} {e : ExecutedLine} (he : executed e) (under : e.LoadsUnder label)
    (values : Table) : Act.Grows (Store.merge label values) executed s := by
  have merged : Grows executed s.registry (s.registry.merge label values) :=
    .merge he under values
  simp only [Act.Grows, Leaves, Store.merge, Wp.bind_iff, Wp.get_iff]
  split
  · exact merged
  · exact merged

theorem grows_executeSetProperty (key value : Text) :
    Act.Grows (executeSetProperty settings key value)
      (Builtin.Executes settings loads (.setProperty key value) s) s := by
  simp only [Act.Grows, Leaves, executeSetProperty, expandPayload, debugIfVerbose, Wp.bind_iff,
    wp_expand, Wp.onlyIf_debug_iff, Wp.pure_iff]
  split
  · rename_i expanded hkey
    split
    · refine grows_setGlobal (fun unguarded => ?_) _
      exact ⟨_, .itself, key, value, _, rfl, Prod.ext unguarded rfl, hkey⟩
    · exact .refl _ _
  · exact .refl _ _

theorem grows_executeProperties
    (hload : ∀ reference s, Act.Grows (load reference) (loads reference s) s)
    (place label reference : Text) :
    Act.Grows (executeProperties settings load place label reference)
      (Builtin.Executes settings loads (.properties label reference) s) s := by
  simp only [Act.Grows, Leaves, wp_executeProperties]
  split
  · exact .refl _ _
  · rename_i l hlabel
    split
    · exact .refl _ _
    · rename_i u hreference
      have merged {t : Store} (before : Grows (Builtin.Executes settings loads
          (.properties label reference) s) s.registry t.registry) (values : Table) :
          Leaves (Store.merge l values) (fun t => Grows (Builtin.Executes settings loads
            (.properties label reference) s) s.registry t.registry) t :=
        (grows_merge .itself ⟨label, reference, rfl, hlabel⟩ values).mono
          (fun _ _ after => before.trans after) fun _ _ after => before.trans after
      have loaded {t : Store} (h : Grows (loads (Text.asFileReference (Text.splitOptional u).2) s)
          s.registry t.registry) :
          Grows (Builtin.Executes settings loads (.properties label reference) s) s.registry
            t.registry :=
        h.mono fun e => .loaded rfl hlabel hreference
      refine (hload _ s).mono (fun values t h => ?_) fun e t h => ?_
      · exact merged (loaded h) values
      · split
        · split
          · exact loaded h
          · split
            · exact merged (loaded h) ∅
            · exact loaded h
        · exact loaded h

/-- Executing a built-in writes what the built-in says, and what the lines that it loads say. -/
theorem grows_execute (hload : ∀ reference s, Act.Grows (load reference) (loads reference s) s)
    (place : Text) (builtin : Builtin) (s : Store) :
    Act.Grows (execute resources settings load place builtin)
      (builtin.Executes settings loads s) s := by
  cases builtin with
  | includeSource reference =>
    simp only [Act.Grows, Leaves, execute, wp_executeInclude]
    split
    · exact .refl _ _
    · split
      · exact .refl _ _
      · split <;> exact .refl _ _
      · exact .refl _ _
  | print expression =>
    simp only [Act.Grows, Leaves, execute, wp_executePrint]
    split
    · exact .refl _ _
    · split <;> exact .refl _ _
  | sleep digits =>
    rw [Act.Grows, Leaves, execute, wp_executeSleep]
    split
    · exact .refl _ _
    · split <;> exact .refl _ _
  | setProperty key value => exact grows_executeSetProperty key value
  | properties label reference => exact grows_executeProperties hload place label reference
  | record key value =>
    simp only [Act.Grows, Leaves, execute, executeRecord, expandPayload, debugIfVerbose,
      Wp.bind_iff, wp_expand, Wp.onlyIf_debug_iff]
    split
    · split <;> exact .refl _ _
    · exact .refl _ _

theorem grows_executeLine (hload : ∀ reference s, Act.Grows (load reference) (loads reference s) s)
    (place : Text) (line : Line) (s : Store) :
    Act.Grows (executeLine resources settings load place line)
      (line.Executes settings loads s) s := by
  rw [Act.Grows, Leaves, executeLine, Wp.bind_iff, Wp.onlyIf_debug_iff, Wp.bind_iff, wp_surface]
  split
  · rename_i t expanded
    split
    · rename_i builtin form
      exact (grows_execute hload place builtin s).mono
        (fun _ _ h => h.mono fun e => .surfaced expanded form)
        fun _ _ h => h.mono fun e => .surfaced expanded form
    · exact .refl _ _
  · exact .refl _ _

theorem guarded_setGlobal {key value k old : Text}
    (found : (s.registry.table globalsLabel).find? k = some old) :
    Leaves (Store.setGlobal key value true)
      (fun t => (t.registry.table globalsLabel).find? k = some old) s := by
  have kept : ((s.registry.ensure globalsLabel).table globalsLabel).find? k = some old := by
    rw [Registry.table_ensure, found]
  simp only [Leaves, Store.setGlobal, Wp.bind_iff, Wp.get_iff]
  split
  · rename_i new
    have other : k ≠ key := by
      rintro rfl
      rw [kept] at new
      cases new
    simp only [Wp.bind_iff, Wp.modify_iff, Wp.pure_iff, Registry.put, Registry.table_insert,
      if_true, Ordered.find?_insert, if_neg other]
    exact kept
  · exact kept

/-- A guarded line changes no value that there is. -/
theorem guarded_execute {place written value k old : Text}
    (guarded : (Text.splitOptional written).1 = true)
    (found : (s.registry.table globalsLabel).find? k = some old) :
    Leaves (execute resources settings load place (.setProperty written value))
      (fun t => (t.registry.table globalsLabel).find? k = some old) s := by
  simp only [Leaves, execute, executeSetProperty, expandPayload, debugIfVerbose, Wp.bind_iff,
    wp_expand, Wp.onlyIf_debug_iff, Wp.pure_iff, guarded]
  split
  · split
    · exact guarded_setGlobal found
    · exact found
  · exact found

end

/-! ### Settling -/

section

variable {resources : Resources} {settings : Settings}

/-- Settling one source grows the registry if what it loads and includes does. -/
theorem LinesSettle.grows {load : Text → Act Store Table} {enter : Frame → Store → Settled}
    {loads : Text → Store → ExecutedLine → Prop} {enters : Frame → Store → ExecutedLine → Prop}
    (hload : ∀ reference s, Act.Grows (load reference) (loads reference s) s)
    (henter : ∀ g s, Grows (enters g s) s.registry (enter g s).state.2.registry)
    {lines : List Line} {f : Frame} {s : Store} {o : Settled}
    (run : LinesSettle resources settings load enter lines f s o) :
    Grows (LinesExecute resources settings load enter loads enters lines f s) s.registry
      o.state.2.registry := by
  have first {line : Line} {ahead : List Line} {f : Frame} {s t : Store}
      {result : Except Error Effect} {events : List Event}
      (recognized : settings.kind.recognizes line.text = true)
      (executed : executeLine resources settings load (f.moved line ahead).cursor.state line s =
        ⟨result, t, events⟩) :
      Grows (LinesExecute resources settings load enter loads enters (line :: ahead) f s)
        s.registry t.registry := by
    have grown : Grows (line.Executes settings loads s) s.registry
        (executeLine resources settings load (f.moved line ahead).cursor.state line
          s).state.registry :=
      leaves_iff.mp (grows_executeLine hload _ line s)
    rw [executed] at grown
    exact grown.mono fun e => .here recognized
  have inner {line : Line} {ahead : List Line} {f g : Frame} {s t u : Store} {c : Chain}
      {result : Except Error Bool} {events inner : List Event}
      (recognized : settings.kind.recognizes line.text = true)
      (executed : executeLine resources settings load (f.moved line ahead).cursor.state line s =
        ⟨.ok (.entered g), t, events⟩) (entered : enter g t = ⟨result, (c, u), inner⟩) :
      Grows (LinesExecute resources settings load enter loads enters (line :: ahead) f s)
        s.registry u.registry := by
    have grown := henter g t
    rw [entered] at grown
    exact (first recognized executed).trans (grown.mono fun e => .inside recognized executed)
  induction run with
  | ended => exact .refl _ _
  | ordinary => exact .refl _ _
  | failed recognized executed => exact first recognized executed
  | inside recognized executed entered => exact inner recognized executed entered
  | passed recognized goes rest ih =>
    cases goes with
    | done executed =>
      exact (first recognized executed).trans (ih.mono fun e => .later recognized executed)
    | replayed executed =>
      exact (first recognized executed).trans (ih.mono fun e => .replayed recognized executed)
    | behind executed ended =>
      exact (inner recognized executed ended).trans
        (ih.mono fun e => .behind recognized executed ended)

theorem state_tableOf (settings : Settings) (o : Settled) :
    (tableOf settings o).state = o.state.2 := by
  obtain ⟨_ | _ | _, ⟨c, t⟩, events⟩ := o
  · rfl
  · rfl
  · have kept := @store_takeNext settings t c.frame c.included
    simp only [tableOf]
    generalize takeNext settings c.frame c.included t = last at kept ⊢
    obtain ⟨_ | _, ⟨c', t'⟩, late⟩ := last
    · exact kept
    · exact kept

/-- Reading records grows the registry if settling them does. -/
theorem grows_readRecords {enter : Frame → Store → Settled}
    {enters : Frame → Store → ExecutedLine → Prop}
    (henter : ∀ g s, Grows (enters g s) s.registry (enter g s).state.2.registry)
    (source : Source) (s : Store) :
    Act.Grows (withOwnTarget (readRecords resources settings enter source))
      (LoadExecutes resources settings enters source s) s := by
  rw [Act.Grows, leaves_iff]
  simp only [withOwnTarget, readRecords_apply]
  cases hread : source.read resources with
  | error e => exact .refl _ _
  | ok opened =>
    obtain ⟨name, raw⟩ := opened
    have settled := (henter { cursor := .opened name (settings.linesOf raw) }
      { s with target := ∅ }).mono fun e executes =>
        (⟨name, raw, hread, executes⟩ : LoadExecutes resources settings enters source s e)
    rw [← state_tableOf settings] at settled
    exact settled

/-- Settling grows the registry. -/
theorem grows_settle (depth : Nat) (f : Frame) (included : List Frame) (s : Store) :
    Grows (Executes resources depth settings f included s) s.registry
      (settle resources depth settings f included s).state.2.registry := by
  refine settle_induction (motive := fun depth settings f included s o =>
    Grows (Executes resources depth settings f included s) s.registry o.state.2.registry)
    ?tooDeep ?own ?finished ?within depth settings f included s
  case tooDeep => exact fun _ _ _ _ => .refl _ _
  case own =>
    intro depth settings f s o ih run
    exact run.grows (fun reference s => grows_readRecords
      (fun g s => ih settings.forRecords g [] s) _ s) fun g s => ih settings g [] s
  case finished =>
    intro depth settings f g rest s c t events settled inner own
    exact (inner.mono fun e => .inl).trans
      (own.mono fun e executes => .inr ⟨c, t, events, settled, executes⟩)
  case within =>
    intro depth settings f g rest s result c t events settled unfinished inner
    exact inner.mono fun e => .inl

theorem grows_loadAt (depth : Nat) (source : Source) (s : Store) :
    Act.Grows (withOwnTarget (readRecords resources settings.forRecords
        (fun g s => settle resources depth settings.forRecords g [] s) source))
      (LoadsAt resources depth settings source s) s :=
  grows_readRecords (fun g s => grows_settle depth g [] s) source s

theorem grows_nextLine (depth : Nat) (f : Frame) (included : List Frame) (s : Store) :
    Grows (Executes resources depth settings f included s) s.registry
      (nextLine resources depth settings f included s).state.2.registry := by
  rw [nextLine_eq]
  have settled := @grows_settle resources settings depth f included s
  generalize settle resources depth settings f included s = o at settled ⊢
  obtain ⟨_ | _ | _, ⟨c, s'⟩, events⟩ := o
  · exact settled
  · exact settled
  · have kept := @store_takeNext settings s' c.frame c.included
    dsimp only
    rw [Outcome.state_after, kept]
    exact settled

end

end CommandScript
