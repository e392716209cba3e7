import Mathlib.Logic.Relation
import CommandScript.Proofs.Classification
import CommandScript.Proofs.Replays

/-!
# The same run without replays

A text that holds built-in lines alone can be walked over by a script scanner or, like a
properties source, by a scanner for records. The two do the same step by step, except that
nobody answers the second one, so it asks for no replays.
-/

namespace CommandScript

namespace Event

def unreplayed (events : List Event) : List Event := events.filter (· ≠ .replayed)

theorem unreplayed_append (early late : List Event) :
    unreplayed (early ++ late) = unreplayed early ++ unreplayed late := List.filter_append ..

theorem unreplayed_of_not_mem {events : List Event} (h : .replayed ∉ events) :
    unreplayed events = events := by
  refine List.filter_eq_self.mpr fun event mem => ?_
  have other : event ≠ .replayed := fun same => h (same ▸ mem)
  simpa using other

end Event

/-! ### Runs side by side -/

/-- Two runs came to the same, but for the requests of the first one for a replay. The second
one left the given table under construction. -/
structure Outcome.Silences {α : Type} (target : Table) (o o' : Outcome Store α) : Prop where
  result : o'.result = o.result
  registry : o'.state.registry = o.state.registry
  target : o'.state.target = target
  events : o'.events = Event.unreplayed o.events

/-- What the second run came to, where it is known what the first one did. -/
theorem Outcome.Silences.of_eq {α : Type} {target : Table} {o o' : Outcome Store α}
    (h : Silences target o o') {result : Except Error α} {t : Store} {events : List Event}
    (run : o = ⟨result, t, events⟩) :
    ∃ t', o' = ⟨result, t', Event.unreplayed events⟩ ∧ t'.registry = t.registry ∧
      t'.target = target := by
  subst run
  obtain ⟨result', t', events'⟩ := o'
  obtain ⟨same, registry, left, quiet⟩ := h
  simp only at same quiet
  subst same quiet
  exact ⟨t', rfl, registry, left⟩

namespace Act

variable {α β : Type}

/-- On any two stores with one registry, the second action does what the first does, but for
requests for a replay. -/
def Silences (x x' : Act Store α) : Prop :=
  ∀ s s', s'.registry = s.registry → Outcome.Silences s'.target (x s) (x' s')

namespace Silences

theorem pure {a : α} : Silences (Pure.pure a) (Pure.pure a) := fun _ _ h => ⟨rfl, h, rfl, rfl⟩

theorem fail {e : Error} : Silences (Act.fail e : Act Store α) (Act.fail e) :=
  fun _ _ h => ⟨rfl, h, rfl, rfl⟩

theorem emitAll {events : List Event} :
    Silences (Act.emitAll events) (Act.emitAll (Event.unreplayed events)) :=
  fun _ _ h => ⟨rfl, h, rfl, rfl⟩

theorem emit {event : Event} (h : event ≠ .replayed) :
    Silences (Act.emit event) (Act.emit event) := by
  intro s s' hreg
  refine ⟨rfl, hreg, rfl, ?_⟩
  exact (Event.unreplayed_of_not_mem fun mem => h (List.mem_singleton.mp mem).symm).symm

theorem log {level : LogLevel} {channel : LogChannel} {message : Text} :
    Silences (Act.log level channel message) (Act.log level channel message) :=
  emit (by rintro ⟨⟩)

/-- What follows may rely on the value that the first action gave. -/
theorem bind {x x' : Act Store α} {f f' : α → Act Store β} (hx : Silences x x')
    (hf : ∀ a, (∃ s t events, x s = ⟨.ok a, t, events⟩) → Silences (f a) (f' a)) :
    Silences (x >>= f) (x' >>= f') := by
  intro s s' hreg
  obtain ⟨result, registry, target, events⟩ := hx s s' hreg
  have value : ∀ a t made, x s = ⟨.ok a, t, made⟩ → Silences (f a) (f' a) :=
    fun a t made run => hf a ⟨s, t, made, run⟩
  rw [bind_apply, bind_apply]
  generalize x s = o at result registry events value ⊢
  generalize x' s' = o' at result registry target events ⊢
  obtain ⟨r, t, early⟩ := o
  obtain ⟨r', t', early'⟩ := o'
  simp only at result registry target events
  subst result events
  cases r' with
  | error e => exact ⟨rfl, registry, target, rfl⟩
  | ok a =>
    have later := value a t early rfl t t' registry
    refine ⟨later.result, later.registry, later.target.trans target, ?_⟩
    show _ ++ _ = Event.unreplayed (_ ++ _)
    rw [Event.unreplayed_append, later.events]

theorem attempt {x x' : Act Store α} (hx : Silences x x') :
    Silences (Act.attempt x) (Act.attempt x') := by
  intro s s' hreg
  obtain ⟨result, registry, target, events⟩ := hx s s' hreg
  exact ⟨congrArg Except.ok result, registry, target, events⟩

/-- An action that asks for no replay and works on the registry alone. -/
theorem self {x : Act Store α} (mute : Mute x) (target : ∀ r t, (x ⟨r, t⟩).state.target = t)
    (registry : ∀ r t t', (x ⟨r, t'⟩).result = (x ⟨r, t⟩).result ∧
      (x ⟨r, t'⟩).state.registry = (x ⟨r, t⟩).state.registry ∧
      (x ⟨r, t'⟩).events = (x ⟨r, t⟩).events) : Silences x x := by
  rintro ⟨r, t⟩ ⟨r', t'⟩ rfl
  obtain ⟨hresult, hregistry, hevents⟩ := registry r' t t'
  exact ⟨hresult, hregistry, target r' t',
    hevents.trans (Event.unreplayed_of_not_mem (mute _)).symm⟩

end Silences

end Act

open Act

/-! ### Lines -/

abbrev Settings.plainScript (expander : Expander) (replays : Bool) : Settings :=
  { kind := .script, expander := expander, replays := replays }

section

variable {resources : Resources} {expander : Expander} {replays : Bool}

theorem silences_expand {verbose : Bool} {t : Text} :
    Silences (Store.expand expander verbose t) (Store.expand expander verbose t) := by
  refine .self mute_expand (fun r u => ?_) fun r u u' => ?_
  all_goals
    simp only [Store.expand_apply]
    cases expander.expand r t with
    | error e => simp
    | ok v => simp

theorem silences_setGlobal {key value : Text} {guarded : Bool} :
    Silences (Store.setGlobal key value guarded) (Store.setGlobal key value guarded) := by
  refine .self mute_setGlobal (fun r u => ?_) fun r u u' => ?_
  all_goals
    simp only [Store.setGlobal, Act.bind_apply, Act.get_apply, Outcome.after_nil]
    cases ((r.ensure globalsLabel).table globalsLabel).find? key with
    | none => simp [Act.bind_apply]
    | some old => cases guarded <;> simp [Act.bind_apply]

theorem silences_merge {label : Text} {values : Table} :
    Silences (Store.merge label values) (Store.merge label values) := by
  refine .self mute_merge (fun r u => ?_) fun r u u' => ?_
  all_goals
    simp only [Store.merge, Act.bind_apply, Act.get_apply, Outcome.after_nil]
    cases r.contains label <;> simp [Act.bind_apply]

/-- A load works on a table of its own. -/
theorem silences_loadAt {depth : Nat} {settings : Settings} {reference : Text} :
    Silences (loadAt resources depth settings reference)
      (loadAt resources depth settings reference) :=
  .self (mute_loadAt depth settings reference) (fun _ _ => rfl) fun _ _ _ => ⟨rfl, rfl, rfl⟩

theorem silences_surface {place : Text} {line : Line} :
    Silences (surface (.plainScript expander replays) place line)
      (surface (Settings.plainScript expander replays).forRecords place line) := by
  refine .bind .pure fun _ _ => .bind silences_expand fun expanded _ => .bind ?_ fun _ _ => .pure
  have kept (events : List Event) (h : .replayed ∉ events) :
      Silences (Act.emitAll events) (Act.emitAll events) := by
    have same := @Silences.emitAll events
    rwa [Event.unreplayed_of_not_mem h] at same
  refine kept _ ?_
  split <;> simp

theorem silences_openFrame {source : Source}
    (whole : ∀ name raw, source.read resources = .ok (name, raw) →
      (Settings.plainScript expander replays).forRecords.linesOf raw =
        (Settings.plainScript expander replays).linesOf raw) :
    Silences (openFrame resources (.plainScript expander replays) source)
      (openFrame resources (Settings.plainScript expander replays).forRecords source) := by
  intro s s' hreg
  have quiet (settings : Settings) (h : settings.options.verbose = false) :
      openingEvents resources settings source = source.path?.toList.map .sought :=
    openingEvents_of_quiet h source
  rw [openFrame_apply, openFrame_apply, quiet _ rfl, quiet _ rfl]
  refine ⟨?_, hreg, rfl, ?_⟩
  · cases hread : source.read resources with
    | error e => rfl
    | ok opened => simp only [Except.map, whole opened.1 opened.2 hread]
  · refine (Event.unreplayed_of_not_mem ?_).symm
    cases source.path? <;> simp

theorem silences_executeInclude {place reference : Text}
    (whole : ∀ registry u, expander.expand registry reference = .ok u → ∀ name raw,
      (Source.text (Text.splitOptional u).2).read resources = .ok (name, raw) →
        (Settings.plainScript expander replays).forRecords.linesOf raw =
          (Settings.plainScript expander replays).linesOf raw) :
    Silences (executeInclude resources (.plainScript expander replays) place reference)
      (executeInclude resources (Settings.plainScript expander replays).forRecords place
        reference) := by
  refine .bind silences_expand fun u expanded => ?_
  have opened : Silences
      (openFrame resources (.plainScript expander replays) (.text (Text.splitOptional u).2))
      (openFrame resources (Settings.plainScript expander replays).forRecords
        (.text (Text.splitOptional u).2)) := by
    obtain ⟨s, t, events, run⟩ := expanded
    refine silences_openFrame (whole s.registry u ?_)
    rw [expandPayload, Store.expand_apply] at run
    cases h : expander.expand s.registry reference with
    | error e => simp [h] at run
    | ok v =>
      rw [h] at run
      cases run
      rfl
  generalize Text.splitOptional u = named at opened
  obtain ⟨optional, name⟩ := named
  refine .bind (.bind (.attempt opened) fun opened _ => ?_) fun _ _ => .bind .pure fun _ _ => .pure
  split
  · exact .pure
  · split
    · exact .bind .log fun _ _ => .pure
    · exact .fail
  · exact .fail

theorem silences_executePrint {expression : Text} :
    Silences (executePrint (.plainScript expander replays) expression)
      (executePrint (Settings.plainScript expander replays).forRecords expression) := by
  refine .bind silences_expand fun u _ => ?_
  split
  · refine .bind ?_ fun _ _ => .pure
    cases replays with
    | true => exact @Silences.emitAll [.replayed]
    | false => exact @Silences.emitAll []
  · exact .bind (.emit (by rintro ⟨⟩)) fun _ _ => .pure

theorem silences_executeProperties {depth : Nat} {settings : Settings}
    {place label reference : Text} :
    Silences
      (executeProperties (.plainScript expander replays) (loadAt resources depth settings) place
        label reference)
      (executeProperties (Settings.plainScript expander replays).forRecords
        (loadAt resources depth settings) place label reference) := by
  refine .bind silences_expand fun l _ => .bind silences_expand fun u _ => ?_
  obtain ⟨optional, named⟩ := Text.splitOptional u
  refine .bind (.bind (.attempt silences_loadAt) fun loaded _ => ?_) fun values _ =>
    .bind silences_merge fun _ _ => .bind .pure fun _ _ => .pure
  split
  · exact .pure
  · split
    · exact .fail
    · split
      · exact .bind .log fun _ _ => .pure
      · exact .fail
  · exact .fail

theorem silences_pauseFor {seconds : Nat} :
    Silences (pauseFor resources seconds) (pauseFor resources seconds) := by
  rw [pauseFor]
  split
  · exact .emit (by rintro ⟨⟩)
  · exact .fail

end

/-! ### Texts of built-in lines -/

/-- A text with all that it includes, to any depth, holds built-in lines alone, and reads the
same where semicolons separate records. -/
structure BuiltinOnly (resources : Resources) (settings : Settings) (raw : Text) : Prop where
  recognized : ∀ raw', Relation.ReflTransGen (Leads resources settings · settings ·) raw raw' →
    ∀ line ∈ settings.linesOf raw', settings.kind.recognizes line.text = true
  whole : ∀ raw', Relation.ReflTransGen (Leads resources settings · settings ·) raw raw' →
    settings.forRecords.linesOf raw' = settings.linesOf raw'

theorem BuiltinOnly.of_leads {resources : Resources} {settings : Settings} {raw raw' : Text}
    (h : BuiltinOnly resources settings raw) (leads : Leads resources settings raw settings raw') :
    BuiltinOnly resources settings raw' :=
  ⟨fun raw'' path => h.recognized raw'' (.head leads path),
    fun raw'' path => h.whole raw'' (.head leads path)⟩

/-- A script scanner takes no records. -/
theorem Kind.script_builtin?_ne_record (line key : Text) (value : WrittenValue) :
    Kind.script.builtin? line ≠ some (.record key value) := by
  simp only [builtin?, Builtin.basic?, Builtin.script?]
  cases Form.include? line <;> cases Form.print? line <;> cases Form.sleep? line <;>
    cases Form.setProperty? line <;> cases Form.properties? line <;> simp

/-- What a script scanner executes, a scanner for records executes alike. -/
theorem Kind.builtin?_records {line : Text} {builtin : Builtin}
    (h : Kind.script.builtin? line = some builtin) :
    Kind.records.builtin? line = some builtin := by
  simp only [builtin?] at h ⊢
  cases hb : Builtin.basic? line with
  | some b => simpa [hb] using h
  | none =>
    cases hs : Builtin.script? line with
    | some b => simpa [hb, hs] using h
    | none => simp [hb, hs] at h

theorem Kind.records_recognizes {line : Text} (h : Kind.script.recognizes line = true) :
    Kind.records.recognizes line = true := by
  simp only [recognizes] at h ⊢
  rw [h, Bool.true_or]

/-- The remaining lines of a frame belong to a text of built-in lines. -/
def Frame.BuiltinOnly (resources : Resources) (settings : Settings) (f : Frame) : Prop :=
  ∃ raw, CommandScript.BuiltinOnly resources settings raw ∧
    ∀ line ∈ f.started.cursor.ahead, line ∈ settings.linesOf raw

section

variable {resources : Resources} {expander : Expander} {replays : Bool} {raw : Text} {line : Line}

theorem silences_executeLine {depth : Nat} {settings : Settings} {place : Text}
    (h : BuiltinOnly resources (.plainScript expander replays) raw)
    (hline : line ∈ (Settings.plainScript expander replays).linesOf raw) :
    Silences
      (executeLine resources (.plainScript expander replays) (loadAt resources depth settings)
        place line)
      (executeLine resources (Settings.plainScript expander replays).forRecords
        (loadAt resources depth settings) place line) := by
  have recognized : Kind.script.recognizes line.text = true := h.recognized raw .refl line hline
  rw [← Kind.isSome_builtin? (by decide)] at recognized
  obtain ⟨builtin, form⟩ := Option.isSome_iff_exists.mp recognized
  have form' := Kind.builtin?_records form
  refine .bind .pure fun _ _ => .bind silences_surface fun _ _ => ?_
  simp only [form, Settings.forRecords, form']
  cases builtin with
  | includeSource reference =>
    refine silences_executeInclude fun registry u expanded name raw' hread => ?_
    have leads : Leads resources (.plainScript expander replays) raw
        (.plainScript expander replays) raw' :=
      ⟨line, hline, _, name, .included form expanded, hread⟩
    exact (h.of_leads leads).whole raw' .refl
  | print expression => exact silences_executePrint
  | sleep digits =>
    simp only [execute, executeSleep]
    split
    · exact .fail
    · exact .bind .log fun _ _ => .bind silences_pauseFor fun _ _ => .pure
  | setProperty key value =>
    refine .bind silences_expand fun k _ => .bind silences_expand fun v _ => ?_
    exact .bind .pure fun _ _ => .bind silences_setGlobal fun _ _ => .pure
  | properties label reference => exact silences_executeProperties
  | record key value => exact absurd form (Kind.script_builtin?_ne_record _ key value)

/-- What a line of such a text enters is such a text again, or none. -/
theorem builtinOnly_executeLine {load : Text → Act Store Table} {place : Text} {s : Store}
    (h : BuiltinOnly resources (.plainScript expander replays) raw)
    (hline : line ∈ (Settings.plainScript expander replays).linesOf raw) :
    Wp (executeLine resources (.plainScript expander replays) load place line)
      (fun effect _ => ∀ g, effect = .entered g →
        g.BuiltinOnly resources (.plainScript expander replays)) (fun _ _ => True) s := by
  rw [executeLine, Wp.bind_iff, Wp.onlyIf_debug_iff, Wp.bind_iff, wp_surface]
  split
  · split
    · rename_i builtin form
      by_cases includes : ∃ reference, builtin = .includeSource reference
      · obtain ⟨reference, rfl⟩ := includes
        refine (executeInclude_opens _ s form).mono (fun effect _ opened g entered => ?_)
          fun _ _ _ => trivial
        subst entered
        cases opened with
        | missing => exact ⟨raw, h, fun line mem => absurd mem List.not_mem_nil⟩
        | @opened _ name raw' hnames hread =>
          exact ⟨raw', h.of_leads ⟨line, hline, _, name, hnames, hread⟩, fun line mem => mem⟩
      · have stays := @execute_stays resources (.plainScript expander replays) load builtin
          (fun reference same => includes ⟨reference, same⟩) place s
        exact stays.mono (fun _ _ stays g entered => absurd entered (stays g)) fun _ _ h => h
    · trivial
  · trivial

/-! ### Settling side by side -/

/-- Two chains were settled alike, but for requests for a replay, and no ordinary line follows. -/
structure Settled.Silences (target : Table) (o o' : Settled) : Prop where
  stores : Outcome.Silences target (o.mapState (·.2)) (o'.mapState (·.2))
  ended : o.result ≠ .ok true

theorem Settled.Silences.after {target : Table} {o o' : Settled} {early : List Event}
    (h : Silences target o o') :
    Silences target (o.after early) (o'.after (Event.unreplayed early)) := by
  refine ⟨⟨h.stores.result, h.stores.registry, h.stores.target, ?_⟩, h.ended⟩
  show _ ++ _ = Event.unreplayed (_ ++ _)
  rw [Event.unreplayed_append]
  exact congrArg (_ ++ ·) h.stores.events

theorem Settled.Silences.of_eq {target : Table} {o o' : Settled} (h : Silences target o o')
    {result : Except Error Bool} {c : Chain} {t : Store} {events : List Event}
    (run : o = ⟨result, (c, t), events⟩) :
    ∃ c' t', o' = ⟨result, (c', t'), Event.unreplayed events⟩ ∧ t'.registry = t.registry ∧
      t'.target = target := by
  subst run
  obtain ⟨result', ⟨c', t'⟩, events'⟩ := o'
  obtain ⟨t'', same, registry, left⟩ := h.stores.of_eq rfl
  cases same
  exact ⟨c', t', rfl, registry, left⟩

section

variable {depth : Nat} {settings : Settings} {enter enter' : Frame → Store → Settled}

/-- Where one source goes on, the other does. -/
theorem GoesOn.silences (h : BuiltinOnly resources (.plainScript expander replays) raw)
    (henter : ∀ g : Frame, g.BuiltinOnly resources (.plainScript expander replays) →
      ∀ s s', s'.registry = s.registry → Settled.Silences s'.target (enter g s) (enter' g s'))
    (hline : line ∈ (Settings.plainScript expander replays).linesOf raw)
    {f g f' : Frame} (hcursor : f'.cursor = f.cursor) {s t s' : Store} {events : List Event}
    (hreg : s'.registry = s.registry)
    (goes : GoesOn resources (.plainScript expander replays) (loadAt resources depth settings)
      enter line f s g t events) :
    ∃ g' t', GoesOn resources (Settings.plainScript expander replays).forRecords
        (loadAt resources depth settings) enter' line f' s' g' t' (Event.unreplayed events) ∧
      g'.cursor = g.cursor ∧ t'.registry = t.registry ∧ t'.target = s'.target := by
  have same := @silences_executeLine resources expander replays raw line depth settings
    f.cursor.state h hline s s' hreg
  cases goes with
  | done executed =>
    obtain ⟨t', executed', registry, target⟩ := same.of_eq executed
    exact ⟨f', t', .done (hcursor ▸ executed'), hcursor, registry, target⟩
  | replayed executed =>
    obtain ⟨t', executed', registry, target⟩ := same.of_eq executed
    exact ⟨_, t', .replayed (hcursor ▸ executed'), hcursor, registry, target⟩
  | @behind g c t u early inner executed ended =>
    obtain ⟨t', executed', registry, target⟩ := same.of_eq executed
    have only := (builtinOnly_executeLine h hline).value executed g rfl
    obtain ⟨c', u', ended', registry', target'⟩ := (henter g only t t' registry).of_eq ended
    rw [Event.unreplayed_append]
    exact ⟨f', u', .behind (hcursor ▸ executed') ended', hcursor, registry',
      target'.trans target⟩

theorem LinesSettle.silences (h : BuiltinOnly resources (.plainScript expander replays) raw)
    (henter : ∀ g : Frame, g.BuiltinOnly resources (.plainScript expander replays) →
      ∀ s s', s'.registry = s.registry → Settled.Silences s'.target (enter g s) (enter' g s'))
    {lines : List Line} {f : Frame} {s : Store} {o : Settled}
    (run : LinesSettle resources (.plainScript expander replays)
      (loadAt resources depth settings) enter lines f s o)
    (hlines : ∀ line ∈ lines, line ∈ (Settings.plainScript expander replays).linesOf raw)
    {f' : Frame} (hcursor : f'.cursor = f.cursor) {s' : Store} (hreg : s'.registry = s.registry) :
    ∃ o', LinesSettle resources (Settings.plainScript expander replays).forRecords
        (loadAt resources depth settings) enter' lines f' s' o' ∧
      Settled.Silences s'.target o o' := by
  have moved {f f' : Frame} (hcursor : f'.cursor = f.cursor) (line : Line) (ahead : List Line) :
      (f'.moved line ahead).cursor = (f.moved line ahead).cursor := by
    rw [Frame.cursor_moved, Frame.cursor_moved, hcursor]
  induction run generalizing f' s' with
  | ended => exact ⟨_, .ended, ⟨rfl, hreg, rfl, rfl⟩, by rintro ⟨⟩⟩
  | @ordinary line ahead f s other =>
    rw [h.recognized raw .refl line (hlines line List.mem_cons_self)] at other
    cases other
  | @failed line ahead f s t e events recognized executed =>
    obtain ⟨t', executed', registry, target⟩ :=
      (silences_executeLine h (hlines line List.mem_cons_self) s s' hreg).of_eq executed
    rw [← moved hcursor line ahead] at executed'
    exact ⟨_, .failed (Kind.records_recognizes recognized) executed',
      ⟨rfl, registry, target, rfl⟩, by rintro ⟨⟩⟩
  | @inside line ahead f g s t u c events inner result recognized executed entered unfinished =>
    have hline := hlines line List.mem_cons_self
    obtain ⟨t', executed', registry, target⟩ :=
      (silences_executeLine h hline s s' hreg).of_eq executed
    have only := (builtinOnly_executeLine h hline).value executed g rfl
    have same := henter g only t t' registry
    obtain ⟨c', u', entered', registry', target'⟩ := same.of_eq entered
    have ended := same.ended
    rw [entered] at ended
    rw [← moved hcursor line ahead] at executed'
    exact ⟨_, .inside (Kind.records_recognizes recognized) executed' entered' unfinished,
      ⟨rfl, registry', target'.trans target, (Event.unreplayed_append events inner).symm⟩, ended⟩
  | @passed line ahead f g s t o events recognized goes rest ih =>
    obtain ⟨g', t', goes', cursor, registry, target⟩ := goes.silences h henter
      (hlines line List.mem_cons_self) (moved hcursor line ahead) hreg
    obtain ⟨o', rest', same⟩ :=
      ih (fun line mem => hlines line (List.mem_cons_of_mem _ mem)) cursor registry
    rw [← target]
    exact ⟨_, .passed (Kind.records_recognizes recognized) goes' rest', same.after⟩

end

/-- **Settling side by side.** Where all lines are built-in, a script scanner and a scanner for
records settle alike. -/
theorem silences_settle (depth : Nat) {g : Frame}
    (hg : g.BuiltinOnly resources (.plainScript expander replays)) {s s' : Store}
    (hreg : s'.registry = s.registry) :
    Settled.Silences s'.target
      (settle resources depth (.plainScript expander replays) g [] s)
      (settle resources depth (Settings.plainScript expander replays).forRecords g [] s') := by
  induction depth generalizing g s s' with
  | zero => exact ⟨⟨rfl, hreg, rfl, rfl⟩, by rintro ⟨⟩⟩
  | succ depth ih =>
    obtain ⟨raw, h, hlines⟩ := hg
    obtain ⟨o', run', same⟩ := LinesSettle.silences h (fun g hg s s' hreg => ih hg hreg)
      (settle_single resources depth (.plainScript expander replays) g s) hlines rfl hreg
    have settled : settle resources (depth + 1) (Settings.plainScript expander replays).forRecords
      g [] s' = o' := run'.eq
    rwa [settled]

end

end CommandScript
