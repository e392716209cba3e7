import CommandScript.Proofs.Cleaning
import CommandScript.Proofs.Dictionaries
import CommandScript.Proofs.Faults
import CommandScript.Proofs.LineEnds
import CommandScript.Proofs.Loading
import CommandScript.Proofs.Silence

/-!
# Built-in lines in a properties source

A source of built-in lines can be included, or loaded as properties under a label that gets
nothing from it. Both do the same to the registry, write the same, pause alike and fail alike.
But only an included source has somebody to answer its requests for a replay: a load drops
them.
-/

namespace CommandScript

open Act

/-! ### The two lines -/

namespace Form

variable {line : Text}

theorem echo?_of_keyword? {keyword : Text} (h : keyword? line = some keyword)
    (other : keyword ≠ "echo".toList) : echo? line = none := by
  refine Option.eq_none_iff_forall_ne_some.mpr fun payload fits => other ?_
  have word := keyword?_of_payload? (by decide) fits
  exact Option.some.inj (h.symm.trans word)

theorem splitEcho_of_keyword? {keyword : Text} (h : keyword? line = some keyword)
    (other : keyword ≠ "echo".toList) : splitEcho line = (false, line) := by
  rw [splitEcho, echo?_of_keyword? h other]

end Form

theorem Kind.builtin?_of_include? {line reference : Text}
    (h : Form.include? line = some reference) :
    Kind.script.builtin? line = some (.includeSource reference) := by
  simp [builtin?, Builtin.basic?, h]

/-- The keyword tells that the line has no other form. -/
theorem Kind.builtin?_of_properties? {line label reference : Text}
    (h : Form.properties? line = some (label, reference)) :
    Kind.script.builtin? line = some (.properties label reference) := by
  have word := Form.keyword?_of_properties? h
  have differ {keyword : Text} (other : Form.keyword? line = some keyword)
      (ne : keyword ≠ "properties".toList) : False :=
    ne (Option.some.inj (other.symm.trans word))
  have noInclude : Form.include? line = none :=
    Option.eq_none_iff_forall_ne_some.mpr fun _ fits =>
      differ (Form.keyword?_of_include? fits) (by decide)
  have noPrint : Form.print? line = none :=
    Option.eq_none_iff_forall_ne_some.mpr fun _ fits =>
      differ (Form.keyword?_of_payload? (by decide) fits) (by decide)
  have noSleep : Form.sleep? line = none :=
    Option.eq_none_iff_forall_ne_some.mpr fun _ fits =>
      differ (Form.keyword?_of_payload? (by decide) fits) (by decide)
  have noSetProperty : Form.setProperty? line = none :=
    Option.eq_none_iff_forall_ne_some.mpr fun _ fits =>
      differ (Form.keyword?_of_setProperty? fits) (by decide)
  simp [builtin?, Builtin.basic?, Builtin.script?, noInclude, noPrint, noSleep, noSetProperty, h]

/-- A line includes what it names for a scanner that takes no records. -/
theorem Names.exists_included {settings settings' : Settings} {line reference : Text}
    (h : Names settings line settings' reference) (hkind : settings'.kind ≠ .records) :
    ∃ registry written u,
      settings.kind.builtin? (withoutEcho line) = some (.includeSource written) ∧
        settings.expander.expand registry written = .ok u ∧
        reference = (Text.splitOptional u).2 := by
  cases h with
  | included form expanded => exact ⟨_, _, _, form, expanded, rfl⟩
  | loaded form expanded => exact absurd rfl hkind

/-! ### Texts without semicolons -/

section

variable {resources : Resources} {expander : Expander} {replays : Bool}

/-- A text without a semicolon reads the same where semicolons separate records. -/
theorem linesOf_forRecords {raw : Text} (free : ';' ∉ raw) :
    (Settings.plainScript expander replays).forRecords.linesOf raw =
      (Settings.plainScript expander replays).linesOf raw := by
  have normalized : ';' ∉ Line.normalize raw := by
    intro mem
    exact free ((List.dropWhile_sublist _).subset (Line.mem_of_mem_joinReturns mem))
  simp only [Settings.linesOf, Line.ingest_eq]
  refine List.flatMap_congr fun p hp => ?_
  have hline : p.1 ∈ Line.rawLines raw := List.fst_mem_of_mem_zipIdx hp
  have whole : ';' ∉ p.1 := fun mem => normalized (Text.mem_of_mem_splitAt hline mem)
  have records : Line.records (some [';']) p.1 = [p.1] := by
    rw [Line.records_char, Text.splitAt_of_not_mem whole]
  exact congrArg (fun records => (records.filterMap (Line.clean? {})).map (Line.mk p.2)) records

/-- Texts of built-in lines without semicolons, which include one another only. -/
theorem BuiltinOnly.of_closed {texts : List Text}
    (closed : ∀ raw ∈ texts, ∀ raw', Leads resources (.plainScript expander replays) raw
      (.plainScript expander replays) raw' → raw' ∈ texts)
    (recognized : ∀ raw ∈ texts, ∀ line ∈ (Settings.plainScript expander replays).linesOf raw,
      Kind.script.recognizes line.text = true)
    (free : ∀ raw ∈ texts, ';' ∉ raw) {raw : Text} (hraw : raw ∈ texts) :
    BuiltinOnly resources (.plainScript expander replays) raw := by
  have reached (raw' : Text) (path : Relation.ReflTransGen (Leads resources
      (.plainScript expander replays) · (.plainScript expander replays) ·) raw raw') :
      raw' ∈ texts := by
    induction path with
    | refl => exact hraw
    | tail _ leads ih => exact closed _ ih _ leads
  constructor
  · exact fun raw' path => recognized raw' (reached raw' path)
  · exact fun raw' path => linesOf_forRecords (free raw' (reached raw' path))

end

/-! ### What happened, but for the log and replays -/

namespace Event

theorem written_filter {keep : Event → Bool} (h : ∀ text, keep (.wrote text) = true)
    (events : List Event) : written (events.filter keep) = written events := by
  induction events with
  | nil => rfl
  | cons event rest ih =>
    rw [List.filter_cons]
    split
    · exact congrArg (_ ++ ·) ih
    · rename_i dropped
      cases event with
      | wrote text => exact absurd (h text) dropped
      | _ => exact ih

theorem pauses_filter {keep : Event → Bool} (h : ∀ seconds, keep (.paused seconds) = true)
    (events : List Event) : pauses (events.filter keep) = pauses events := by
  rw [pauses, pauses, List.filterMap_filter]
  refine List.filterMap_congr fun event _ => ?_
  cases event with
  | paused seconds => rw [h seconds]; rfl
  | _ => split <;> rfl

theorem replays_unlogged (events : List Event) : replays (unlogged events) = replays events :=
  List.count_filter rfl

end Event

/-- Two errors of one kind: the same one, or the want of the same source, wherever it was
named. -/
inductive Error.Alike : Error → Error → Prop where
  | same {e : Error} : Alike e e
  | missing {reference : Text} {place place' : Option Text} :
      Alike (.notFound reference place) (.notFound reference place')

/-- What loading a source under a label came to, beside what including it came to: the same
happened, but for the log and for requests for a replay. Success makes sure of a table. -/
structure Outcome.Loads {α : Type} (label : Text) (o o' : Outcome Store α) : Prop where
  events : Event.unlogged o'.events = Event.unlogged (Event.unreplayed o.events)
  done : ∀ a, o.result = .ok a →
    o'.result = .ok a ∧ o'.state.registry = o.state.registry.ensure label
  failed : ∀ e, o.result = .error e →
    ∃ e', o'.result = .error e' ∧ e.Alike e' ∧ o'.state.registry = o.state.registry

namespace Outcome.Loads

variable {α : Type} {label : Text} {o o' : Outcome Store α}

theorem written (h : Loads label o o') : Event.written o'.events = Event.written o.events := by
  have unlogged (events : List Event) :
      Event.written (Event.unlogged events) = Event.written events :=
    Event.written_filter (fun _ => rfl) events
  rw [← unlogged, h.events, unlogged]
  exact Event.written_filter (fun _ => rfl) o.events

theorem pauses (h : Loads label o o') : Event.pauses o'.events = Event.pauses o.events := by
  have unlogged (events : List Event) :
      Event.pauses (Event.unlogged events) = Event.pauses events :=
    Event.pauses_filter (fun _ => rfl) events
  rw [← unlogged, h.events, unlogged]
  exact Event.pauses_filter (fun _ => rfl) o.events

/-- The load asks for no replay. -/
theorem replays (h : Loads label o o') : Event.replays o'.events = 0 := by
  rw [← Event.replays_unlogged, h.events, Event.replays_unlogged, Event.replays,
    List.count_eq_zero]
  intro mem
  simpa using (List.mem_filter.mp mem).2

end Outcome.Loads

/-! ### Executing the two lines -/

section

variable {resources : Resources} {expander : Expander} {replays : Bool} {place : Text}
variable {s : Store} {file : Text}

/-- Without an echo keyword and without debugging, a line is executed at once. -/
theorem executeLine_plain {load : Text → Act Store Table} {line : Line} {t : Text}
    {builtin : Builtin} (plain : splitEcho line.text = (false, line.text))
    (expanded : expander.expand s.registry line.text = .ok t)
    (form : Kind.script.builtin? line.text = some builtin) :
    executeLine resources (.plainScript expander replays) load place line s =
      execute resources (.plainScript expander replays) load place builtin s := by
  have surfaced : surface (.plainScript expander replays) place line s = ⟨.ok t, s, []⟩ := by
    simp [surface, announce, logAdvance, plain, bind_apply, Store.expand_apply, expanded]
  have bare : withoutEcho line.text = line.text := by rw [withoutEcho, plain]
  simp only [executeLine, bind_apply, onlyIf_false, surfaced, bare, form, Outcome.after_nil]

def scriptFrame (expander : Expander) (replays : Bool) (name raw : Text) : Frame :=
  { cursor := .opened name ((Settings.plainScript expander replays).linesOf raw) }

/-- Opening a file without debugging only looks for it. -/
theorem openingEvents_file {settings : Settings} (quiet : settings.options.verbose = false) :
    openingEvents resources settings (.text ('@' :: file)) = [.sought (.ofText file)] := by
  rw [openingEvents_of_quiet quiet]
  rfl

/-- A file that can be read is entered. -/
theorem executeInclude_file {reference name raw : Text}
    (named : expander.expand s.registry reference = .ok ('@' :: file))
    (hread : (Source.text ('@' :: file)).read resources = .ok (name, raw)) :
    executeInclude resources (.plainScript expander replays) place reference s =
      ⟨.ok (.entered (scriptFrame expander replays name raw)), s, [.sought (.ofText file)]⟩ := by
  simp [scriptFrame, executeInclude, expandPayload, debugIfVerbose, bind_apply,
    Store.expand_apply, named, Text.splitOptional, openFrame_apply, openingEvents_file, hread,
    Except.map]

def unreadBecause (place file : Text) : Error → Error
  | .notFound _ _ => .notFound ('@' :: file) (some place)
  | e => e

theorem executeInclude_unread {reference : Text} {e : Error}
    (named : expander.expand s.registry reference = .ok ('@' :: file))
    (hread : (Source.text ('@' :: file)).read resources = .error e) :
    executeInclude resources (.plainScript expander replays) place reference s =
      ⟨.error (unreadBecause place file e), s, [.sought (.ofText file)]⟩ := by
  have opened : openFrame resources (.plainScript expander replays) (.text ('@' :: file)) s =
      ⟨.error e, s, [.sought (.ofText file)]⟩ := by
    rw [openFrame_apply, openingEvents_file rfl, hread]
    rfl
  cases e <;> simp [executeInclude, expandPayload, bind_apply, Store.expand_apply, named,
    Text.splitOptional, opened, unreadBecause]

/-- What loading a source of built-in lines comes to: nothing gets into the table. -/
theorem loadAt_builtinOnly {depth : Nat} {name raw : Text} {o : Settled}
    (hread : (Source.text ('@' :: file)).read resources = .ok (name, raw))
    (only : BuiltinOnly resources (.plainScript expander replays) raw)
    (settled : settle resources depth (.plainScript expander replays)
      (scriptFrame expander replays name raw) [] s = o) :
    ∃ log, Event.unlogged log = [] ∧
      loadAt resources depth (.plainScript expander replays) ('@' :: file) s =
        ⟨o.result.map fun _ => ∅, ⟨o.state.2.registry, s.target⟩,
          .sought (.ofText file) :: Event.unreplayed o.events ++ log⟩ := by
  have front : (scriptFrame expander replays name raw).BuiltinOnly resources
      (.plainScript expander replays) := ⟨raw, only, fun line mem => mem⟩
  have alike :=
    @silences_settle resources expander replays depth _ front s { s with target := ∅ } rfl
  rw [settled] at alike
  simp only [loadAt, withOwnTarget, readRecords_apply, hread, only.whole raw .refl]
  rw [openingEvents_file rfl, ← scriptFrame]
  generalize settle resources depth (Settings.plainScript expander replays).forRecords
    (scriptFrame expander replays name raw) [] { s with target := ∅ } = o' at alike ⊢
  obtain ⟨r, ⟨c, t⟩, made⟩ := o
  obtain ⟨r', ⟨c', t'⟩, made'⟩ := o'
  obtain ⟨⟨result, registry, target, events⟩, ended⟩ := alike
  simp only [Outcome.mapState_mk] at result registry target events ended
  subst result events
  rcases r' with e | _ | _
  · exact ⟨[], rfl, by simp [tableOf, ← registry, Except.map]⟩
  · refine ⟨[.logged ⟨.debug, .properties, "Loaded " ++ Text.ofNat t'.target.size ++
      " entries from [" ++ c'.frame.cursor.name.getD [] ++ "]"⟩], rfl, ?_⟩
    simp [tableOf, ← registry, target, Except.map]
  · exact absurd rfl ended

/-- To load nothing under a label is to make sure of its table. -/
theorem merge_nothing (label : Text) (s : Store) :
    ∃ values log, Event.unlogged log = [] ∧
      Store.merge label ∅ s =
        ⟨.ok values, { s with registry := s.registry.ensure label }, log⟩ := by
  simp only [Store.merge, bind_apply, get_apply, Outcome.after_nil, Registry.merge_empty]
  cases s.registry.contains label with
  | true => exact ⟨_, _, rfl, rfl⟩
  | false => exact ⟨_, [], rfl, rfl⟩

/-- Executing a line that loads a file of built-in lines: it fails as settling them does, or
makes sure of a table. -/
theorem executeProperties_file {depth : Nat} {label reference l name raw : Text} {o : Settled}
    (labelled : expander.expand s.registry label = .ok l)
    (named : expander.expand s.registry reference = .ok ('@' :: file))
    (hread : (Source.text ('@' :: file)).read resources = .ok (name, raw))
    (only : BuiltinOnly resources (.plainScript expander replays) raw)
    (settled : settle resources depth (.plainScript expander replays)
      (scriptFrame expander replays name raw) [] s = o) :
    ∃ log, Event.unlogged log = [] ∧
      executeProperties (.plainScript expander replays)
        (loadAt resources depth (.plainScript expander replays)) place label reference s =
        ⟨o.result.map fun _ => .done,
          { s with registry :=
            if o.result.isOk then o.state.2.registry.ensure l else o.state.2.registry },
          .sought (.ofText file) :: Event.unreplayed o.events ++ log⟩ := by
  have arises (e : Error) := @arises_settle resources (.plainScript expander replays)
    (by rintro ⟨⟩) depth (scriptFrame expander replays name raw) [] s e
  rw [settled] at arises
  obtain ⟨log, quiet, run⟩ := loadAt_builtinOnly hread only settled
  simp only [executeProperties, expandPayload, debugIfVerbose, bind_apply, Store.expand_apply,
    labelled, named, Text.splitOptional, Text.asFileReference, attempt_apply]
  obtain ⟨result, ⟨c, t⟩, made⟩ := o
  cases result with
  | ok _ =>
    obtain ⟨values, late, quiet', merged⟩ := merge_nothing l ⟨t.registry, s.target⟩
    refine ⟨log ++ late, by rw [Scanner.unlogged_append, quiet, quiet', List.append_nil], ?_⟩
    simp [run, Except.map, merged, Except.isOk, Except.toBool]
  | error e =>
    have elsewhere (place : Option Text) : e ≠ .notFound ('@' :: file) place := by
      rintro rfl
      obtain ⟨missing, state, unread⟩ := (arises _ rfl).not_found ⟨file, .inl rfl⟩
      rw [hread] at unread
      cases unread
    refine ⟨log, quiet, ?_⟩
    cases e with
    | notFound missing state =>
      have other : missing ≠ '@' :: file := fun same => elsewhere state (by rw [same])
      simp [run, Except.map, other, Except.isOk, Except.toBool]
    | _ => simp [run, Except.map, Except.isOk, Except.toBool]

theorem executeProperties_unread {depth : Nat} {label reference l : Text} {e : Error}
    (labelled : expander.expand s.registry label = .ok l)
    (named : expander.expand s.registry reference = .ok ('@' :: file))
    (hread : (Source.text ('@' :: file)).read resources = .error e) :
    executeProperties (.plainScript expander replays)
      (loadAt resources depth (.plainScript expander replays)) place label reference s =
        ⟨.error (unreadBecause place file e), s, [.sought (.ofText file)]⟩ := by
  have run : loadAt resources depth (.plainScript expander replays) ('@' :: file) s =
      ⟨.error e, s, [.sought (.ofText file)]⟩ := by
    simp only [loadAt, withOwnTarget, readRecords_apply, hread]
    rw [openingEvents_file rfl]
    rfl
  simp only [executeProperties, expandPayload, debugIfVerbose, bind_apply, Store.expand_apply,
    labelled, named, Text.splitOptional, Text.asFileReference, attempt_apply]
  cases Source.read_fault hread <;> simp [run, unreadBecause]

/-! ### Settling the two lines -/

/-- Settling goes no further where an ordinary line or none is next. -/
theorem settleLines_stops {settings : Settings} {load : Text → Act Store Table}
    {enter : Frame → Store → Settled} {rest : List Line}
    (stops : ∀ line ∈ rest.head?, settings.kind.recognizes line.text = false) (f : Frame)
    (s : Store) :
    settleLines resources settings load enter rest f s =
      ⟨.ok (!rest.isEmpty), (⟨f, []⟩, s), []⟩ := by
  cases rest with
  | nil => rfl
  | cons line ahead =>
    have ordinary := stops line rfl
    rw [settleLines, ordinary]
    rfl

/-- Settling at a line which is executed at once, with nothing to execute behind it. -/
theorem settle_plain {f : Frame} {line : Line} {rest : List Line} {t : Text} {builtin : Builtin}
    (hahead : f.cursor.ahead = line :: rest)
    (stops : ∀ line ∈ rest.head?, Kind.script.recognizes line.text = false)
    (plain : splitEcho line.text = (false, line.text))
    (expanded : expander.expand s.registry line.text = .ok t)
    (form : Kind.script.builtin? line.text = some builtin) (depth : Nat) :
    ∃ place,
      (settle resources (depth + 1) (.plainScript expander replays) f [] s).mapState (·.2) =
        match execute resources (.plainScript expander replays)
          (loadAt resources depth (.plainScript expander replays)) place builtin s with
        | ⟨.error e, s, events⟩ => ⟨.error e, s, events⟩
        | ⟨.ok (.entered g), s, events⟩ =>
          match settle resources depth (.plainScript expander replays) g [] s with
          | ⟨.ok false, (_, s), inner⟩ => ⟨.ok (!rest.isEmpty), s, events ++ inner⟩
          | ⟨result, (_, s), inner⟩ => ⟨result, s, events ++ inner⟩
        | ⟨.ok _, s, events⟩ => ⟨.ok (!rest.isEmpty), s, events⟩ := by
  have recognized : Kind.script.recognizes line.text = true := by
    rw [← Kind.isSome_builtin? (by decide), withoutEcho, plain, form]
    rfl
  have behind (f : Frame) (s : Store) :
      settleLines resources (.plainScript expander replays)
        (loadAt resources depth (.plainScript expander replays))
        (fun g s => settle resources depth (.plainScript expander replays) g [] s) rest f s =
          ⟨.ok (!rest.isEmpty), (⟨f, []⟩, s), []⟩ := settleLines_stops stops f s
  refine ⟨(f.moved line rest).cursor.state, ?_⟩
  rw [← executeLine_plain plain expanded form, settle_of_ahead hahead, settleLines,
    if_pos recognized]
  dsimp only
  generalize executeLine resources (.plainScript expander replays)
    (loadAt resources depth (.plainScript expander replays)) (f.moved line rest).cursor.state line
    s = o
  obtain ⟨_ | _ | _ | g, u, events⟩ := o
  · rfl
  · simp [behind]
  · simp [behind]
  · dsimp only
    generalize settle resources depth (.plainScript expander replays) g [] u = w
    obtain ⟨_ | _ | _, ⟨c, v⟩, inner⟩ := w
    · rfl
    · simp [behind]
    · rfl

theorem alike_unreadBecause (place place' : Text) (e : Error) :
    (unreadBecause place file e).Alike (unreadBecause place' file e) := by
  cases e with
  | notFound reference state => exact .missing
  | _ => exact .same

section

variable {depth : Nat} {f : Frame} {i p : Line} {rest : List Line}
variable {label reference l t name raw : Text}

/-- Settling at a line that includes a file of built-in lines. -/
theorem settle_including {o : Settled} (hi : f.cursor.ahead = i :: rest)
    (including : Form.include? i.text = some reference)
    (surfaced : expander.expand s.registry i.text = .ok t)
    (named : expander.expand s.registry reference = .ok ('@' :: file))
    (stops : ∀ line ∈ rest.head?, Kind.script.recognizes line.text = false)
    (hread : (Source.text ('@' :: file)).read resources = .ok (name, raw))
    (settled : settle resources depth (.plainScript expander replays)
      (scriptFrame expander replays name raw) [] s = o) (ended : o.result ≠ .ok true) :
    (settle resources (depth + 1) (.plainScript expander replays) f [] s).mapState (·.2) =
      ⟨o.result.map fun _ => !rest.isEmpty, o.state.2, .sought (.ofText file) :: o.events⟩ := by
  have plain := Form.splitEcho_of_keyword? (Form.keyword?_of_include? including) (by decide)
  obtain ⟨place, run⟩ := @settle_plain resources expander replays s f i rest t _ hi stops plain
    surfaced (Kind.builtin?_of_include? including) depth
  rw [run, execute, executeInclude_file named hread]
  dsimp only
  rw [settled]
  obtain ⟨e | _ | _, ⟨c, u⟩, inner⟩ := o
  · rfl
  · rfl
  · exact absurd rfl ended

/-- Settling at a line that loads a file of built-in lines. -/
theorem settle_loading {o : Settled} (hp : f.cursor.ahead = p :: rest)
    (loading : Form.properties? p.text = some (label, reference))
    (surfaced : expander.expand s.registry p.text = .ok t)
    (labelled : expander.expand s.registry label = .ok l)
    (named : expander.expand s.registry reference = .ok ('@' :: file))
    (stops : ∀ line ∈ rest.head?, Kind.script.recognizes line.text = false)
    (hread : (Source.text ('@' :: file)).read resources = .ok (name, raw))
    (only : BuiltinOnly resources (.plainScript expander replays) raw)
    (settled : settle resources depth (.plainScript expander replays)
      (scriptFrame expander replays name raw) [] s = o) :
    ∃ log, Event.unlogged log = [] ∧
      (settle resources (depth + 1) (.plainScript expander replays) f [] s).mapState (·.2) =
        ⟨o.result.map fun _ => !rest.isEmpty,
          { s with registry :=
            if o.result.isOk then o.state.2.registry.ensure l else o.state.2.registry },
          .sought (.ofText file) :: Event.unreplayed o.events ++ log⟩ := by
  have plain := Form.splitEcho_of_keyword? (Form.keyword?_of_properties? loading) (by decide)
  obtain ⟨place, run⟩ := @settle_plain resources expander replays s f p rest t _ hp stops plain
    surfaced (Kind.builtin?_of_properties? loading) depth
  obtain ⟨log, quiet, executed⟩ := @executeProperties_file resources expander replays place s file
    depth label reference l name raw o labelled named hread only settled
  refine ⟨log, quiet, ?_⟩
  rw [run, execute, executed]
  obtain ⟨result, ⟨c, u⟩, inner⟩ := o
  cases result with
  | error e => rfl
  | ok answer => rfl

end

/-- Settling at a line that loads a file, beside settling at one that includes it. -/
theorem loads_settle {depth : Nat} {f f' : Frame} {i p : Line} {rest : List Line}
    {label reference l : Text} (hi : f.cursor.ahead = i :: rest) (hp : f'.cursor.ahead = p :: rest)
    (including : Form.include? i.text = some reference)
    (loading : Form.properties? p.text = some (label, reference))
    (surfaced : ∀ line ∈ [i, p], ∃ t, expander.expand s.registry line.text = .ok t)
    (labelled : expander.expand s.registry label = .ok l)
    (named : expander.expand s.registry reference = .ok ('@' :: file))
    (only : ∀ name raw, (Source.text ('@' :: file)).read resources = .ok (name, raw) →
      BuiltinOnly resources (.plainScript expander replays) raw)
    (stops : ∀ line ∈ rest.head?, Kind.script.recognizes line.text = false) :
    Outcome.Loads l
      ((settle resources depth (.plainScript expander replays) f [] s).mapState (·.2))
      ((settle resources depth (.plainScript expander replays) f' [] s).mapState (·.2)) := by
  obtain ⟨t, ht⟩ := surfaced i List.mem_cons_self
  obtain ⟨t', ht'⟩ := surfaced p (List.mem_cons_of_mem _ List.mem_cons_self)
  cases depth with
  | zero => exact ⟨rfl, by rintro a ⟨⟩, fun e failed => ⟨e, failed, .same, rfl⟩⟩
  | succ depth =>
    cases hread : (Source.text ('@' :: file)).read resources with
    | error e =>
      have plain := Form.splitEcho_of_keyword? (Form.keyword?_of_include? including) (by decide)
      have plain' := Form.splitEcho_of_keyword? (Form.keyword?_of_properties? loading) (by decide)
      obtain ⟨place, run⟩ := @settle_plain resources expander replays s f i rest t _ hi stops plain
        ht (Kind.builtin?_of_include? including) depth
      obtain ⟨place', run'⟩ := @settle_plain resources expander replays s f' p rest t' _ hp stops
        plain' ht' (Kind.builtin?_of_properties? loading) depth
      rw [run, run', execute, execute, executeInclude_unread named hread,
        executeProperties_unread labelled named hread]
      refine ⟨rfl, by rintro a ⟨⟩, ?_⟩
      rintro e' ⟨⟩
      exact ⟨_, rfl, alike_unreadBecause place place' e, rfl⟩
    | ok opened =>
      obtain ⟨name, raw⟩ := opened
      have front : (scriptFrame expander replays name raw).BuiltinOnly resources
          (.plainScript expander replays) := ⟨raw, only name raw hread, fun line mem => mem⟩
      have ended := (@silences_settle resources expander replays depth _ front s s rfl).ended
      obtain ⟨log, quiet, run'⟩ := settle_loading hp loading ht' labelled named stops hread
        (only name raw hread) rfl
      rw [settle_including hi including ht named stops hread rfl ended, run']
      generalize settle resources depth (.plainScript expander replays)
        (scriptFrame expander replays name raw) [] s = o
      refine ⟨?_, fun a done => ?_, fun e failed => ?_⟩
      · show Event.unlogged (_ :: _ ++ _) = Event.unlogged (_ :: _)
        rw [Scanner.unlogged_append, quiet, List.append_nil]
        rfl
      · obtain ⟨result, u, made⟩ := o
        cases result with
        | error e => cases done
        | ok answer => exact ⟨done, rfl⟩
      · obtain ⟨result, u, made⟩ := o
        cases result with
        | error fault => exact ⟨e, failed, .same, rfl⟩
        | ok answer => cases failed

end

/-! ### Nested sources -/

/-- Settling does not come to the end of a source in which an ordinary line is ahead. -/
theorem LinesSettle.ne_false {resources : Resources} {settings : Settings}
    {load : Text → Act Store Table} {enter : Frame → Store → Settled} {lines : List Line}
    {f : Frame} {s : Store} {o : Settled}
    (run : LinesSettle resources settings load enter lines f s o)
    (h : ∃ line ∈ lines, settings.kind.recognizes line.text = false) :
    o.result ≠ .ok false := by
  have behind {line : Line} {ahead : List Line} (recognized : settings.kind.recognizes line.text)
      (h : ∃ other ∈ line :: ahead, settings.kind.recognizes other.text = false) :
      ∃ other ∈ ahead, settings.kind.recognizes other.text = false := by
    obtain ⟨other, mem, ordinary⟩ := h
    rcases List.mem_cons.mp mem with rfl | mem
    · rw [recognized] at ordinary
      cases ordinary
    · exact ⟨other, mem, ordinary⟩
  induction run with
  | ended => simp at h
  | ordinary => rintro ⟨⟩
  | failed => rintro ⟨⟩
  | inside recognized executed entered unfinished => exact unfinished
  | passed recognized goes rest ih => exact ih (behind recognized h)

theorem settle_ne_false {resources : Resources} {settings : Settings} {depth : Nat} {f : Frame}
    {s : Store} (h : ∃ line ∈ f.cursor.ahead, settings.kind.recognizes line.text = false) :
    (settle resources depth settings f [] s).result ≠ .ok false := by
  cases depth with
  | zero => rintro ⟨⟩
  | succ depth =>
    obtain ⟨line, mem, ordinary⟩ := h
    obtain ⟨next, ahead, hahead⟩ := List.exists_cons_of_ne_nil (List.ne_nil_of_mem mem)
    have settling := settle_single resources depth settings f s
    rw [Frame.started_of_reading (Frame.reading_of_ahead hahead)] at settling
    exact settling.ne_false ⟨line, mem, ordinary⟩

/-- Where an ordinary line is ahead in the innermost source, settling a chain does what settling
that source does. -/
theorem settle_innermost {resources : Resources} {settings : Settings} {depth : Nat} {f : Frame}
    {included : List Frame} {s : Store}
    (h : included = [] ∨ ∃ line ∈ (Chain.innermost ⟨f, included⟩).cursor.ahead,
      settings.kind.recognizes line.text = false) :
    (settle resources depth settings f included s).mapState (·.2) =
      (settle resources (depth - included.length) settings
        (Chain.innermost ⟨f, included⟩) [] s).mapState (·.2) := by
  induction included generalizing depth f with
  | nil => rfl
  | cons g rest ih =>
    cases depth with
    | zero =>
      rw [Nat.zero_sub]
      rfl
    | succ depth =>
      have ahead := h.resolve_left (List.cons_ne_nil g rest)
      rw [Chain.innermost_cons] at ahead
      have inner := @ih depth g (.inr ahead)
      have goesOn : (settle resources depth settings g rest s).result ≠ .ok false :=
        fun ended => settle_ne_false ahead ((congrArg Outcome.result inner).symm.trans ended)
      rw [List.length_cons, Nat.add_sub_add_right, Chain.innermost_cons, ← inner]
      rcases settled : settle resources depth settings g rest s with ⟨result, ⟨c, u⟩, events⟩
      rw [settled] at goesOn
      rw [settle_of_within settled goesOn]
      rfl

namespace Scanner

/-- **Loading built-in lines.** Two script scanners stand alike, one before a line that
includes a file of built-in lines, the other before a line that loads that file as properties,
and nothing is to be executed behind. Then both come to the same, but for the table that the
load makes sure of, and for the replays that only the included lines get. -/
theorem loads_as_included {resources : Resources} {expander : Expander} {replays : Bool}
    {sc sc' : Scanner} {s : Store} {i p : Line} {rest : List Line} {label file l : Text}
    (hsc : sc.settings = .plainScript expander replays)
    (hsc' : sc'.settings = .plainScript expander replays)
    (nested : sc'.nesting = sc.nesting)
    (hi : sc.chain.innermost.cursor.ahead = i :: rest)
    (hp : sc'.chain.innermost.cursor.ahead = p :: rest)
    (including : Form.include? i.text = some ('@' :: file))
    (loading : Form.properties? p.text = some (label, '@' :: file))
    (surfaced : ∀ line ∈ [i, p], ∃ t, expander.expand s.registry line.text = .ok t)
    (labelled : expander.expand s.registry label = .ok l)
    (named : ∃ u, expander.expand s.registry ('@' :: file) = .ok u)
    (only : ∀ u name raw, expander.expand s.registry ('@' :: file) = .ok u →
      (Source.text u).read resources = .ok (name, raw) →
        BuiltinOnly resources (.plainScript expander replays) raw)
    (stops : ∀ line ∈ rest.head?, Kind.script.recognizes line.text = false)
    (within : rest = [] → sc.nesting = 0) :
    let o := hasNext resources (sc, s)
    let o' := hasNext resources (sc', s)
    Event.written o'.events = Event.written o.events ∧
      Event.pauses o'.events = Event.pauses o.events ∧
      (∀ a, o.result = .ok a → o'.result = .ok a ∧
        o'.state.2.registry = o.state.2.registry.ensure l) ∧
      (∀ e, o.result = .error e → ∃ e', o'.result = .error e' ∧ e.Alike e' ∧
        o'.state.2.registry = o.state.2.registry) ∧
      Event.replays o'.events = 0 ∧ (replays = false → Event.replays o.events = 0) := by
  intro o o'
  obtain ⟨u, hu⟩ := named
  obtain ⟨v, -, rfl⟩ := Expander.expand_cons_ok s.registry (by decide) hu
  have ahead {c : Chain} {line : Line} (hline : c.innermost.cursor.ahead = line :: rest)
      (outermost : rest = [] → c.included = []) : c.included = [] ∨
        ∃ line ∈ c.innermost.cursor.ahead, Kind.script.recognizes line.text = false := by
    cases rest with
    | nil => exact .inl (outermost rfl)
    | cons next behind =>
      refine .inr ⟨next, ?_, stops next rfl⟩
      rw [hline]
      exact List.mem_cons_of_mem _ List.mem_cons_self
  have loaded : Outcome.Loads l (o.mapState (·.2)) (o'.mapState (·.2)) := by
    have alone := @loads_settle resources expander replays s v
      (resources.depthBound - sc.nesting) _ _ i p rest label ('@' :: file) l hi hp including loading
      surfaced labelled hu (fun name raw hread => only _ name raw hu hread) stops
    have first : o.mapState (·.2) = (settle resources (resources.depthBound - sc.nesting)
        (.plainScript expander replays) sc.chain.innermost [] s).mapState (·.2) := by
      rw [← hsc]
      exact settle_innermost (hsc ▸ ahead hi fun none => List.length_eq_zero_iff.mp (within none))
    have second : o'.mapState (·.2) = (settle resources (resources.depthBound - sc.nesting)
        (.plainScript expander replays) sc'.chain.innermost [] s).mapState (·.2) := by
      rw [← hsc', ← nested]
      exact settle_innermost
        (hsc' ▸ ahead hp fun none => List.length_eq_zero_iff.mp (nested.trans (within none)))
    rw [first, second]
    exact alone
  refine ⟨loaded.written, loaded.pauses, loaded.done, loaded.failed, loaded.replays, ?_⟩
  rintro rfl
  rw [Event.replays, List.count_eq_zero]
  have silent := @mute_settle resources sc.settings (by rw [hsc]) resources.depthBound
    sc.chain.frame sc.chain.included s
  exact silent

def outerBuiltins : Text := "print a\ninclude @g\nsleep 2".toList

def innerBuiltins : Text := "setProperty x=1".toList

/-- A file of built-in lines, one of which includes another, and two texts that differ in how
they take the file in. -/
def builtinFiles : Resources where
  files := { entries := [(["f".toList], .file (Utf8.encode outerBuiltins)),
    (["g".toList], .file (Utf8.encode innerBuiltins))] }
  objects := .ofList [("one".toList, "first\ninclude @f\nlast".toList),
    ("two".toList, "first\nproperties L=@f\nlast".toList)]

/-- The two texts of built-in lines include one another only. -/
theorem builtinFiles_closed {expander : Expander} {replays : Bool} {raw raw' : Text}
    (hraw : raw ∈ [outerBuiltins, innerBuiltins])
    (leads : Leads builtinFiles (.plainScript expander replays) raw
      (.plainScript expander replays) raw') : raw' ∈ [outerBuiltins, innerBuiltins] := by
  have included : ∀ line ∈ Line.ingest {} none outerBuiltins,
      Kind.script.builtin? (withoutEcho line.text) ∈ [some (.print "a".toList),
        some (.includeSource "@g".toList), some (.sleep "2".toList)] := by
    decide +kernel
  have settled : ∀ line ∈ Line.ingest {} none innerBuiltins,
      Kind.script.builtin? (withoutEcho line.text) = some (.setProperty "x".toList "1".toList) := by
    decide +kernel
  obtain ⟨line, hline, reference, name, hnames, hread⟩ := leads
  obtain ⟨registry, written, u, form, expanded, rfl⟩ := hnames.exists_included (by rintro ⟨⟩)
  rcases List.mem_pair.mp hraw with rfl | rfl
  · have forms := included line hline
    rw [form] at forms
    obtain rfl : written = "@g".toList := by simpa using forms
    rw [Expander.expand_plain registry (by decide)] at expanded
    cases expanded
    have read : (Source.text (Text.splitOptional "@g".toList).2).read builtinFiles =
        .ok ("@g".toList, innerBuiltins) := by decide +kernel
    have inner : innerBuiltins = raw' := (Prod.mk.inj (Except.ok.inj (read.symm.trans hread))).2
    simp [inner]
  · have forms := settled line hline
    rw [form] at forms
    cases forms

theorem builtinOnly_outerBuiltins {expander : Expander} {replays : Bool} :
    BuiltinOnly builtinFiles (.plainScript expander replays) outerBuiltins := by
  refine .of_closed (fun raw hraw raw' => builtinFiles_closed hraw) ?_ ?_ List.mem_cons_self
  · show ∀ raw ∈ _, ∀ line ∈ Line.ingest {} none raw, _
    decide +kernel
  · decide +kernel

def behindFirst (name : Text) : Scanner :=
  (next builtinFiles (openSource builtinFiles (.text ("include !".toList ++ name)) none none
    (new (.plainScript {} true), { registry := .withGlobals })).state).state.1

/-- One source deep, the file is taken in either way. -/
theorem loads_as_included_nested :
    ∃ o o', hasNext builtinFiles (behindFirst "one".toList, { registry := .withGlobals }) = o ∧
      hasNext builtinFiles (behindFirst "two".toList, { registry := .withGlobals }) = o' ∧
      (behindFirst "one".toList).nesting = 1 ∧
      BuiltinOnly builtinFiles (.plainScript {} true) outerBuiltins ∧
      Event.written o.events = "a ".toList ∧ Event.written o'.events = Event.written o.events ∧
      Event.pauses o'.events = Event.pauses o.events ∧ o.result = .ok true ∧
      o'.state.2.registry = o.state.2.registry.ensure "L".toList := by
  have named : ({} : Expander).expand .withGlobals ('@' :: "f".toList) =
      .ok ('@' :: "f".toList) := Expander.expand_plain _ (by decide)
  have read : (Source.text ('@' :: "f".toList)).read builtinFiles =
      .ok ('@' :: "f".toList, outerBuiltins) := by
    decide +kernel
  have done : (hasNext builtinFiles
      (behindFirst "one".toList, { registry := .withGlobals })).result = .ok true := by
    decide +kernel
  obtain ⟨written, pauses, same, -⟩ := @loads_as_included builtinFiles {} true
    (behindFirst "one".toList) (behindFirst "two".toList) { registry := .withGlobals }
    ⟨2, "include @f".toList⟩ ⟨2, "properties L=@f".toList⟩ [⟨3, "last".toList⟩] "L".toList
    "f".toList "L".toList (by decide +kernel) (by decide +kernel) (by decide +kernel)
    (by decide +kernel) (by decide +kernel) (by decide +kernel) (by decide +kernel)
    (by
      intro line mem
      rcases List.mem_pair.mp mem with rfl | rfl
      · exact ⟨_, Expander.expand_plain _ (by decide)⟩
      · exact ⟨_, Expander.expand_plain _ (by decide)⟩)
    (Expander.expand_plain _ (by decide)) ⟨_, named⟩
    (by
      intro u name raw expanded hread
      cases named.symm.trans expanded
      obtain ⟨-, rfl⟩ := Prod.mk.inj (Except.ok.inj (read.symm.trans hread))
      exact builtinOnly_outerBuiltins)
    (by decide +kernel) (by rintro ⟨⟩)
  exact ⟨_, _, rfl, rfl, by decide +kernel, builtinOnly_outerBuiltins, by decide +kernel, written,
    pauses, done, (same true done).2⟩

/-- A line that asks for a replay: it gets one where it is included, and none where it is
loaded. -/
theorem loads_as_included_unasked :
    let resources : Resources :=
      { files := { entries := [(["f".toList], .file (Utf8.encode "print -".toList))] } }
    let start (t : Text) : Scanner × Store :=
      (openSource resources (.text t) none none
        (new (.plainScript {} true), { registry := .withGlobals })).state
    let o := hasNext resources (start "include @f".toList)
    let o' := hasNext resources (start "properties L=@f".toList)
    o.result = .ok false ∧ o'.result = .ok false ∧
      Event.replays o.events = 1 ∧ Event.replays o'.events = 0 := by
  decide +kernel

end Scanner

end CommandScript
