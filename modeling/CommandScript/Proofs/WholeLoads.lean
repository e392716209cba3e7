import Mathlib.Logic.Relation
import CommandScript.Proofs.Faults
import CommandScript.Proofs.Growth

/-!
# Loads as a whole

A properties source that sets nothing by itself, and includes no source that does, is read
against one registry: that of the line that loads it. Its records go to a table of their own,
in the order of the walk through the source and what it includes, and reach the registry in
one step when the walk has come to its end. Where the walk fails, nothing reaches it.
-/

namespace CommandScript

open Act

/-! ### What a source holds -/

def Builtin.SetsNothing : Builtin → Prop
  | setProperty .. | properties .. => False
  | _ => True

instance : DecidablePred Builtin.SetsNothing := fun b =>
  match b with
  | .setProperty .. | .properties .. => .isFalse id
  | .includeSource _ | .print _ | .sleep _ | .record .. => .isTrue trivial

/-- What a line adds to a table: entries of its own, or those of a source with some text. -/
inductive Yield where
  | entries (own : List (Text × Text))
  | source (raw : Text)

section

variable (resources : Resources) (settings : Settings) (registry : Registry)

inductive Builtin.Yields : Builtin → Yield → Prop where
  | record {key k v : Text} {value : WrittenValue}
      (keyed : settings.expander.expand registry key = .ok k)
      (valued : settings.expander.expand registry value.text = .ok v) :
      Yields (.record key value) (.entries [(k, v)])
  | included {reference u name raw : Text}
      (named : settings.expander.expand registry reference = .ok u)
      (found : (Source.text (Text.splitOptional u).2).read resources = .ok (name, raw)) :
      Yields (.includeSource reference) (.source raw)
  /-- An optional source may be missing. -/
  | missing {reference u gone : Text} {state : Option Text}
      (named : settings.expander.expand registry reference = .ok u)
      (optional : (Text.splitOptional u).1 = true)
      (absent : (Source.text (Text.splitOptional u).2).read resources =
        .error (.notFound gone state)) : Yields (.includeSource reference) (.entries [])
  | print {expression : Text} : Yields (.print expression) (.entries [])
  | sleep {digits : Text} : Yields (.sleep digits) (.entries [])

inductive Line.Yields (line : Line) (y : Yield) : Prop where
  | builtin {b : Builtin} (form : settings.kind.builtin? (withoutEcho line.text) = some b)
      (yields : b.Yields resources settings registry y)

/-- The records of lines in the order of the walk: those of an included source stand in the
place of the line that includes it. -/
inductive Gathers : List Line → List (Text × Text) → Prop where
  | nil : Gathers [] []
  | own {line : Line} {ahead : List Line} {own entries : List (Text × Text)}
      (here : line.Yields resources settings registry (.entries own))
      (rest : Gathers ahead entries) : Gathers (line :: ahead) (own ++ entries)
  | included {line : Line} {ahead : List Line} {raw : Text} {inner entries : List (Text × Text)}
      (here : line.Yields resources settings registry (.source raw))
      (inside : Gathers (settings.linesOf raw) inner) (rest : Gathers ahead entries) :
      Gathers (line :: ahead) (inner ++ entries)

/-- One text includes another, perhaps through others. -/
def Within : Text → Text → Prop :=
  Relation.ReflTransGen fun raw raw' =>
    ∃ line ∈ settings.linesOf raw, line.Yields resources settings registry (.source raw')

def Line.SetsNothing (line : Line) : Prop :=
  ∀ b ∈ settings.kind.builtin? (withoutEcho line.text), b.SetsNothing

instance (line : Line) : Decidable (line.SetsNothing settings) :=
  inferInstanceAs (Decidable (∀ b ∈ settings.kind.builtin? (withoutEcho line.text), b.SetsNothing))

/-- No line of the text, or of what it includes, writes to a registry. -/
def Passive (raw : Text) : Prop :=
  ∀ raw', Within resources settings registry raw raw' →
    ∀ line ∈ settings.linesOf raw', line.SetsNothing settings

def PassiveLines (lines : List Line) : Prop :=
  ∀ line ∈ lines, line.SetsNothing settings ∧
    ∀ raw, line.Yields resources settings registry (.source raw) →
      Passive resources settings registry raw

end

section

variable {resources : Resources} {settings : Settings} {registry : Registry}

theorem Builtin.Yields.unique {b : Builtin} {y y' : Yield}
    (h : b.Yields resources settings registry y) (h' : b.Yields resources settings registry y') :
    y = y' := by
  cases h with
  | record keyed valued =>
    obtain ⟨keyed', valued'⟩ := h'
    obtain rfl := Except.ok.inj (keyed.symm.trans keyed')
    obtain rfl := Except.ok.inj (valued.symm.trans valued')
    rfl
  | included named found =>
    cases h' with
    | included named' found' =>
      obtain rfl := Except.ok.inj (named.symm.trans named')
      obtain ⟨-, rfl⟩ := Prod.mk.inj (Except.ok.inj (found.symm.trans found'))
      rfl
    | missing named' optional absent =>
      obtain rfl := Except.ok.inj (named.symm.trans named')
      cases found.symm.trans absent
  | missing named optional absent =>
    cases h' with
    | included named' found =>
      obtain rfl := Except.ok.inj (named.symm.trans named')
      cases absent.symm.trans found
    | missing => rfl
  | print =>
    cases h'
    rfl
  | sleep =>
    cases h'
    rfl

theorem Line.Yields.unique {line : Line} {y y' : Yield}
    (h : line.Yields resources settings registry y)
    (h' : line.Yields resources settings registry y') : y = y' := by
  obtain ⟨form, yields⟩ := h
  obtain ⟨form', yields'⟩ := h'
  obtain rfl := Option.some.inj (form.symm.trans form')
  exact yields.unique yields'

/-- Lines hold their records in one order only. -/
theorem Gathers.unique {lines : List Line} {entries entries' : List (Text × Text)}
    (h : Gathers resources settings registry lines entries)
    (h' : Gathers resources settings registry lines entries') : entries = entries' := by
  induction h generalizing entries' with
  | nil =>
    cases h'
    rfl
  | own here _ ih =>
    cases h' with
    | own here' rest' =>
      obtain rfl := Yield.entries.inj (here.unique here')
      rw [ih rest']
    | included here' => cases here.unique here'
  | included here _ _ inner ih =>
    cases h' with
    | own here' => cases here.unique here'
    | included here' inside' rest' =>
      obtain rfl := Yield.source.inj (here.unique here')
      rw [inner inside', ih rest']

theorem Passive.lines {raw : Text} (h : Passive resources settings registry raw) :
    PassiveLines resources settings registry (settings.linesOf raw) := by
  intro line hline
  refine ⟨h raw .refl line hline, fun raw' includes raw'' within => ?_⟩
  exact h raw'' (.head ⟨line, hline, includes⟩ within)

end

/-! ### Lines -/

section

variable {resources : Resources} {settings : Settings} {load : Text → Act Store Table}
variable {place : Text} {s : Store}

/-- The effect of a line that has added entries to a table, or is about to. -/
def Effect.Follows (resources : Resources) (settings : Settings) (s : Store) (line : Line)
    (effect : Effect) (t : Store) : Prop :=
  match effect with
  | .entered g => t = s ∧
      ((∃ name raw, line.Yields resources settings s.registry (.source raw) ∧
        g = { cursor := .opened name (settings.linesOf raw) }) ∨
        line.Yields resources settings s.registry (.entries []) ∧ g = {})
  | _ => ∃ own, line.Yields resources settings s.registry (.entries own) ∧
      t = { s with target := s.target.insertAll own }

/-- A line that sets nothing leaves the registry, and adds to the table what it says. -/
theorem executeLine_passive {line : Line} (passive : line.SetsNothing settings) :
    Wp (executeLine resources settings load place line)
      (Effect.Follows resources settings s line) (fun _ t => t = s) s := by
  rw [executeLine, Wp.bind_iff, Wp.onlyIf_debug_iff, Wp.bind_iff, wp_surface]
  split
  · split
    · rename_i b form
      have sets := passive b form
      have yields {y : Yield} (h : b.Yields resources settings s.registry y) :
          line.Yields resources settings s.registry y := ⟨form, h⟩
      cases b with
      | includeSource reference =>
        rw [execute, wp_executeInclude]
        split
        · rfl
        · rename_i u named
          dsimp only
          split
          · rename_i name raw found
            exact ⟨rfl, .inl ⟨name, raw, yields (.included named found), rfl⟩⟩
          · rename_i gone state absent
            split
            · rename_i optional
              exact ⟨rfl, .inr ⟨yields (.missing named optional absent), rfl⟩⟩
            · rfl
          · rfl
      | print expression =>
        rw [execute, wp_executePrint]
        split
        · rfl
        · split
          · exact ⟨[], yields .print, rfl⟩
          · exact ⟨[], yields .print, rfl⟩
      | sleep digits =>
        rw [execute, wp_executeSleep]
        split
        · rfl
        · split
          · exact ⟨[], yields .sleep, rfl⟩
          · rfl
      | setProperty => exact sets.elim
      | properties => exact sets.elim
      | record key value =>
        simp only [execute, executeRecord, expandPayload, debugIfVerbose, Wp.bind_iff, wp_expand,
          Wp.onlyIf_debug_iff]
        split
        · split
          · exact ⟨_, yields (.record ‹_› ‹_›), rfl⟩
          · trivial
        · trivial
    · rfl
  · rfl

/-! ### Settling -/

/-- Settling the lines has left the registry, and if it has come to their end, it has added what
they gather to the table. -/
structure Collects (resources : Resources) (settings : Settings) (lines : List Line) (s : Store)
    (o : Settled) : Prop where
  kept : o.state.2.registry = s.registry
  gathered : o.result = .ok false → ∃ entries,
    Gathers resources settings s.registry lines entries ∧
      o.state.2.target = s.target.insertAll entries

theorem insertAll_append (t : Table) (entries more : List (Text × Text)) :
    (t.insertAll entries).insertAll more = t.insertAll (entries ++ more) :=
  List.foldl_append.symm

theorem PassiveLines.behind {registry : Registry} {line : Line} {ahead : List Line}
    (h : PassiveLines resources settings registry (line :: ahead)) :
    PassiveLines resources settings registry ahead :=
  fun other hother => h other (List.mem_cons_of_mem _ hother)

theorem PassiveLines.executed {registry : Registry} {line : Line} {ahead : List Line}
    (h : PassiveLines resources settings registry (line :: ahead)) (place : Text) (s : Store) :
    Wp (executeLine resources settings load place line)
      (Effect.Follows resources settings s line) (fun _ t => t = s) s :=
  executeLine_passive (h line List.mem_cons_self).1

/-- What a line has added comes before what the lines behind it gather. -/
theorem Collects.own {line : Line} {ahead : List Line} {own : List (Text × Text)} {o : Settled}
    (here : line.Yields resources settings s.registry (.entries own))
    (h : Collects resources settings ahead { s with target := s.target.insertAll own } o) :
    Collects resources settings (line :: ahead) s o := by
  refine ⟨h.kept, fun ended => ?_⟩
  obtain ⟨entries, rest, target⟩ := h.gathered ended
  exact ⟨own ++ entries, .own here rest, by rw [target, insertAll_append]⟩

/-- A line that enters a source adds what that source gathers. -/
theorem Effect.Follows.entered {line : Line} {g : Frame} {t : Store}
    (follows : (Effect.entered g).Follows resources settings s line t)
    (passive : ∀ raw, line.Yields resources settings s.registry (.source raw) →
      Passive resources settings s.registry raw) :
    t = s ∧ PassiveLines resources settings s.registry g.started.cursor.ahead ∧
      ∀ ahead inner entries, Gathers resources settings s.registry g.started.cursor.ahead inner →
        Gathers resources settings s.registry ahead entries →
          Gathers resources settings s.registry (line :: ahead) (inner ++ entries) := by
  obtain ⟨rfl, ⟨name, raw, yields, rfl⟩ | ⟨yields, rfl⟩⟩ := follows
  · exact ⟨rfl, (passive raw yields).lines, fun _ _ _ inside rest => .included yields inside rest⟩
  · refine ⟨rfl, List.forall_mem_nil _, fun ahead inner entries inside rest => ?_⟩
    cases inside
    exact .own yields rest

/-- Settling lines that set nothing collects them if settling what they include does. -/
theorem LinesSettle.collects {enter : Frame → Store → Settled} {registry : Registry}
    (henter : ∀ g s, s.registry = registry →
      PassiveLines resources settings registry g.started.cursor.ahead →
      Collects resources settings g.started.cursor.ahead s (enter g s))
    {lines : List Line} {f : Frame} {o : Settled}
    (run : LinesSettle resources settings load enter lines f s o) (hs : s.registry = registry)
    (passive : PassiveLines resources settings registry lines) :
    Collects resources settings lines s o := by
  induction run with
  | ended => exact ⟨rfl, fun _ => ⟨[], .nil, rfl⟩⟩
  | ordinary => exact ⟨rfl, by rintro ⟨⟩⟩
  | @failed line ahead f s t e events recognized executed =>
    obtain rfl := (passive.executed _ s).fault executed
    exact ⟨rfl, by rintro ⟨⟩⟩
  | @inside line ahead f g s t u c events inner result recognized executed entered unfinished =>
    subst hs
    obtain ⟨rfl, inside, -⟩ := Effect.Follows.entered ((passive.executed _ s).value executed)
      (passive line List.mem_cons_self).2
    have collected := henter g t rfl inside
    rw [entered] at collected
    exact ⟨collected.kept, fun ended => absurd ended unfinished⟩
  | @passed line ahead f f' s t o events recognized goes rest ih =>
    cases goes with
    | done executed =>
      obtain ⟨own, here, rfl⟩ := (passive.executed _ s).value executed
      have rest := ih hs passive.behind
      exact .own here ⟨rest.kept, rest.gathered⟩
    | replayed executed =>
      obtain ⟨own, here, rfl⟩ := (passive.executed _ s).value executed
      have rest := ih hs passive.behind
      exact .own here ⟨rest.kept, rest.gathered⟩
    | @behind g c t' u early inner executed ended =>
      subst hs
      obtain ⟨rfl, inside, gathers⟩ := Effect.Follows.entered ((passive.executed _ s).value executed)
        (passive line List.mem_cons_self).2
      have entered := henter g t' rfl inside
      rw [ended] at entered
      obtain ⟨entries, here, target⟩ := entered.gathered rfl
      have kept : t.registry = t'.registry := entered.kept
      have rest := ih kept passive.behind
      refine ⟨rest.kept.trans kept, fun ended => ?_⟩
      obtain ⟨more, later, target'⟩ := rest.gathered ended
      rw [kept] at later
      refine ⟨entries ++ more, gathers _ _ _ here later, ?_⟩
      rw [← insertAll_append, ← target]
      exact target'

theorem collects_settle (depth : Nat) {f : Frame}
    (passive : PassiveLines resources settings s.registry f.started.cursor.ahead) :
    Collects resources settings f.started.cursor.ahead s
      (settle resources depth settings f [] s) := by
  induction depth generalizing f s with
  | zero => exact ⟨rfl, by rintro ⟨⟩⟩
  | succ depth ih =>
    exact (settle_single resources depth settings f s).collects
      (fun g t ht inside => ih (ht.symm ▸ inside)) rfl passive

theorem registry_of_linesExecute {enter : Frame → Store → Settled}
    {loads : Text → Store → ExecutedLine → Prop} {enters : Frame → Store → ExecutedLine → Prop}
    {registry : Registry}
    (henter : ∀ g s, s.registry = registry →
      PassiveLines resources settings registry g.started.cursor.ahead →
      (enter g s).state.2.registry = s.registry)
    (henters : ∀ g s x, s.registry = registry →
      PassiveLines resources settings registry g.started.cursor.ahead → enters g s x →
      x.store.registry = registry)
    {lines : List Line} {f : Frame} {x : ExecutedLine} (hs : s.registry = registry)
    (passive : PassiveLines resources settings registry lines)
    (h : LinesExecute resources settings load enter loads enters lines f s x) :
    x.store.registry = registry := by
  induction h with
  | here recognized executes =>
    obtain ⟨-, form, itself | ⟨loaded, -, -, -⟩⟩ := executes
    · exact hs
    · subst loaded
      exact ((passive _ List.mem_cons_self).1 _ form).elim
  | later recognized done rest ih =>
    obtain ⟨own, -, rfl⟩ := (passive.executed _ _).value done
    exact ih hs passive.behind
  | replayed recognized done rest ih =>
    obtain ⟨own, -, rfl⟩ := (passive.executed _ _).value done
    exact ih hs passive.behind
  | inside recognized entered inner =>
    subst hs
    obtain ⟨rfl, inside, -⟩ := Effect.Follows.entered ((passive.executed _ _).value entered)
      (passive _ List.mem_cons_self).2
    exact henters _ _ _ rfl inside inner
  | behind recognized entered ended rest ih =>
    subst hs
    obtain ⟨rfl, inside, -⟩ := Effect.Follows.entered ((passive.executed _ _).value entered)
      (passive _ List.mem_cons_self).2
    have kept := henter _ _ rfl inside
    rw [ended] at kept
    exact ih kept passive.behind

/-- Whatever settling such lines executes, the registry is still that of their beginning. -/
theorem registry_of_executes (depth : Nat) {f : Frame} {x : ExecutedLine}
    (passive : PassiveLines resources settings s.registry f.started.cursor.ahead)
    (h : Executes resources depth settings f [] s x) : x.store.registry = s.registry := by
  induction depth generalizing f s x with
  | zero => exact h.elim
  | succ depth ih =>
    refine registry_of_linesExecute (fun g t ht inside => ?_) (fun g t x ht inside executes => ?_)
      rfl passive h
    · exact (collects_settle depth (ht.symm ▸ inside)).kept
    · exact (ih (ht.symm ▸ inside) executes).trans ht

/-! ### Loading -/

/-- A load that succeeds has settled its source to the end. -/
theorem ended_of_tableOf {o : Settled} {values : Table}
    (h : (tableOf settings o).result = .ok values) :
    o.result = .ok false ∧ values = o.state.2.target := by
  obtain ⟨_ | _ | _, ⟨c, t⟩, events⟩ := o
  · cases h
  · cases h
    exact ⟨rfl, rfl⟩
  · revert h
    simp only [tableOf]
    generalize takeNext settings c.frame c.included t = last
    obtain ⟨_ | _, ⟨c', t'⟩, late⟩ := last <;> rintro ⟨⟩

/-- A load of such a source gives what it gathers, and leaves everything as it was. -/
theorem loadAt_passive (depth : Nat) {source : Text}
    (passive : ∀ name raw, (Source.text source).read resources = .ok (name, raw) →
      Passive resources settings.forRecords s.registry raw) :
    Wp (loadAt resources depth settings source)
      (fun values t => t = s ∧ ∃ name raw entries,
        (Source.text source).read resources = .ok (name, raw) ∧
          Gathers resources settings.forRecords s.registry (settings.forRecords.linesOf raw)
            entries ∧ values = .ofList entries)
      (fun _ t => t = s) s := by
  simp only [Wp, loadAt, withOwnTarget, readRecords_apply]
  cases hread : (Source.text source).read resources with
  | error e => rfl
  | ok opened =>
    obtain ⟨name, raw⟩ := opened
    have lines : PassiveLines resources settings.forRecords s.registry
        (settings.forRecords.linesOf raw) := (passive name raw hread).lines
    have collects := @collects_settle resources settings.forRecords { s with target := ∅ } depth
      { cursor := .opened name (settings.forRecords.linesOf raw) } lines
    dsimp only [Outcome.mapState, Outcome.after]
    rw [state_tableOf]
    generalize settle resources depth settings.forRecords
      { cursor := .opened name (settings.forRecords.linesOf raw) } [] { s with target := ∅ } = o
      at collects ⊢
    have restored : (⟨o.state.2.registry, s.target⟩ : Store) = s :=
      congrArg (Store.mk · s.target) collects.kept
    cases hresult : (tableOf settings.forRecords o).result with
    | error e => exact restored
    | ok values =>
      obtain ⟨hended, rfl⟩ := ended_of_tableOf hresult
      obtain ⟨entries, gathers, target⟩ := collects.gathered hended
      exact ⟨restored, name, raw, entries, rfl, gathers, target⟩

/-- A load fails where its source cannot be read, or at a line that it executes. -/
theorem arises_loadAt (resources : Resources) (settings : Settings) (depth : Nat) :
    LoadArises resources (loadAt resources depth settings)
      (fun source => LoadsAt resources depth settings (.text source)) :=
  arises_readRecords fun g s _ => arises_settle (by rintro ⟨⟩) depth g [] s

/-- Only a source that is missing itself is missed under its own name. -/
theorem missing_of_loadAt (depth : Nat) {source : Text} (marked : Marked source) :
    Wp (loadAt resources depth settings source) (fun _ _ => True)
      (fun e _ => ∀ state, e = .notFound source state →
        ∃ gone state, (Source.text source).read resources = .error (.notFound gone state)) s := by
  refine (arises_loadAt resources settings depth source s).mono (fun _ _ _ => trivial) ?_
  rintro e t failed state rfl
  rcases failed with unread | arises
  · exact ⟨source, state, unread⟩
  · exact arises.not_found marked

/-- What a load supplies: what its source gathers, or nothing where that is optional and
missing. -/
inductive Supplies (resources : Resources) (settings : Settings) (registry : Registry)
    (u : Text) : List (Text × Text) → Prop where
  | gathered {name raw : Text} {entries : List (Text × Text)}
      (found : (Source.text (Text.asFileReference (Text.splitOptional u).2)).read resources =
        .ok (name, raw))
      (gathers : Gathers resources settings.forRecords registry (settings.forRecords.linesOf raw)
        entries) : Supplies resources settings registry u entries
  | missing {gone : Text} {state : Option Text} (optional : (Text.splitOptional u).1 = true)
      (absent : (Source.text (Text.asFileReference (Text.splitOptional u).2)).read resources =
        .error (.notFound gone state)) : Supplies resources settings registry u []

/-- A properties line has merged what its source supplies, and done nothing else to the store. -/
def Merged (resources : Resources) (settings : Settings) (s : Store) (label reference : Text)
    (t : Store) : Prop :=
  ∃ l u entries, settings.expander.expand s.registry label = .ok l ∧
    settings.expander.expand s.registry reference = .ok u ∧
    Supplies resources settings s.registry u entries ∧
    t = { s with registry := s.registry.merge l (.ofList entries) }

def NamesPassive (resources : Resources) (settings : Settings) (registry : Registry)
    (reference : Text) : Prop :=
  ∀ u name raw, settings.expander.expand registry reference = .ok u →
    (Source.text (Text.asFileReference (Text.splitOptional u).2)).read resources =
      .ok (name, raw) → Passive resources settings.forRecords registry raw

theorem state_merge (label : Text) (values : Table) (s : Store) :
    Wp (Store.merge label values)
      (fun _ t => t = { s with registry := s.registry.merge label values }) (fun _ _ => False)
      s := by
  simp only [Store.merge, Wp.bind_iff, Wp.get_iff]
  split <;> rfl

theorem executeProperties_passive (depth : Nat) {label reference : Text}
    (passive : NamesPassive resources settings s.registry reference) :
    Wp (executeProperties settings (loadAt resources depth settings) place label reference)
      (fun _ t => Merged resources settings s label reference t) (fun _ t => t = s) s := by
  rw [wp_executeProperties]
  split
  · rfl
  · rename_i l labelled
    split
    · rfl
    · rename_i u named
      dsimp only
      have merged (entries : List (Text × Text))
          (supplies : Supplies resources settings s.registry u entries) :
          Wp (Store.merge l (.ofList entries))
            (fun _ t => Merged resources settings s label reference t) (fun _ t => t = s) s :=
        (state_merge l (.ofList entries) s).mono
          (fun _ t ht => ⟨l, u, entries, labelled, named, supplies, ht⟩) fun _ _ => False.elim
      have marked := marked_asFileReference (Text.splitOptional u).2
      refine ((loadAt_passive depth (fun name raw => passive u name raw named)).and
        (missing_of_loadAt depth marked)).mono ?_ ?_
      · rintro values t ⟨⟨rfl, name, raw, entries, found, gathers, rfl⟩, -⟩
        exact merged entries (.gathered found gathers)
      · rintro e t ⟨rfl, missing⟩
        split
        · rename_i gone state
          split
          · rfl
          · rename_i same
            split
            · rename_i optional
              obtain ⟨gone, state, absent⟩ := missing state (by rw [not_not.mp same])
              exact merged [] (.missing optional absent)
            · rfl
        · rfl

theorem Supplies.unique {registry : Registry} {u : Text} {entries entries' : List (Text × Text)}
    (h : Supplies resources settings registry u entries)
    (h' : Supplies resources settings registry u entries') : entries = entries' := by
  cases h with
  | gathered found gathers =>
    cases h' with
    | gathered found' gathers' =>
      obtain ⟨-, rfl⟩ := Prod.mk.inj (Except.ok.inj (found.symm.trans found'))
      exact gathers.unique gathers'
    | missing optional absent => cases found.symm.trans absent
  | missing optional absent =>
    cases h' with
    | gathered found gathers => cases absent.symm.trans found
    | missing => rfl

/-- A properties line, run from `s`, is carried out as a whole or not at all. -/
structure AllOrNothing (resources : Resources) (settings : Settings) (s : Store)
    (label reference : Text) (o : Outcome Store Effect) : Prop where
  failed : ∀ e, o.result = .error e → o.state = s
  succeeded : ∀ effect, o.result = .ok effect →
    Merged resources settings s label reference o.state

theorem AllOrNothing.of_wp {x : Act Store Effect} {label reference : Text}
    (h : Wp x (fun _ t => Merged resources settings s label reference t) (fun _ t => t = s) s) :
    AllOrNothing resources settings s label reference (x s) := by
  rw [Wp] at h
  constructor
  · intro e he
    rwa [he] at h
  · intro effect he
    rwa [he] at h

end

/-- **A load is all or nothing.** Let the source that a properties line names, with what it
includes, hold no line that writes to a registry. Then every line that is executed with it finds
the registry as it was before the load. If the properties line fails, whatever the reason, the
store is what it was. If it does not, the store has changed in one way: the records of the
source, in the order of the walk through what it includes, each expanded against the registry as
it was, have been merged under the label. There is one such list of records only. -/
theorem load_all_or_nothing {resources : Resources} {settings : Settings} {label reference : Text}
    {s : Store} (passive : NamesPassive resources settings s.registry reference) (depth : Nat)
    (place : Text) :
    let load := loadAt resources depth settings
    let loads (source : Text) := LoadsAt resources depth settings (.text source)
    (∀ x, (Builtin.properties label reference).Executes settings loads s x →
        x.store.registry = s.registry) ∧
      AllOrNothing resources settings s label reference
        (execute resources settings load place (.properties label reference) s) ∧
      (∀ line, settings.kind.builtin? (withoutEcho line.text) = some (.properties label reference) →
        AllOrNothing resources settings s label reference
          (executeLine resources settings load place line s)) ∧
      ∀ u entries entries', Supplies resources settings s.registry u entries →
        Supplies resources settings s.registry u entries' → entries = entries' := by
  intro load loads
  have executed : Wp (execute resources settings load place (.properties label reference))
      (fun _ t => Merged resources settings s label reference t) (fun _ t => t = s) s :=
    executeProperties_passive depth passive
  refine ⟨?_, .of_wp executed, fun line form => .of_wp ?_, fun u _ _ h h' => h.unique h'⟩
  · rintro x (⟨⟩ | ⟨form, -, named, inside⟩)
    · rfl
    · obtain ⟨rfl, rfl⟩ := Builtin.properties.inj form
      obtain ⟨name, raw, found, executes⟩ := inside
      have lines := (passive _ name raw named found).lines
      exact @registry_of_executes resources settings.forRecords { s with target := ∅ } depth
        { cursor := .opened name (settings.forRecords.linesOf raw) } x lines executes
  · rw [executeLine, Wp.bind_iff, Wp.onlyIf_debug_iff, Wp.bind_iff, wp_surface]
    split
    · rw [form]
      exact executed
    · rfl

/-- Where no text at all holds a line that writes to a registry, every source is passive. -/
theorem namesPassive_of_contents {resources : Resources} {settings : Settings}
    (h : ∀ raw ∈ resources.contents, ∀ line ∈ settings.forRecords.linesOf raw,
      line.SetsNothing settings.forRecords) (registry : Registry) (reference : Text) :
    NamesPassive resources settings registry reference := by
  intro u name raw _ found raw' within
  have known : raw' ∈ resources.contents := by
    cases Relation.ReflTransGen.cases_tail within with
    | inl same =>
      subst same
      exact mem_contents (marked_asFileReference _) found
    | inr step =>
      obtain ⟨before, -, line, -, form, yields⟩ := step
      cases yields with
      | included named found =>
        exact mem_contents (Names.marked (.included form named)) found
  exact h raw' known

def nestedTables : Resources where
  objects := .ofList [("t".toList, "a=$\x7bx\x7d\ninclude !u\nb=$\x7ba\x7d".toList),
    ("u".toList, "c=1; a=2".toList), ("v".toList, "a=1\ninclude !gone".toList)]

def xIsSeven : Store where
  registry := .ofList [(globalsLabel, .ofList [("x".toList, "7".toList)])]

/-- The record `b` does not see the record `a` of the same load; the load that fails has read a
record before. -/
theorem load_all_or_nothing_nested :
    let settings : Settings := { kind := .script }
    let run (reference : Text) := execute nestedTables settings
      (loadAt nestedTables nestedTables.depthBound settings) [] (.properties "L".toList reference)
      xIsSeven
    (run "!t".toList).state.registry = .ofList [(globalsLabel, .ofList [("x".toList, "7".toList)]),
        ("L".toList, .ofList [("a".toList, "2".toList), ("c".toList, "1".toList),
          ("b".toList, "$\x7ba\x7d".toList)])] ∧
      Merged nestedTables settings xIsSeven "L".toList "!t".toList (run "!t".toList).state ∧
      (run "!v".toList).state = xIsSeven := by
  intro settings run
  have passive (reference : Text) :
      NamesPassive nestedTables settings xIsSeven.registry reference :=
    namesPassive_of_contents (by decide +kernel) _ _
  obtain ⟨-, whole, -⟩ := @load_all_or_nothing nestedTables settings "L".toList "!t".toList
    xIsSeven (passive _) nestedTables.depthBound []
  obtain ⟨-, nothing, -⟩ := @load_all_or_nothing nestedTables settings "L".toList "!v".toList
    xIsSeven (passive _) nestedTables.depthBound []
  have loads : (run "!t".toList).result.isOk = true := by decide +kernel
  have fails : (run "!v".toList).result.isOk = false := by decide +kernel
  refine ⟨by decide +kernel, ?_, ?_⟩
  · cases hresult : (run "!t".toList).result with
    | ok effect => exact whole.succeeded effect hresult
    | error e =>
      rw [hresult] at loads
      cases loads
  · cases hresult : (run "!v".toList).result with
    | ok effect =>
      rw [hresult] at fails
      cases fails
    | error e => exact nothing.failed e hresult

end CommandScript
