import CommandScript.Proofs.NestedChains

/-!
# Runs without a bound

A scanner stops with an error where sources nest deeper than its bound. Here settling is a relation
with one rule for each turn of its loop and no bound at all: a line that follows ends the run, or it
is executed, and what it loads or includes is a run inside the run. So a run that is derived takes
finitely many turns. Runs give one outcome only, and where sources nest less deep than the bound,
settling is the run. Asking for the next line and loading a source are runs of settling.
-/

namespace CommandScript

open Act

/-! ### What a line loads -/

/-- The source that a line loads, if executing it comes that far. -/
def Settings.loaded? (settings : Settings) (line : Line) (registry : Registry) : Option Text :=
  match settings.kind.builtin? (withoutEcho line.text) with
  | some (.properties label reference) =>
    match settings.expander.expand registry (withoutEcho line.text),
      settings.expander.expand registry label, settings.expander.expand registry reference with
    | .ok _, .ok _, .ok u => some (Text.asFileReference (Text.splitOptional u).2)
    | _, _, _ => none
  | _ => none

def Settings.loadedFrame? (resources : Resources) (settings : Settings) (line : Line)
    (registry : Registry) : Option Frame :=
  (settings.loaded? line registry).bind fun reference =>
    match (Source.text reference).read resources with
    | .error _ => none
    | .ok (name, raw) => some { cursor := .opened name (settings.forRecords.linesOf raw) }

def loadBy (resources : Resources) (settings : Settings) (enter : Frame → Store → Settled)
    (reference : Text) : Act Store Table :=
  withOwnTarget (readRecords resources settings.forRecords enter (.text reference))

section

variable {resources : Resources} {settings : Settings} {s : Store}

/-- What follows an action matters only where the action comes to. -/
theorem bind_congr {σ α β : Type} {x : Act σ α} {f g : α → Act σ β} {s : σ}
    (same : Wp x (fun a t => f a t = g a t) (fun _ _ => True) s) : (x >>= f) s = (x >>= g) s := by
  rw [Wp] at same
  rw [bind_apply, bind_apply]
  generalize x s = o at same ⊢
  obtain ⟨e | a, t, events⟩ := o
  · rfl
  · exact congrArg (Outcome.after events) same

/-- A line asks for what it loads only. -/
theorem executeLine_congr {load load' : Text → Act Store Table} {line : Line}
    (same : ∀ reference, settings.loaded? line s.registry = some reference →
      load reference s = load' reference s) (place : Text) :
    executeLine resources settings load place line s =
      executeLine resources settings load' place line s := by
  refine bind_congr ((Wp.onlyIf_debug_iff ..).mpr (bind_congr ((wp_surface ..).mpr ?_)))
  split
  · rename_i t surfaced
    cases form : settings.kind.builtin? (withoutEcho line.text) with
    | none => rfl
    | some builtin =>
      cases builtin with
      | properties label reference =>
        refine bind_congr ((wp_expand ..).mpr ?_)
        split
        · rename_i l labelled
          refine bind_congr ((wp_expand ..).mpr ?_)
          split
          · rename_i u named
            have loads := same (Text.asFileReference (Text.splitOptional u).2)
              (by simp only [Settings.loaded?, form, surfaced, labelled, named])
            simp only [bind_apply, attempt_apply, loads]
          · trivial
        · trivial
      | _ => rfl
  · trivial

/-- Loading a source needs only what settling its lines, with a table of their own, comes to. -/
theorem ownRecords_congr {enter enter' : Frame → Store → Settled} {source : Source}
    (same : ∀ name raw, source.read resources = .ok (name, raw) →
      enter { cursor := .opened name (settings.linesOf raw) } { s with target := ∅ } =
        enter' { cursor := .opened name (settings.linesOf raw) } { s with target := ∅ }) :
    withOwnTarget (readRecords resources settings enter source) s =
      withOwnTarget (readRecords resources settings enter' source) s := by
  simp only [withOwnTarget, readRecords_apply]
  rcases read : source.read resources with e | ⟨name, raw⟩
  · rfl
  · dsimp only
    rw [same name raw read]

/-- Executing a line that loads a source needs only what settling that source comes to. -/
theorem executeLine_loadBy {enter enter' : Frame → Store → Settled} {line : Line}
    (same : ∀ g, settings.loadedFrame? resources line s.registry = some g →
      enter g { s with target := ∅ } = enter' g { s with target := ∅ }) (place : Text) :
    executeLine resources settings (loadBy resources settings enter) place line s =
      executeLine resources settings (loadBy resources settings enter') place line s := by
  refine executeLine_congr (fun reference loaded => ?_) place
  exact ownRecords_congr fun name raw read =>
    same _ (by simp only [Settings.loadedFrame?, loaded, Option.bind_some, read])

theorem executeLine_inner {inner inner' : Settled} {line : Line}
    (same : ∀ g, settings.loadedFrame? resources line s.registry = some g → inner = inner')
    (place : Text) :
    executeLine resources settings (loadBy resources settings fun _ _ => inner) place line s =
      executeLine resources settings (loadBy resources settings fun _ _ => inner') place line s :=
  executeLine_loadBy same place

end

/-! ### Settling -/

open Scanner in
/-- A run of settling, with what it comes to. -/
inductive Settles (resources : Resources) :
    Settings → Frame → List Frame → Store → Settled → Prop where
  /-- No line follows. -/
  | ended {settings : Settings} {f : Frame} {s : Store} (ahead : f.started.cursor.ahead = []) :
      Settles resources settings f [] s ⟨.ok false, (⟨f.started, []⟩, s), []⟩
  /-- An ordinary line follows. -/
  | ordinary {settings : Settings} {f : Frame} {s : Store} {line : Line} {rest : List Line}
      (ahead : f.started.cursor.ahead = line :: rest)
      (passed : settings.kind.recognizes line.text = false) :
      Settles resources settings f [] s ⟨.ok true, (⟨f.started, []⟩, s), []⟩
  /-- A built-in line follows. It is taken and fails; `inner` is the run of what it loads. -/
  | failed {settings : Settings} {f : Frame} {s s' : Store} {line : Line} {rest : List Line}
      {inner : Settled} {e : Error} {events : List Event}
      (ahead : f.started.cursor.ahead = line :: rest)
      (recognized : settings.kind.recognizes line.text = true)
      (loads : ∀ g, settings.loadedFrame? resources line s.registry = some g →
        Settles resources settings.forRecords g [] { s with target := ∅ } inner)
      (run : executeLine resources settings (loadBy resources settings fun _ _ => inner)
        (f.started.moved line rest).cursor.state line s = ⟨.error e, s', events⟩) :
      Settles resources settings f [] s ⟨.error e, (⟨f.started.moved line rest, []⟩, s'), events⟩
  /-- A built-in line follows. It is taken and executed, and the run goes on, in the source that the
  line includes if it does. -/
  | executed {settings : Settings} {f : Frame} {s s' : Store} {line : Line} {rest : List Line}
      {inner o : Settled} {effect : Effect} {events : List Event}
      (ahead : f.started.cursor.ahead = line :: rest)
      (recognized : settings.kind.recognizes line.text = true)
      (loads : ∀ g, settings.loadedFrame? resources line s.registry = some g →
        Settles resources settings.forRecords g [] { s with target := ∅ } inner)
      (run : executeLine resources settings (loadBy resources settings fun _ _ => inner)
        (f.started.moved line rest).cursor.state line s = ⟨.ok effect, s', events⟩)
      (more : Settles resources settings
        (applyEffect effect ⟨f.started.moved line rest, []⟩).frame
        (applyEffect effect ⟨f.started.moved line rest, []⟩).included s' o) :
      Settles resources settings f [] s (o.after events)
  /-- The included source has come to its end and is left. -/
  | left {settings : Settings} {f g : Frame} {rest : List Frame} {s s' : Store} {c : Chain}
      {o : Settled} {events : List Event}
      (inside : Settles resources settings g rest s ⟨.ok false, (c, s'), events⟩)
      (own : Settles resources settings f [] s' o) :
      Settles resources settings f (g :: rest) s (o.after events)
  /-- The run ends in the included source. -/
  | held {settings : Settings} {f g : Frame} {rest : List Frame} {s s' : Store} {c : Chain}
      {result : Except Error Bool} {events : List Event}
      (inside : Settles resources settings g rest s ⟨result, (c, s'), events⟩)
      (stops : result ≠ .ok false) :
      Settles resources settings f (g :: rest) s ⟨result, (⟨f, c.frame :: c.included⟩, s'), events⟩

namespace Settles

variable {resources : Resources} {settings : Settings} {f : Frame} {included : List Frame}
variable {s : Store} {o o' : Settled}

/-- A run comes to one outcome only. -/
theorem unique (h : Settles resources settings f included s o)
    (h' : Settles resources settings f included s o') : o = o' := by
  induction h generalizing o' with
  | ended ahead =>
    cases h' with
    | ended => rfl
    | ordinary ahead' => cases ahead.symm.trans ahead'
    | failed ahead' => cases ahead.symm.trans ahead'
    | executed ahead' => cases ahead.symm.trans ahead'
  | ordinary ahead passed =>
    cases h' with
    | ended ahead' => cases ahead.symm.trans ahead'
    | ordinary => rfl
    | failed ahead' recognized =>
      cases ahead.symm.trans ahead'
      cases passed.symm.trans recognized
    | executed ahead' recognized =>
      cases ahead.symm.trans ahead'
      cases passed.symm.trans recognized
  | failed ahead recognized loads run ih =>
    cases h' with
    | ended ahead' => cases ahead.symm.trans ahead'
    | ordinary ahead' passed =>
      cases ahead.symm.trans ahead'
      cases passed.symm.trans recognized
    | failed ahead' recognized' loads' run' =>
      cases ahead.symm.trans ahead'
      rw [executeLine_inner fun g opens => ih g opens (loads' g opens), run'] at run
      cases run
      rfl
    | executed ahead' recognized' loads' run' more =>
      cases ahead.symm.trans ahead'
      rw [executeLine_inner fun g opens => ih g opens (loads' g opens), run'] at run
      cases run
  | executed ahead recognized loads run more ih ihMore =>
    cases h' with
    | ended ahead' => cases ahead.symm.trans ahead'
    | ordinary ahead' passed =>
      cases ahead.symm.trans ahead'
      cases passed.symm.trans recognized
    | failed ahead' recognized' loads' run' =>
      cases ahead.symm.trans ahead'
      rw [executeLine_inner fun g opens => ih g opens (loads' g opens), run'] at run
      cases run
    | executed ahead' recognized' loads' run' more' =>
      cases ahead.symm.trans ahead'
      rw [executeLine_inner fun g opens => ih g opens (loads' g opens), run'] at run
      cases run
      rw [ihMore more']
  | left inside own ihInside ihOwn =>
    cases h' with
    | left inside' own' =>
      cases ihInside inside'
      rw [ihOwn own']
    | held inside' stops =>
      cases ihInside inside'
      exact absurd rfl stops
  | held inside stops ihInside =>
    cases h' with
    | left inside' own' =>
      cases ihInside inside'
      exact absurd rfl stops
    | held inside' =>
      cases ihInside inside'
      rfl

theorem iff_eq (h : Settles resources settings f included s o) :
    Settles resources settings f included s o' ↔ o' = o :=
  ⟨fun h' => h'.unique h, fun same => same ▸ h⟩

/-- Beginning to read is part of the run. -/
theorem of_started {g : Frame} (h : Settles resources settings g [] s o)
    (same : g.started = f.started) : Settles resources settings f [] s o := by
  cases h with
  | ended ahead =>
    rw [same] at ahead ⊢
    exact .ended ahead
  | ordinary ahead passed =>
    rw [same] at ahead ⊢
    exact .ordinary ahead passed
  | failed ahead recognized loads run =>
    rw [same] at ahead run ⊢
    exact .failed ahead recognized loads run
  | executed ahead recognized loads run more =>
    rw [same] at ahead run more
    exact .executed ahead recognized loads run more

end Settles

/-! ### Settling with a bound -/

section

variable {resources : Resources} {settings : Settings} {f : Frame} {included : List Frame}
variable {s : Store}

theorem Outcome.after_after {σ α : Type} (early late : List Event) (o : Outcome σ α) :
    (o.after late).after early = o.after (early ++ late) := by
  simp only [Outcome.after, List.append_assoc]

def LoadRuns (resources : Resources) (settings : Settings) (records : Frame → Store → Settled)
    (line : Line) (s : Store) : Prop :=
  ∀ g, settings.loadedFrame? resources line s.registry = some g →
    Settles resources settings.forRecords g [] { s with target := ∅ }
      (records g { s with target := ∅ })

section

variable {records : Frame → Store → Settled} {line : Line} {rest : List Line} {s' : Store}
variable {events : List Event}

/-- A line that loads nothing may be given any outcome of a load. -/
theorem LoadRuns.exists_inner (runs : LoadRuns resources settings records line s) :
    ∃ inner, (∀ g, settings.loadedFrame? resources line s.registry = some g →
        Settles resources settings.forRecords g [] { s with target := ∅ } inner) ∧
      ∀ place, executeLine resources settings (loadBy resources settings records) place line s =
        executeLine resources settings (loadBy resources settings fun _ _ => inner) place line
          s := by
  cases opens : settings.loadedFrame? resources line s.registry with
  | none =>
    refine ⟨⟨.ok false, ({}, s), []⟩, by simp, executeLine_loadBy fun g same => ?_⟩
    cases opens.symm.trans same
  | some g =>
    refine ⟨records g { s with target := ∅ }, ?_, executeLine_loadBy fun g' same => ?_⟩
    · rintro g' ⟨⟩
      exact runs g opens
    · cases opens.symm.trans same
      rfl

theorem settles_failed {e : Error} (reading : f.cursor.reading.isSome)
    (ahead : f.cursor.ahead = line :: rest)
    (recognized : settings.kind.recognizes line.text = true)
    (runs : LoadRuns resources settings records line s)
    (run : executeLine resources settings (loadBy resources settings records)
      (f.moved line rest).cursor.state line s = ⟨.error e, s', events⟩) :
    Settles resources settings f [] s ⟨.error e, (⟨f.moved line rest, []⟩, s'), events⟩ := by
  obtain ⟨inner, loads, same⟩ := runs.exists_inner
  have started := Frame.started_of_reading reading
  rw [same, ← started] at run
  have whole := Settles.failed (started.symm ▸ ahead) recognized loads run
  rwa [started] at whole

theorem settles_executed {effect : Effect} {o : Settled} (reading : f.cursor.reading.isSome)
    (ahead : f.cursor.ahead = line :: rest)
    (recognized : settings.kind.recognizes line.text = true)
    (runs : LoadRuns resources settings records line s)
    (run : executeLine resources settings (loadBy resources settings records)
      (f.moved line rest).cursor.state line s = ⟨.ok effect, s', events⟩)
    (more : Settles resources settings
      (Scanner.applyEffect effect ⟨f.moved line rest, []⟩).frame
      (Scanner.applyEffect effect ⟨f.moved line rest, []⟩).included s' o) :
    Settles resources settings f [] s (o.after events) := by
  obtain ⟨inner, loads, same⟩ := runs.exists_inner
  have started := Frame.started_of_reading reading
  rw [same, ← started] at run
  exact .executed (started.symm ▸ ahead) recognized loads run (started.symm ▸ more)

end

/-- Settling one source is a run, if settling what its lines load and include is. -/
theorem LinesSettle.settles {records enter : Frame → Store → Settled} {lines : List Line}
    {o : Settled}
    (run : LinesSettle resources settings (loadBy resources settings records) enter lines f s o)
    (hahead : f.cursor.ahead = lines) (hreading : f.cursor.reading.isSome)
    (hrecords : ∀ line ∈ lines, ∀ s, LoadRuns resources settings records line s)
    (henter : ∀ line ∈ lines, ∀ g s, Opens resources settings line.text g →
      Settles resources settings g [] s (enter g s)) :
    Settles resources settings f [] s o := by
  induction run with
  | @ended f s =>
    have started := Frame.started_of_reading hreading
    have run := @Settles.ended resources settings f s (started.symm ▸ hahead)
    rwa [started] at run
  | @ordinary line ahead f s other =>
    have started := Frame.started_of_reading hreading
    have run := @Settles.ordinary resources settings f s line ahead (started.symm ▸ hahead) other
    rwa [started] at run
  | @failed line ahead f s t e events recognized executed =>
    exact settles_failed hreading hahead recognized (hrecords line List.mem_cons_self s) executed
  | @inside line ahead f g s t u c events inner result recognized executed entered unfinished =>
    have opens : Opens resources settings line.text g :=
      (executeLine_enters _ line s).value executed
    have inside := henter line List.mem_cons_self g t opens
    rw [entered] at inside
    exact settles_executed hreading hahead recognized (hrecords line List.mem_cons_self s) executed
      (.held inside unfinished)
  | @passed line ahead f f' s t o events recognized goes rest ih =>
    have records := hrecords line List.mem_cons_self s
    have reading : f'.cursor.reading.isSome := by rw [goes.cursor, Frame.reading_moved]
    have more := ih goes.ahead reading (fun l hl => hrecords l (List.mem_cons_of_mem _ hl))
      fun l hl => henter l (List.mem_cons_of_mem _ hl)
    cases goes with
    | done executed => exact settles_executed hreading hahead recognized records executed more
    | replayed executed => exact settles_executed hreading hahead recognized records executed more
    | @behind g c t' u early inner executed ended =>
      have opens : Opens resources settings line.text g :=
        (executeLine_enters _ line s).value executed
      have inside := henter line List.mem_cons_self g t' opens
      rw [ended] at inside
      rw [← Outcome.after_after]
      exact settles_executed hreading hahead recognized records executed (.left inside more)

theorem names_of_loaded? {line : Line} {registry : Registry} {reference : Text}
    (h : settings.loaded? line registry = some reference) :
    Names settings line.text settings.forRecords reference := by
  rw [Settings.loaded?] at h
  split at h
  · rename_i label written form
    split at h
    · rename_i t l u surfaced labelled named
      obtain rfl := Option.some.inj h
      exact .loaded form named
    · cases h
  · cases h

/-- So does a source that a line loads. -/
theorem loadedFrame?_shallow {depth : Nat} {raw : Text}
    (h : Shallow resources (depth + 1) settings raw) {line : Line}
    (mem : line ∈ settings.linesOf raw) {registry : Registry} {g : Frame}
    (opens : settings.loadedFrame? resources line registry = some g) :
    g.cursor.Sound ∧ ∃ raw', g.cursor.lines = settings.forRecords.linesOf raw' ∧
      Shallow resources depth settings.forRecords raw' := by
  obtain ⟨reference, loaded, found⟩ := Option.bind_eq_some_iff.mp opens
  have names := names_of_loaded? loaded
  cases read : (Source.text reference).read resources with
  | error e => simp [read] at found
  | ok opened =>
    obtain ⟨name, raw'⟩ := opened
    rw [read] at found
    obtain rfl := Option.some.inj found
    exact ⟨Cursor.sound_opened .., raw', rfl, (h line mem _ _ names).2 name raw' read⟩

/-- **Settling is the run**, where the sources nest less deep than its bound. -/
theorem settles_settle {depth : Nat} {raw : Text} (h : Shallow resources depth settings raw)
    (lines : f.cursor.lines = settings.linesOf raw) (sound : Chain.Sound ⟨f, included⟩)
    (linked : Chain.Linked resources settings ⟨f, included⟩) (s : Store) :
    Settles resources settings f included s (settle resources depth settings f included s) := by
  induction depth generalizing settings f included raw s with
  | zero => exact h.elim
  | succ depth ih =>
    have hf : f.cursor.Sound := sound.frame
    have mem {line : Line} (ahead : line ∈ f.started.cursor.ahead) :
        line ∈ settings.linesOf raw := by
      rw [Frame.started_cursor, hf.ahead_started, hf.ahead, lines] at ahead
      exact List.mem_of_mem_drop ahead
    have own (s : Store) : Settles resources settings f [] s
        (settle resources (depth + 1) settings f [] s) := by
      refine .of_started ((settle_single resources depth settings f s).settles rfl f.reading_started
        (fun line ahead s g opens => ?_) fun line ahead g s opens => ?_)
        (Frame.started_of_reading f.reading_started)
      · obtain ⟨hg, raw', inner, shallow⟩ := loadedFrame?_shallow h (mem ahead) opens
        exact ih shallow inner (Chain.sound_single.mpr hg) Chain.linked_single _
      · obtain ⟨raw', inner, shallow⟩ := opens.shallow h (mem ahead)
        exact ih shallow inner (Chain.sound_single.mpr opens.sound) Chain.linked_single s
    cases included with
    | nil => exact own s
    | cons g rest =>
      obtain ⟨-, hrest⟩ := Chain.sound_cons.mp sound
      obtain ⟨⟨line, mem, start, opens, same⟩, linked⟩ := Chain.linked_cons.mp linked
      obtain ⟨raw', inner, shallow⟩ := opens.shallow h (lines ▸ mem)
      have inside := ih shallow (same.trans inner) hrest linked s
      rcases settled : settle resources depth settings g rest s with ⟨result, ⟨c, s'⟩, events⟩
      rw [settled] at inside
      by_cases ended : result = .ok false
      · subst ended
        rw [settle_of_finished settled]
        exact .left inside (own s')
      · rw [settle_of_within settled ended]
        exact .held inside ended

end

/-! ### The next line -/

/-- A run of asking for the next line, with what it comes to. Every source settles before it hands
on to the one that it includes. -/
inductive Takes (resources : Resources) (settings : Settings) :
    Frame → List Frame → Store → Outcome (Chain × Store) (Option Text) → Prop where
  | failed {f : Frame} {included : List Frame} {s : Store} {e : Error} {after : Chain × Store}
      {events : List Event}
      (run : Settles resources settings f included s ⟨.error e, after, events⟩) :
      Takes resources settings f included s ⟨.error e, after, events⟩
  | ended {f : Frame} {included : List Frame} {s : Store} {after : Chain × Store}
      {events : List Event}
      (run : Settles resources settings f included s ⟨.ok false, after, events⟩) :
      Takes resources settings f included s ⟨.ok none, after, events⟩
  /-- The line stands in the source that asks. -/
  | own {f f' : Frame} {included : List Frame} {s s' : Store} {events : List Event}
      (run : Settles resources settings f included s ⟨.ok true, (⟨f', []⟩, s'), events⟩) :
      Takes resources settings f included s ((takeNext settings f' [] s').after events)
  /-- The included source asks in its turn. -/
  | within {f f' g : Frame} {included rest : List Frame} {s s' : Store} {events : List Event}
      {o : Outcome (Chain × Store) (Option Text)}
      (run : Settles resources settings f included s ⟨.ok true, (⟨f', g :: rest⟩, s'), events⟩)
      (inner : Takes resources settings g rest s' o) :
      Takes resources settings f included s
        ((o.mapState fun (c, s) => (⟨f'.cleared, c.frame :: c.included⟩, s)).after events)

section

variable {resources : Resources} {settings : Settings} {f : Frame} {included : List Frame}
variable {s : Store}

theorem Takes.unique {o o' : Outcome (Chain × Store) (Option Text)}
    (h : Takes resources settings f included s o) (h' : Takes resources settings f included s o') :
    o = o' := by
  induction h generalizing o' with
  | failed run =>
    cases h' with
    | failed run' => cases run.unique run'; rfl
    | ended run' => cases run.unique run'
    | own run' => cases run.unique run'
    | within run' => cases run.unique run'
  | ended run =>
    cases h' with
    | failed run' => cases run.unique run'
    | ended run' => cases run.unique run'; rfl
    | own run' => cases run.unique run'
    | within run' => cases run.unique run'
  | own run =>
    cases h' with
    | failed run' => cases run.unique run'
    | ended run' => cases run.unique run'
    | own run' => cases run.unique run'; rfl
    | within run' => cases run.unique run'
  | within run inner ih =>
    cases h' with
    | failed run' => cases run.unique run'
    | ended run' => cases run.unique run'
    | own run' => cases run.unique run'
    | within run' inner' =>
      cases run.unique run'
      rw [ih inner']

theorem Takes.iff_eq {o o' : Outcome (Chain × Store) (Option Text)}
    (h : Takes resources settings f included s o) :
    Takes resources settings f included s o' ↔ o' = o :=
  ⟨fun h' => h'.unique h, fun same => same ▸ h⟩

/-- Asking for the next line is the run, where the sources nest less deep than its bound. -/
theorem takes_nextLine {depth : Nat} {raw : Text} (h : Shallow resources depth settings raw)
    (lines : f.cursor.lines = settings.linesOf raw) (sound : Chain.Sound ⟨f, included⟩)
    (linked : Chain.Linked resources settings ⟨f, included⟩) (s : Store) :
    Takes resources settings f included s (nextLine resources depth settings f included s) := by
  induction depth generalizing f included raw s with
  | zero => exact h.elim
  | succ depth ih =>
    have run := settles_settle h lines sound linked s
    have stays := @lines_settle resources settings (depth + 1) f included s
    have sound' := @sound_settle resources settings (depth + 1) f included s sound
    have linked' := @linked_settle resources settings (depth + 1) f included s sound linked
    rw [nextLine]
    generalize settle resources (depth + 1) settings f included s = o at run stays sound' linked' ⊢
    obtain ⟨e | _ | _, ⟨⟨f', _ | ⟨g, rest⟩⟩, s'⟩, events⟩ := o
    · exact .failed run
    · exact .failed run
    · exact .ended run
    · exact .ended run
    · exact .own run
    · obtain ⟨-, hrest⟩ := Chain.sound_cons.mp sound'
      obtain ⟨⟨line, mem, start, opens, same⟩, linked'⟩ := Chain.linked_cons.mp linked'
      have mem : line ∈ settings.linesOf raw := (stays.trans lines) ▸ mem
      obtain ⟨raw', inner, shallow⟩ := opens.shallow h mem
      exact .within run (ih shallow (same.trans inner) hrest linked' s')

/-! ### Loads -/

/-- A run of loading a properties source, with what it comes to: the lines of the source, if that
can be read, are settled with a table of their own. -/
def Loads (resources : Resources) (settings : Settings) (source : Source) (s : Store)
    (o : Outcome Store Table) : Prop :=
  ∃ inner, (∀ name raw, source.read resources = .ok (name, raw) →
      Settles resources settings { cursor := .opened name (settings.linesOf raw) } []
        { s with target := ∅ } inner) ∧
    o = withOwnTarget (readRecords resources settings (fun _ _ => inner) source) s

theorem Loads.unique {source : Source} {o o' : Outcome Store Table}
    (h : Loads resources settings source s o) (h' : Loads resources settings source s o') :
    o = o' := by
  obtain ⟨inner, runs, rfl⟩ := h
  obtain ⟨inner', runs', rfl⟩ := h'
  exact ownRecords_congr fun name raw found =>
    (runs name raw found).unique (runs' name raw found)

theorem Loads.iff_eq {source : Source} {o o' : Outcome Store Table}
    (h : Loads resources settings source s o) : Loads resources settings source s o' ↔ o' = o :=
  ⟨fun h' => h'.unique h, fun same => same ▸ h⟩

/-- Loading is the run, where the sources nest less deep than its bound. -/
theorem loads_of_shallow {depth : Nat} {source : Source}
    (h : ∀ name raw, source.read resources = .ok (name, raw) → Shallow resources depth settings raw)
    (s : Store) :
    Loads resources settings source s
      (withOwnTarget (readRecords resources settings
        (fun g s => settle resources depth settings g [] s) source) s) := by
  rcases read : source.read resources with e | ⟨name, raw⟩
  · refine ⟨⟨.ok false, ({}, s), []⟩, fun _ _ found => ?_, ownRecords_congr fun _ _ found => ?_⟩
    · cases read.symm.trans found
    · cases read.symm.trans found
  · have sound : Chain.Sound ⟨{ cursor := .opened name (settings.linesOf raw) }, []⟩ :=
      Chain.sound_single.mpr (Cursor.sound_opened ..)
    refine ⟨settle resources depth settings { cursor := .opened name (settings.linesOf raw) } []
      { s with target := ∅ }, fun name' raw' found => ?_, ownRecords_congr fun _ _ found => ?_⟩
    · cases read.symm.trans found
      exact settles_settle (h name raw read) rfl sound Chain.linked_single _
    · cases read.symm.trans found
      rfl

end

end CommandScript
