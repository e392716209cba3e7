import CommandScript.Properties
import CommandScript.Proofs.Inclusion
import CommandScript.Proofs.Lookahead

/-!
# Loading lines

Loading a properties source reads it, settles its lines and hands the table out. The log
aside, what a load comes to depends on the lines alone.
-/

namespace CommandScript

/-! ### Actions that only log -/

/-- Run from `s`, the action gives `a` and leaves `t`, and does nothing outside the log. -/
def Act.Quietly {σ α : Type} (x : Act σ α) (s : σ) (a : α) (t : σ) : Prop :=
  ∃ log, Event.unlogged log = [] ∧ x s = ⟨.ok a, t, log⟩

namespace Act.Quietly

variable {σ α β : Type} {s t u : σ} {a : α} {b : β}

theorem pure : Quietly (Pure.pure a : Act σ α) s a s := ⟨[], rfl, rfl⟩

theorem bind {x : Act σ α} {f : α → Act σ β} (hx : Quietly x s a t) (hf : Quietly (f a) t b u) :
    Quietly (x >>= f) s b u := by
  obtain ⟨early, quiet, hx⟩ := hx
  obtain ⟨late, quiet', hf⟩ := hf
  refine ⟨early ++ late, ?_, ?_⟩
  · rw [Scanner.unlogged_append, quiet, quiet', List.append_nil]
  · rw [bind_apply, hx]
    simp only [hf, Outcome.after_mk]

theorem modify (f : σ → σ) : Quietly (Act.modify f) s () (f s) := ⟨[], rfl, rfl⟩

theorem onlyIf_debug (condition : Bool) (channel : LogChannel) (message : Text) :
    Quietly (onlyIf condition (debug channel message)) s () s := by
  cases condition with
  | false => exact ⟨[], rfl, rfl⟩
  | true => exact ⟨[.logged ⟨.debug, channel, message⟩], rfl, rfl⟩

end Act.Quietly

open Act

theorem quietly_expand {expander : Expander} (verbose : Bool) {t u : Text} {s : Store}
    (h : expander.expand s.registry t = .ok u) :
    Quietly (Store.expand expander verbose t) s u s := by
  rw [Quietly, Store.expand_apply, h]
  refine ⟨_, ?_, rfl⟩
  split <;> rfl

/-- A line without an echo keyword is surfaced without a word. -/
theorem quietly_surface {settings : Settings} (place : Text) {line : Line} {t : Text} {s : Store}
    (plain : splitEcho line.text = (false, line.text))
    (h : settings.expander.expand s.registry line.text = .ok t) :
    Quietly (surface settings place line) s t s := by
  refine .bind (.onlyIf_debug ..) ?_
  rw [announce, plain]
  refine .bind (quietly_expand _ h) (.bind ⟨[], rfl, rfl⟩ .pure)

/-! ### Loading -/

/-- What settling a properties source means for the load: the table under construction, or an
error where a line is left over. -/
def tableOf (settings : Settings) : Settled → Outcome Store Table
  | ⟨.error e, (_, s), events⟩ => ⟨.error e, s, events⟩
  | ⟨.ok false, (c, s), events⟩ =>
    ⟨.ok s.target, s, events ++
      [.logged ⟨.debug, .properties, "Loaded " ++ Text.ofNat s.target.size ++
        " entries from [" ++ c.frame.cursor.name.getD [] ++ "]"⟩]⟩
  | ⟨.ok true, (c, s), events⟩ =>
    match takeNext settings c.frame c.included s with
    | ⟨.error e, (_, s), last⟩ => ⟨.error e, s, events ++ last⟩
    | ⟨.ok _, (c, s), last⟩ => ⟨.error (.notARecord c.state), s, events ++ last⟩

def openingEvents (resources : Resources) (settings : Settings) (source : Source) : List Event :=
  source.path?.toList.map .sought ++
    match source.read resources with
    | .error _ => []
    | .ok (name, raw) =>
      if settings.options.verbose then
        ingestionLog name (Line.kept settings.options.toCleaning settings.kind.separator raw)
      else []

/-- Without debugging, opening a source logs nothing. -/
theorem openingEvents_of_quiet {resources : Resources} {settings : Settings}
    (quiet : settings.options.verbose = false) (source : Source) :
    openingEvents resources settings source = source.path?.toList.map .sought := by
  rw [openingEvents, quiet]
  cases source.read resources <;> simp

/-- What opening a source comes to. -/
theorem openFrame_apply {σ : Type} (resources : Resources) (settings : Settings) (source : Source)
    (s : σ) :
    openFrame resources settings source s =
      ⟨(source.read resources).map fun p => { cursor := .opened p.1 (settings.linesOf p.2) }, s,
        openingEvents resources settings source⟩ := by
  simp only [openFrame, openCursor, openLines, openLinesBy, openingEvents, Act.bind_apply,
    Act.emitAll_apply]
  cases source.read resources with
  | error e => simp [Except.map]
  | ok opened => simp [Except.map, Settings.linesOf, Line.ingest, Line.kept]

/-- Reading records opens the source and settles its lines. -/
theorem readRecords_apply (resources : Resources) (settings : Settings)
    (settle : Frame → Store → Settled) (source : Source) (s : Store) :
    readRecords resources settings settle source s =
      match source.read resources with
      | .error e => ⟨.error e, s, openingEvents resources settings source⟩
      | .ok (name, raw) =>
        (tableOf settings (settle { cursor := .opened name (settings.linesOf raw) } s)).after
          (openingEvents resources settings source) := by
  rw [readRecords, openFrame_apply]
  rcases source.read resources with e | ⟨name, raw⟩
  · rfl
  · dsimp only [Except.map]
    generalize settle _ s = o
    obtain ⟨_ | _ | _, ⟨c, t⟩, inner⟩ := o
    · rfl
    · simp only [tableOf, Outcome.after_mk, List.append_assoc]
    · simp only [tableOf]
      rcases takeNext settings c.frame c.included t with ⟨_ | _, ⟨c', t'⟩, last⟩
      · simp only [Outcome.after_mk, List.append_assoc]
      · simp only [Outcome.after_mk, List.append_assoc]

theorem unlogged_ingestionLog (name : Text) (kept : List (Text × Line)) :
    Event.unlogged (ingestionLog name kept) = [] := by
  rw [Event.unlogged, List.filter_eq_nil_iff]
  intro event h
  rcases List.mem_append.mp h with h | h
  · obtain ⟨p, -, rfl⟩ := List.mem_map.mp h
    exact Bool.false_ne_true
  · obtain rfl := List.mem_singleton.mp h
    exact Bool.false_ne_true

namespace PropertiesLoader

def loadLines (loader : PropertiesLoader) (resources : Resources) (name : Text)
    (lines : List Line) : Act Store Table := do
  Act.modify (Scanner.prepare .records)
  withOwnTarget fun s => tableOf loader.settings
    (settle resources resources.depthBound loader.settings { cursor := .opened name lines } [] s)

/-- To load a stream is to load its lines, but for the log of reading them. -/
theorem load_textStream (loader : PropertiesLoader) (resources : Resources) (name raw : Text)
    (s : Store) :
    ∃ log, Event.unlogged log = [] ∧
      loader.load resources (.textStream name raw) s =
        (loader.loadLines resources name (Line.ingest {} (some [';']) raw) s).after log := by
  refine ⟨openingEvents resources loader.settings (.textStream name raw), ?_, ?_⟩
  · simp only [openingEvents, Source.path?, Source.read]
    split
    · exact unlogged_ingestionLog ..
    · rfl
  · simp only [load, loadLines, Act.bind_apply, Act.modify_apply, withOwnTarget, readRecords_apply,
      Source.read]
    rfl

end PropertiesLoader

end CommandScript
