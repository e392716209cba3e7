import CommandScript.Proofs.Loading

/-!
# Verbose runs

A verbose scanner logs what it does on the way. Two runs that differ in nothing else are
compared action by action: they give the same result and leave the same state, and the
events of the verbose one are those of the other with log records put in.
-/

namespace CommandScript

namespace Event

/-- The second list is the first one with log records put in. -/
structure Widened (events events' : List Event) : Prop where
  sublist : events.Sublist events'
  unlogged : unlogged events' = unlogged events

namespace Widened

variable {events events' early early' late late' : List Event}

theorem refl (events : List Event) : Widened events events := ⟨.refl events, rfl⟩

theorem append (hearly : Widened early early') (hlate : Widened late late') :
    Widened (early ++ late) (early' ++ late') := by
  refine ⟨hearly.sublist.append hlate.sublist, ?_⟩
  rw [Scanner.unlogged_append, Scanner.unlogged_append, hearly.unlogged, hlate.unlogged]

/-- Log records may be put in where nothing happened. -/
theorem of_unlogged (h : Event.unlogged events = []) : Widened [] events :=
  ⟨List.nil_sublist _, h⟩

/-- The log of the first is part of the log of the second, in its order. -/
theorem log (h : Widened events events') : (Event.log events).Sublist (Event.log events') :=
  h.sublist.filterMap _

end Widened

end Event

open Event (Widened)

/-- The second run came to what the first one did, where `f` says what their states have to do
with one another, and logged at least as much. -/
structure Outcome.LogsMore {σ τ α : Type} (f : σ → τ) (o : Outcome σ α) (o' : Outcome τ α) :
    Prop where
  result : o'.result = o.result
  state : o'.state = f o.state
  events : Widened o.events o'.events

/-- What the second run came to, where it is known what the first one did. -/
theorem Outcome.LogsMore.of_eq {σ α : Type} {o o' : Outcome σ α} (h : LogsMore id o o')
    {result : Except Error α} {s : σ} {events : List Event} (run : o = ⟨result, s, events⟩) :
    ∃ events', o' = ⟨result, s, events'⟩ ∧ Widened events events' := by
  subst run
  obtain ⟨result', s', events'⟩ := o'
  obtain ⟨same, left, wide⟩ := h
  simp only [id_eq] at same left
  subst same left
  exact ⟨events', rfl, wide⟩

namespace Act

variable {σ τ α β : Type} {f : σ → τ} {s : σ}

/-- From `s`, the second action comes to what the first one does and logs at least as much. -/
def LogsMore (f : σ → τ) (x : Act σ α) (x' : Act τ α) (s : σ) : Prop :=
  Outcome.LogsMore f (x s) (x' (f s))

namespace LogsMore

theorem refl (x : Act σ α) (s : σ) : LogsMore id x x s := ⟨rfl, rfl, .refl _⟩

theorem pure (a : α) : LogsMore f (Pure.pure a) (Pure.pure a) s := ⟨rfl, rfl, .refl _⟩

theorem fail (e : Error) : LogsMore f (Act.fail e : Act σ α) (Act.fail e) s :=
  ⟨rfl, rfl, .refl _⟩

theorem modify {g : σ → σ} {g' : τ → τ} (h : g' (f s) = f (g s)) :
    LogsMore f (Act.modify g) (Act.modify g') s := ⟨rfl, h, .refl _⟩

theorem emitAll {events events' : List Event} (h : Widened events events') :
    LogsMore f (Act.emitAll events) (Act.emitAll events') s := ⟨rfl, rfl, h⟩

theorem onlyIf_debug {condition condition' : Bool} (h : condition = true → condition' = true)
    (channel : LogChannel) (message : Text) :
    LogsMore f (onlyIf condition (debug channel message))
      (onlyIf condition' (debug channel message)) s := by
  cases condition with
  | true =>
    rw [h rfl]
    exact ⟨rfl, rfl, .refl _⟩
  | false =>
    cases condition' with
    | true => exact ⟨rfl, rfl, .of_unlogged rfl⟩
    | false => exact ⟨rfl, rfl, .refl _⟩

theorem bind {x : Act σ α} {x' : Act τ α} {k : α → Act σ β} {k' : α → Act τ β}
    (hx : LogsMore f x x' s) (hk : ∀ a t, LogsMore f (k a) (k' a) t) :
    LogsMore f (x >>= k) (x' >>= k') s := by
  obtain ⟨result, state, events⟩ := hx
  rw [LogsMore, bind_apply, bind_apply]
  generalize x s = o at result state events ⊢
  generalize x' (f s) = o' at result state events ⊢
  obtain ⟨r, t, early⟩ := o
  obtain ⟨r', t', early'⟩ := o'
  simp only at result state events
  subst result state
  cases r' with
  | error e => exact ⟨rfl, rfl, events⟩
  | ok a =>
    have later := hk a t
    exact ⟨later.result, later.state, events.append later.events⟩

/-- What follows may depend on the state, which is not the same for both. -/
theorem get_bind {k : σ → Act σ β} {k' : τ → Act τ β} (h : LogsMore f (k s) (k' (f s)) s) :
    LogsMore f (Act.get >>= k) (Act.get >>= k') s := h

theorem attempt {x : Act σ α} {x' : Act τ α} (h : LogsMore f x x' s) :
    LogsMore f (Act.attempt x) (Act.attempt x') s :=
  ⟨congrArg Except.ok h.result, h.state, h.events⟩

end LogsMore

end Act

open Act

def Options.traced (o : Options) : Options := { o with verbose := true }

def Settings.traced (settings : Settings) : Settings :=
  { settings with options := settings.options.traced }

section

variable {resources : Resources} {settings : Settings} {s : Store}

/-! ### Lines -/

theorem logsMore_expand (expander : Expander) (verbose : Bool) (t : Text) :
    LogsMore id (Store.expand expander verbose t) (Store.expand expander true t) s := by
  refine .get_bind (.bind (.refl _ _) fun result t => ?_)
  refine .bind (.onlyIf_debug ?_ _ _) fun _ _ => .pure _
  intro h
  exact (Bool.and_eq_true_iff.mp h).2

theorem logsMore_expandPayload (t : Text) :
    LogsMore id (expandPayload settings t) (expandPayload settings.traced t) s :=
  logsMore_expand _ _ t

theorem logsMore_debugIfVerbose (channel : LogChannel) (message : Text) :
    LogsMore id (debugIfVerbose settings channel message)
      (debugIfVerbose settings.traced channel message) s :=
  .onlyIf_debug (fun _ => rfl) _ _

theorem widened_ingestionLog (verbose : Bool) (name : Text) (kept : List (Text × Line)) :
    Widened (if verbose then ingestionLog name kept else []) (ingestionLog name kept) := by
  cases verbose with
  | true => exact .refl _
  | false =>
    apply Widened.of_unlogged
    exact unlogged_ingestionLog name kept

theorem logsMore_openCursor {σ τ : Type} {f : σ → τ} {s : σ} (source : Source) (options : Options)
    (separator : Option Text) :
    LogsMore f (openCursor resources source options separator)
      (openCursor resources source options.traced separator) s := by
  refine .bind (.bind (.emitAll (.refl _)) fun _ t => ?_) fun opened _ => .pure _
  cases source.read resources with
  | error e => exact .fail e
  | ok opened =>
    obtain ⟨name, raw⟩ := opened
    exact .bind (.pure _) fun _ t =>
      .bind (.emitAll (widened_ingestionLog ..)) fun _ t => .pure _

theorem logsMore_openFrame (source : Source) :
    LogsMore id (openFrame resources settings source)
      (openFrame resources settings.traced source) s :=
  .bind (logsMore_openCursor source _ _) fun _ _ => .pure _

theorem logsMore_surface (place : Text) (line : Line) :
    LogsMore id (surface settings place line) (surface settings.traced place line) s := by
  refine .bind (.onlyIf_debug (fun _ => rfl) _ _) fun _ t => ?_
  refine .bind (logsMore_expand _ _ _) fun _ t => ?_
  exact .bind (.emitAll (.refl _)) fun _ t => .pure _

theorem logsMore_executeInclude (place reference : Text) :
    LogsMore id (executeInclude resources settings place reference)
      (executeInclude resources settings.traced place reference) s := by
  refine .bind (logsMore_expandPayload reference) fun expanded t => ?_
  refine .bind ?_ fun frame t => .bind (logsMore_debugIfVerbose _ _) fun _ t => .pure _
  exact .bind (.attempt (logsMore_openFrame _)) fun opened t => .refl _ _

theorem logsMore_executeProperties {load load' : Text → Act Store Table}
    (hload : ∀ reference s, LogsMore id (load reference) (load' reference) s)
    (place label reference : Text) :
    LogsMore id (executeProperties settings load place label reference)
      (executeProperties settings.traced load' place label reference) s := by
  refine .bind (logsMore_expandPayload label) fun label t => ?_
  refine .bind (logsMore_expandPayload reference) fun expanded t => ?_
  refine .bind (.bind (.attempt (hload _ t)) fun loaded t => .refl _ _) fun values t => ?_
  refine .bind (.refl _ _) fun _ t => ?_
  exact .bind (logsMore_debugIfVerbose _ _) fun _ t => .pure _

theorem logsMore_execute {load load' : Text → Act Store Table}
    (hload : ∀ reference s, LogsMore id (load reference) (load' reference) s) (place : Text)
    (builtin : Builtin) :
    LogsMore id (execute resources settings load place builtin)
      (execute resources settings.traced load' place builtin) s := by
  cases builtin with
  | includeSource reference => exact logsMore_executeInclude place reference
  | print expression =>
    exact .bind (logsMore_expandPayload expression) fun expanded t => .refl _ _
  | sleep digits => exact .refl _ _
  | setProperty key value =>
    refine .bind (logsMore_expandPayload _) fun key t => ?_
    refine .bind (logsMore_expandPayload _) fun value t => ?_
    refine .bind (logsMore_debugIfVerbose _ _) fun _ t => ?_
    exact .bind (.refl _ _) fun _ t => .pure _
  | properties label reference => exact logsMore_executeProperties hload place label reference
  | record key value =>
    refine .bind (logsMore_expandPayload key) fun key t => ?_
    refine .bind (logsMore_expandPayload _) fun value t => ?_
    refine .bind (.modify rfl) fun _ t => ?_
    exact .bind (logsMore_debugIfVerbose _ _) fun _ t => .pure _

theorem logsMore_executeLine {load load' : Text → Act Store Table}
    (hload : ∀ reference s, LogsMore id (load reference) (load' reference) s) (place : Text)
    (line : Line) :
    LogsMore id (executeLine resources settings load place line)
      (executeLine resources settings.traced load' place line) s := by
  refine .bind (.onlyIf_debug (fun _ => rfl) _ _) fun _ t => ?_
  refine .bind (logsMore_surface place line) fun _ t => ?_
  have kind : settings.traced.kind = settings.kind := rfl
  simp only [kind]
  cases settings.kind.builtin? (withoutEcho line.text) with
  | some builtin => exact logsMore_execute hload place builtin
  | none => exact .fail _

/-! ### Sources -/

/-- Two ways to settle a source, of which the second logs at least as much. -/
def SettlesAlike (enter enter' : Frame → Store → Settled) : Prop :=
  ∀ g s, Outcome.LogsMore id (enter g s) (enter' g s)

theorem GoesOn.logsMore {load load' : Text → Act Store Table}
    {enter enter' : Frame → Store → Settled}
    (hload : ∀ reference s, LogsMore id (load reference) (load' reference) s)
    (henter : SettlesAlike enter enter') {line : Line} {f f' : Frame} {s t : Store}
    {events : List Event} (goes : GoesOn resources settings load enter line f s f' t events) :
    ∃ events', GoesOn resources settings.traced load' enter' line f s f' t events' ∧
      Widened events events' := by
  cases goes with
  | done executed =>
    obtain ⟨events', executed', wide⟩ := (logsMore_executeLine hload _ line).of_eq executed
    exact ⟨events', .done executed', wide⟩
  | replayed executed =>
    obtain ⟨events', executed', wide⟩ := (logsMore_executeLine hload _ line).of_eq executed
    exact ⟨events', .replayed executed', wide⟩
  | behind executed ended =>
    obtain ⟨events', executed', wide⟩ := (logsMore_executeLine hload _ line).of_eq executed
    obtain ⟨inner', ended', wider⟩ := (henter _ _).of_eq ended
    exact ⟨events' ++ inner', .behind executed' ended', wide.append wider⟩

theorem LinesSettle.logsMore {load load' : Text → Act Store Table}
    {enter enter' : Frame → Store → Settled}
    (hload : ∀ reference s, LogsMore id (load reference) (load' reference) s)
    (henter : SettlesAlike enter enter') {lines : List Line} {f : Frame} {s : Store} {o : Settled}
    (run : LinesSettle resources settings load enter lines f s o) :
    ∃ o', LinesSettle resources settings.traced load' enter' lines f s o' ∧
      Outcome.LogsMore id o o' := by
  induction run with
  | ended => exact ⟨_, .ended, rfl, rfl, .refl _⟩
  | ordinary other => exact ⟨_, .ordinary other, rfl, rfl, .refl _⟩
  | failed recognized executed =>
    obtain ⟨events', executed', wide⟩ := (logsMore_executeLine hload _ _).of_eq executed
    exact ⟨_, .failed recognized executed', rfl, rfl, wide⟩
  | inside recognized executed entered unfinished =>
    obtain ⟨events', executed', wide⟩ := (logsMore_executeLine hload _ _).of_eq executed
    obtain ⟨inner', entered', wider⟩ := (henter _ _).of_eq entered
    exact ⟨_, .inside recognized executed' entered' unfinished, rfl, rfl, wide.append wider⟩
  | passed recognized goes rest ih =>
    obtain ⟨events', goes', wide⟩ := goes.logsMore hload henter
    obtain ⟨o', rest', more⟩ := ih
    exact ⟨_, .passed recognized goes' rest', more.result, more.state, wide.append more.events⟩

theorem logsMore_takeNext (f : Frame) (included : List Frame) (s : Store) :
    Outcome.LogsMore id (takeNext settings f included s)
      (takeNext settings.traced f included s) := by
  induction included generalizing f with
  | nil =>
    cases hahead : f.cursor.ahead with
    | nil =>
      simp only [takeNext, hahead]
      exact ⟨rfl, rfl, .refl _⟩
    | cons line ahead =>
      simp only [takeNext, hahead]
      have surfaced := @logsMore_surface settings s (f.moved line ahead).cursor.state line
      refine ⟨congrArg (Except.map some) surfaced.result, ?_, surfaced.events⟩
      exact congrArg (Prod.mk _) surfaced.state
  | cons g rest ih =>
    obtain ⟨result, state, events⟩ := ih g
    exact ⟨result, congrArg (fun p => (Chain.mk f.cleared (p.1.frame :: p.1.included), p.2)) state,
      events⟩

/-- What a load makes of a settled source. -/
theorem logsMore_tableOf {o o' : Settled} (h : Outcome.LogsMore id o o') :
    Outcome.LogsMore id (tableOf settings o) (tableOf settings.traced o') := by
  obtain ⟨result, ⟨c, s⟩, events⟩ := o
  obtain ⟨events', rfl, wide⟩ := h.of_eq rfl
  match result with
  | .error e => exact ⟨rfl, rfl, wide⟩
  | .ok false => exact ⟨rfl, rfl, wide.append (.refl _)⟩
  | .ok true =>
    have taken := @logsMore_takeNext settings c.frame c.included s
    simp only [tableOf]
    generalize takeNext settings c.frame c.included s = last at taken ⊢
    obtain ⟨_ | _, ⟨c', t⟩, late⟩ := last
    · obtain ⟨late', hlate, wider⟩ := taken.of_eq rfl
      rw [hlate]
      exact ⟨rfl, rfl, wide.append wider⟩
    · obtain ⟨late', hlate, wider⟩ := taken.of_eq rfl
      rw [hlate]
      exact ⟨rfl, rfl, wide.append wider⟩

theorem logsMore_readRecords {enter enter' : Frame → Store → Settled}
    (henter : SettlesAlike enter enter') (source : Source) :
    LogsMore id (withOwnTarget (readRecords resources settings enter source))
      (withOwnTarget (readRecords resources settings.traced enter' source)) s := by
  have opened : Widened (openingEvents resources settings source)
      (openingEvents resources settings.traced source) := by
    have opened := (@logsMore_openFrame resources settings s source).events
    rw [openFrame_apply, openFrame_apply] at opened
    exact opened
  simp only [LogsMore, withOwnTarget, readRecords_apply]
  rcases source.read resources with e | ⟨name, raw⟩
  · exact ⟨rfl, rfl, opened⟩
  · have loaded := @logsMore_tableOf settings _ _
      (henter { cursor := .opened name (settings.linesOf raw) } { s with target := ∅ })
    refine ⟨loaded.result, ?_, opened.append loaded.events⟩
    exact congrArg (fun after => Store.mk after.registry s.target) loaded.state

/-- Settling logs more in a verbose scanner, and does nothing else. -/
theorem logsMore_settle (depth : Nat) (f : Frame) (included : List Frame) (s : Store) :
    Outcome.LogsMore id (settle resources depth settings f included s)
      (settle resources depth settings.traced f included s) := by
  refine settle_induction (motive := fun depth settings f included s o =>
    Outcome.LogsMore id o (settle resources depth settings.traced f included s))
    ?tooDeep ?own ?finished ?within depth settings f included s
  case tooDeep => exact fun _ _ _ _ => ⟨rfl, rfl, .refl _⟩
  case own =>
    intro depth settings f s o ih run
    obtain ⟨o', run', more⟩ := run.logsMore
      (fun reference s => logsMore_readRecords (fun g s => ih settings.forRecords g [] s)
        (.text reference))
      fun g s => ih settings g [] s
    have same : settle resources (depth + 1) settings.traced f [] s = o' := run'.eq
    rwa [same]
  case finished =>
    intro depth settings f g rest s c t events settled inner own
    obtain ⟨events', settled', wide⟩ := inner.of_eq rfl
    rw [settle_of_finished settled']
    exact ⟨own.result, own.state, wide.append own.events⟩
  case within =>
    intro depth settings f g rest s result c t events settled unfinished inner
    obtain ⟨events', settled', wide⟩ := inner.of_eq rfl
    rw [settle_of_within settled' unfinished]
    exact ⟨rfl, rfl, wide⟩

theorem logsMore_nextLine (depth : Nat) (f : Frame) (included : List Frame) (s : Store) :
    Outcome.LogsMore id (nextLine resources depth settings f included s)
      (nextLine resources depth settings.traced f included s) := by
  have settled := @logsMore_settle resources settings depth f included s
  rw [nextLine_eq, nextLine_eq]
  generalize settle resources depth settings f included s = o at settled ⊢
  obtain ⟨result, ⟨c, s'⟩, events⟩ := o
  obtain ⟨events', hsettled, wide⟩ := settled.of_eq rfl
  rw [hsettled]
  rcases result with e | _ | _
  · exact ⟨rfl, rfl, wide⟩
  · exact ⟨rfl, rfl, wide⟩
  · have taken := @logsMore_takeNext settings c.frame c.included s'
    exact ⟨taken.result, taken.state, wide.append taken.events⟩

end

end CommandScript
