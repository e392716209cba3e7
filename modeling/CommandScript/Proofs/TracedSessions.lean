import CommandScript.Proofs.Histories
import CommandScript.Proofs.Tracing

/-!
# Verbose sessions

To make walkers verbose changes the log of a session and nothing else. The comparison of
single actions is carried to operations, and from one turn of a history to all of them: at
every moment the walkers of the two sessions stand at the same places and share equal stores.
-/

namespace CommandScript

open Act Event

/-! ### Readers -/

namespace Reader

variable {resources : Resources} {r : Reader}

def traced (r : Reader) : Reader := { r with options := r.options.traced }

theorem logsMore_openSource (source : Source) (trim compress : Option Bool) :
    LogsMore traced (openSource resources source trim compress)
      (openSource resources source trim compress) r := by
  refine .bind (.modify rfl) fun _ t => .get_bind ?_
  exact .bind (logsMore_openCursor source t.options none) fun cursor t => .modify rfl

theorem logsMore_hasNext : LogsMore traced hasNext hasNext r :=
  .bind (.modify rfl) fun _ _ => .get_bind (.pure _)

theorem logsMore_advance? : LogsMore traced advance? advance? r := by
  refine .bind (.modify rfl) fun _ t => .get_bind ?_
  have same : t.traced.cursor.advance? = t.cursor.advance? := rfl
  rw [same]
  rcases t.cursor.advance? with - | ⟨line, cursor⟩
  · exact .pure _
  · refine .bind (.modify rfl) fun _ t => ?_
    exact .bind (.onlyIf_debug (fun _ => rfl) _ _) fun _ t => .pure _

theorem logsMore_current : LogsMore traced current current r := by
  refine .get_bind ?_
  have same : r.traced.cursor = r.cursor := rfl
  rw [same]
  cases r.cursor.current? with
  | some line => exact .pure _
  | none => exact .fail _

theorem logsMore_next : LogsMore traced next next r := by
  refine .bind logsMore_advance? fun taken t => ?_
  cases taken with
  | some line => exact logsMore_current
  | none => exact .get_bind (.fail _)

theorem logsMore_next? : LogsMore traced next? next? r := by
  refine .bind logsMore_advance? fun taken t => ?_
  cases taken <;> exact .pure _

end Reader

/-! ### Classifiers -/

namespace Classifier

variable {α : Type} {resources : Resources} {c : Classifier}

def traced (c : Classifier) : Classifier := { c with reader := c.reader.traced }

theorem logsMore_clearLabel : LogsMore traced clearLabel clearLabel c := .modify rfl

theorem logsMore_onReader {x : Act Reader α} (h : LogsMore Reader.traced x x c.reader) :
    LogsMore traced (onReader x) (onReader x) c :=
  ⟨h.result, congrArg (fun r => Classifier.mk r c.label) h.state, h.events⟩

theorem logsMore_openSource (source : Source) (trim compress : Option Bool) :
    LogsMore traced (openSource resources source trim compress)
      (openSource resources source trim compress) c :=
  .bind logsMore_clearLabel fun _ _ => logsMore_onReader (Reader.logsMore_openSource ..)

/-- A reader that has opened nothing is started over. -/
theorem logsMore_clearUnread {x : Act Classifier α} (h : ∀ c, LogsMore traced x x c) :
    LogsMore traced
      (do
        let c ← Act.get
        if c.reader.cursor.reading.isNone then clearLabel
        x)
      (do
        let c ← Act.get
        if c.reader.cursor.reading.isNone then clearLabel
        x) c := by
  refine .get_bind ?_
  have same : c.traced.reader.cursor = c.reader.cursor := rfl
  rw [same]
  split
  · exact .bind logsMore_clearLabel fun _ t => h t
  · exact h c

theorem logsMore_hasNext : LogsMore traced hasNext hasNext c :=
  logsMore_clearUnread fun _ => logsMore_onReader Reader.logsMore_hasNext

theorem logsMore_determine (line : Text) : LogsMore traced (determine line) (determine line) c :=
  .bind (.modify rfl) fun _ _ => .get_bind (.onlyIf_debug (fun _ => rfl) _ _)

theorem logsMore_advance? : LogsMore traced advance? advance? c := by
  apply logsMore_clearUnread
  intro c
  refine .bind (logsMore_onReader Reader.logsMore_advance?) fun taken t => ?_
  cases taken with
  | none => exact .pure _
  | some line =>
    refine .bind logsMore_clearLabel fun _ t => ?_
    exact .bind (logsMore_determine _) fun _ t => .pure _

theorem logsMore_current : LogsMore traced current current c := by
  refine .get_bind ?_
  have same : c.traced.current? = c.current? := rfl
  rw [same]
  cases c.current? with
  | some text => exact .pure _
  | none => exact .fail _

theorem logsMore_next : LogsMore traced next next c := by
  refine .bind logsMore_advance? fun taken t => ?_
  cases taken with
  | some line => exact logsMore_current
  | none => exact .get_bind (.fail _)

theorem logsMore_next? : LogsMore traced next? next? c := by
  refine .bind logsMore_advance? fun taken t => ?_
  cases taken with
  | some line => exact .get_bind (.pure _)
  | none => exact .pure _

end Classifier

/-! ### Scanners -/

namespace Scanner

variable {α : Type} {resources : Resources} {sc : Scanner} {s : Store}

def traced (sc : Scanner) : Scanner := { sc with settings := sc.settings.traced }

abbrev LogsMore (x : Scan α) (st : Scanner × Store) : Prop :=
  Act.LogsMore (Prod.map traced id) x x st

theorem logsMore_modifyChain (f : Chain → Chain) : LogsMore (modifyChain f) (sc, s) :=
  .modify rfl

theorem logsMore_openSource (source : Source) (trim compress : Option Bool) :
    LogsMore (openSource resources source trim compress) (sc, s) := by
  refine .bind (.modify rfl) fun _ t => .get_bind ?_
  refine .bind (.bind (logsMore_openCursor source _ _) fun _ _ => .pure _) fun frame t => ?_
  exact logsMore_modifyChain _

theorem logsMore_hasNext : LogsMore (hasNext resources) (sc, s) := by
  obtain ⟨result, state, events⟩ := @logsMore_settle resources sc.settings resources.depthBound
    sc.chain.frame sc.chain.included s
  exact ⟨result, congrArg (fun p => (Scanner.mk sc.settings.traced p.1, p.2)) state, events⟩

theorem logsMore_next? : LogsMore (next? resources) (sc, s) := by
  obtain ⟨result, state, events⟩ := @logsMore_nextLine resources sc.settings resources.depthBound
    sc.chain.frame sc.chain.included s
  exact ⟨result, congrArg (fun p => (Scanner.mk sc.settings.traced p.1, p.2)) state, events⟩

theorem logsMore_next : LogsMore (next resources) (sc, s) := by
  refine .bind logsMore_next? fun taken t => ?_
  cases taken with
  | some text => exact .pure _
  | none => exact .get_bind (.fail _)

theorem logsMore_onStore {x x' : Act Store α} (h : Act.LogsMore id x x' s) :
    Act.LogsMore (Prod.map traced id) (onStore x) (onStore x') (sc, s) :=
  ⟨h.result, congrArg (Prod.mk sc.traced) h.state, h.events⟩

theorem logsMore_expand (t : Text) : LogsMore (expand t) (sc, s) :=
  .get_bind (logsMore_onStore (CommandScript.logsMore_expand ..))

theorem logsMore_current? : LogsMore current? (sc, s) := by
  refine .get_bind ?_
  have same : sc.traced.chain = sc.chain := rfl
  simp only [Prod.map]
  rw [same]
  cases sc.chain.innermost.cursor.current? with
  | none => exact .pure _
  | some line => exact .bind (logsMore_expand _) fun _ _ => .pure _

theorem logsMore_current : LogsMore current (sc, s) := by
  refine .bind logsMore_current? fun taken t => ?_
  cases taken with
  | some text => exact .pure _
  | none => exact .get_bind (.fail _)

theorem logsMore_load (source : Source) (s : Store) :
    Act.LogsMore id
      (withOwnTarget (readRecords resources sc.settings.forRecords
        (fun f s => settle resources resources.depthBound sc.settings.forRecords f [] s) source))
      (withOwnTarget (readRecords resources sc.traced.settings.forRecords
        (fun f s => settle resources resources.depthBound sc.traced.settings.forRecords f [] s)
        source)) s :=
  logsMore_readRecords (fun g s => logsMore_settle _ g [] s) source

theorem logsMore_loadTable (reference : Text) :
    LogsMore (loadTable resources reference) (sc, s) :=
  .get_bind (logsMore_onStore (logsMore_load _ s))

theorem logsMore_executeCurrent : LogsMore (executeCurrent resources) (sc, s) := by
  refine .get_bind ?_
  have chain : sc.traced.chain = sc.chain := rfl
  have kind : sc.traced.settings.kind = sc.settings.kind := rfl
  simp only [Prod.map]
  rw [chain, kind]
  cases sc.chain.frame.cursor.current? with
  | none => exact .fail _
  | some line =>
    dsimp only
    split
    · exact .fail _
    · cases sc.settings.kind.builtin? (withoutEcho line.text) with
      | none => exact .pure _
      | some builtin =>
        refine .bind (logsMore_onStore ?_) fun effect t => .bind (.modify rfl) fun _ t => .pure _
        exact logsMore_execute (fun reference s => logsMore_load _ s) _ builtin

end Scanner

/-! ### Walkers -/

namespace Walker

def traced : Walker → Walker
  | reader r => reader r.traced
  | classifier c => classifier c.traced
  | scanner sc => scanner sc.traced

def Raised (w w' : Walker) : Prop := w' = w ∨ w' = w.traced

variable {w w' : Walker}

theorem Raised.duplicate (h : Raised w w') : Raised w.duplicate w'.duplicate := by
  rcases h with rfl | rfl
  · exact Or.inl rfl
  · cases w <;> exact Or.inr rfl

theorem Raised.spawn (h : Raised w w') : Raised w.spawn w'.spawn := by
  rcases h with rfl | rfl
  · exact Or.inl rfl
  · cases w <;> exact Or.inr rfl

theorem raised_new (options : Options) (family : Family) :
    Raised (new options family) (new options.traced family) := by
  cases family <;> exact Or.inr rfl

/-- Only the question for the options tells whether a walker is verbose. -/
theorem answer_traced (w : Walker) {q : Query} (h : q ≠ .options) :
    w.traced.answer q = w.answer q := by
  cases q with
  | options => exact absurd rfl h
  | _ => cases w <;> rfl

theorem options_traced (w : Walker) : w.traced.options = w.options.traced := by
  cases w <;> rfl

end Walker

namespace Run

variable {α : Type} {resources : Resources} {w w' : Walker} {s : Store}

abbrev LogsMore (x : Run α) (st : Walker × Store) : Prop :=
  Act.LogsMore (Prod.map Walker.traced id) x x st

theorem logsMore_byFamily {r : Act Reader α} {c : Act Classifier α} {sc : Scanner.Scan α}
    (hr : ∀ x, Act.LogsMore Reader.traced r r x)
    (hc : ∀ x, Act.LogsMore Classifier.traced c c x)
    (hsc : ∀ x s, Scanner.LogsMore sc (x, s)) : LogsMore (byFamily r c sc) (w, s) := by
  cases w with
  | reader x =>
    exact ⟨(hr x).result, congrArg (fun x => (Walker.reader x, s)) (hr x).state, (hr x).events⟩
  | classifier x =>
    exact ⟨(hc x).result, congrArg (fun x => (Walker.classifier x, s)) (hc x).state,
      (hc x).events⟩
  | scanner x =>
    obtain ⟨result, state, events⟩ := hsc x s
    exact ⟨result, congrArg (fun st => (Walker.scanner st.1, st.2)) state, events⟩

theorem logsMore_missing {σ τ : Type} {f : σ → τ} {a : σ} :
    Act.LogsMore f (missing : Act σ α) missing a := .fail _

theorem logsMore_perform {op : Operation} (h : op ≠ .ask .options) :
    LogsMore (perform resources op) (w, s) := by
  cases op with
  | openSource source trim compress =>
    refine .bind (logsMore_byFamily (fun x => ?_) (fun x => ?_) fun x s => ?_) fun _ _ => .pure _
    · exact Reader.logsMore_openSource source trim compress
    · exact Classifier.logsMore_openSource source trim compress
    · exact Scanner.logsMore_openSource source trim compress
  | reset =>
    refine .bind (logsMore_byFamily (fun x => ?_) (fun x => ?_) fun x s => ?_) fun _ _ => .pure _
    · exact .modify rfl
    · exact .bind (.modify rfl) fun _ _ => Classifier.logsMore_onReader (.modify rfl)
    · exact .modify rfl
  | rewind =>
    refine .bind (logsMore_byFamily (fun x => ?_) (fun x => ?_) fun x s => ?_) fun _ _ => .pure _
    · exact .modify rfl
    · exact .bind (.modify rfl) fun _ _ => Classifier.logsMore_onReader (.modify rfl)
    · exact .modify rfl
  | hasNext =>
    exact .bind (logsMore_byFamily (fun _ => Reader.logsMore_hasNext)
      (fun _ => Classifier.logsMore_hasNext) fun _ _ => Scanner.logsMore_hasNext)
      fun _ _ => .pure _
  | next =>
    exact .bind (logsMore_byFamily (fun _ => Reader.logsMore_next)
      (fun _ => Classifier.logsMore_next) fun _ _ => Scanner.logsMore_next) fun _ _ => .pure _
  | next? =>
    exact .bind (logsMore_byFamily (fun _ => Reader.logsMore_next?)
      (fun _ => Classifier.logsMore_next?) fun _ _ => Scanner.logsMore_next?) fun _ _ => .pure _
  | current =>
    exact .bind (logsMore_byFamily (fun _ => Reader.logsMore_current)
      (fun _ => Classifier.logsMore_current) fun _ _ => Scanner.logsMore_current)
      fun _ _ => .pure _
  | current? =>
    refine .bind (logsMore_byFamily (fun _ => ?_) (fun _ => ?_) fun _ _ => ?_) fun _ _ => .pure _
    · exact .get_bind (.pure _)
    · exact .get_bind (.pure _)
    · exact Scanner.logsMore_current?
  | ask q =>
    refine .get_bind ?_
    have other : q ≠ .options := fun same => h (same ▸ rfl)
    simp only [Prod.map, Walker.answer_traced w other]
    exact .pure _
  | executeCurrent =>
    exact .bind (logsMore_byFamily (fun _ => logsMore_missing) (fun _ => logsMore_missing)
      fun _ _ => Scanner.logsMore_executeCurrent) fun _ _ => .pure _
  | expand t =>
    exact .bind (logsMore_byFamily (fun _ => logsMore_missing) (fun _ => logsMore_missing)
      fun _ _ => Scanner.logsMore_expand t) fun _ _ => .pure _
  | loadTable reference =>
    refine .bind (logsMore_byFamily (fun _ => logsMore_missing) (fun _ => logsMore_missing)
      fun x s => .get_bind ?_) fun _ _ => .pure _
    have kind : x.traced.settings.kind = x.settings.kind := rfl
    simp only [Prod.map, kind]
    split
    · exact Scanner.logsMore_loadTable reference
    · exact logsMore_missing
  | determine line =>
    exact .bind (logsMore_byFamily (fun _ => logsMore_missing)
      (fun _ => Classifier.logsMore_determine line) fun _ _ => logsMore_missing)
      fun _ _ => .pure _

/-- The results are the same; but the options of a walker may be verbose in the second. -/
inductive Agree : Except Error Answer → Except Error Answer → Prop where
  | same (result : Except Error Answer) : Agree result result
  | options (o : Options) : Agree (.ok (.options o)) (.ok (.options o.traced))

/-- An operation does the same to two walkers that differ at most in being verbose. -/
theorem raised_perform (resources : Resources) (h : w.Raised w') (s : Store) (op : Operation) :
    Agree (perform resources op (w, s)).result (perform resources op (w', s)).result ∧
      (perform resources op (w, s)).state.1.Raised (perform resources op (w', s)).state.1 ∧
      (perform resources op (w', s)).state.2 = (perform resources op (w, s)).state.2 ∧
      Widened (perform resources op (w, s)).events (perform resources op (w', s)).events := by
  rcases h with rfl | rfl
  · exact ⟨.same _, Or.inl rfl, rfl, .refl _⟩
  · by_cases asked : op = .ask .options
    · subst asked
      have told : Agree (.ok (.options w.options)) (.ok (.options w.traced.options)) := by
        rw [w.options_traced]
        exact .options _
      exact ⟨told, Or.inr rfl, rfl, .refl _⟩
    · obtain ⟨result, state, events⟩ : Outcome.LogsMore (Prod.map Walker.traced id)
          (perform resources op (w, s)) (perform resources op (w.traced, s)) :=
        logsMore_perform asked
      rw [result, state]
      exact ⟨.same _, Or.inr rfl, rfl, events⟩

end Run

/-! ### Histories -/

namespace Session

inductive Turn.Raised : Turn → Turn → Prop where
  | same (turn : Turn) : Raised turn turn
  | make (family : Family) (options : Options) (seesEnvironment : Bool) :
    Raised (.make family options seesEnvironment) (.make family options.traced seesEnvironment)
  | load (loader : PropertiesLoader) (source : Source) :
    Raised (.load loader source) (.load { loader with verbose := true } source)

/-- The second reply has the same result, and its events are those of the first with log
records put in. -/
structure Reply.Echoes (reply reply' : Reply) : Prop where
  result : Run.Agree reply.result reply'.result
  events : Widened reply.events reply'.events

/-- The sessions share equal stores, and their walkers differ at most in being verbose. -/
structure Shadows (se se' : Session) : Prop where
  separate : se.Separate
  separate' : se'.Separate
  store : se'.store = se.store
  views : ∀ i, Option.Rel Walker.Raised (se.view i) (se'.view i)

variable {resources : Resources} {se se' after after' : Session} {i : Nat} {w w' : Walker}

theorem Shadows.length (h : Shadows se se') : se'.handles.length = se.handles.length := by
  have same (i : Nat) : i < se'.handles.length ↔ i < se.handles.length := by
    rw [← isSome_view, ← isSome_view]
    have views := h.views i
    generalize se.view i = a at views ⊢
    generalize se'.view i = b at views ⊢
    cases views <;> simp
  have le := same se.handles.length
  have ge := same se'.handles.length
  omega

/-- Both sessions go on where one of their walkers has changed. -/
theorem Shadows.became (h : Shadows se se') (hb : Became se i w after)
    (hb' : Became se' i w' after') (hw : w.Raised w') (hstore : after'.store = after.store) :
    Shadows after after' := by
  refine ⟨hb.separate, hb'.separate, hstore, fun j => ?_⟩
  by_cases hj : j = i
  · subst hj
    rw [hb.view, hb'.view]
    exact .some hw
  · rw [hb.others j hj, hb'.others j hj]
    exact h.views j

/-- The store of both sessions is changed alike. -/
theorem Shadows.share (h : Shadows se se') (s : Store) :
    Shadows { se with store := s } { se' with store := s } :=
  ⟨⟨h.separate.owned, h.separate.disjoint⟩, ⟨h.separate'.owned, h.separate'.disjoint⟩, rfl,
    h.views⟩

theorem Shadows.join (h : Shadows se se') (hw : w.Raised w') :
    Shadows (se.join w) (se'.join w') := by
  have hb' := became_join h.separate' w'
  rw [h.length] at hb'
  exact h.became (became_join h.separate w) hb' hw h.store

/-- What the two sessions come to by one turn. -/
structure Keeps (o o' : Outcome Session Answer) : Prop where
  result : Run.Agree o.result o'.result
  events : Widened o.events o'.events
  shadows : Shadows o.state o'.state

/-- An operation on two walkers that differ at most in being verbose. -/
theorem keeps_onWalker (h : Shadows se se') (i : Nat) (op : Operation) :
    Keeps (onWalker i (Run.perform resources op) se)
      (onWalker i (Run.perform resources op) se') := by
  have views := h.views i
  cases hw : se.view i with
  | none =>
    cases hw' : se'.view i with
    | some w' => simp [hw, hw'] at views
    | none =>
      rw [onWalker_none hw, onWalker_none hw']
      exact ⟨.same _, .refl _, h⟩
  | some w =>
    cases hw' : se'.view i with
    | none => simp [hw, hw'] at views
    | some w' =>
      have raised : w.Raised w' := by simpa [hw, hw'] using views
      obtain ⟨agree, raised, store, events⟩ := Run.raised_perform resources raised se.store op
      have acts := acts_onWalker h.separate hw (Run.perform resources op)
      have acts' := acts_onWalker h.separate' hw' (Run.perform resources op)
      rw [h.store] at acts'
      constructor
      · rw [acts.result, acts'.result]
        exact agree
      · rw [acts.events, acts'.events]
        exact events
      · apply h.became acts.became acts'.became raised
        rw [acts.store, acts'.store, store]

/-- A walker that is made of another one. -/
theorem keeps_joined (h : Shadows se se') (i : Nat) {make : Walker → Walker}
    (hmake : ∀ {w w' : Walker}, w.Raised w' → (make w).Raised (make w')) :
    Keeps ((joined i make >>= fun n => pure (.count n)) se)
      ((joined i make >>= fun n => pure (.count n)) se') := by
  have views := h.views i
  rw [Act.bind_apply, Act.bind_apply, joined, joined, h.length]
  cases hw : se.view i with
  | none =>
    cases hw' : se'.view i with
    | some w' => simp [hw, hw'] at views
    | none => exact ⟨.same _, .refl _, h⟩
  | some w =>
    cases hw' : se'.view i with
    | none => simp [hw, hw'] at views
    | some w' =>
      have raised : w.Raised w' := by simpa [hw, hw'] using views
      exact ⟨.same _, .refl _, h.join (hmake raised)⟩

theorem logsMore_loader (loader : PropertiesLoader) (source : Source) (s : Store) :
    Outcome.LogsMore id (loader.load resources source s)
      (PropertiesLoader.load { loader with verbose := true } resources source s) :=
  Act.LogsMore.bind (.modify rfl) fun _ _ =>
    logsMore_readRecords (fun g s => logsMore_settle _ g [] s) source

theorem keeps_load (h : Shadows se se') (loader : PropertiesLoader) (source : Source)
    {loader' : PropertiesLoader}
    (hload : ∀ s, Outcome.LogsMore id (loader.load resources source s)
      (loader'.load resources source s)) :
    Keeps (take resources (.load loader source) se) (take resources (.load loader' source) se') := by
  obtain ⟨result, state, events⟩ := hload se.store
  simp only [take, h.store]
  refine ⟨?_, events, ?_⟩
  · rw [result]
    exact .same _
  · rw [state]
    exact h.share _

/-- One turn of both sessions. -/
theorem keeps_take (h : Shadows se se') {turn turn' : Turn} (ht : turn.Raised turn') :
    Keeps (take resources turn se) (take resources turn' se') := by
  have make (family : Family) (options : Options) (env : Bool) {options' : Options}
      (raised : (Walker.new options family).Raised (Walker.new options' family)) :
      Keeps (take resources (.make family options env) se)
        (take resources (.make family options' env) se') := by
    simp only [take, h.length, h.store]
    exact ⟨.same _, .refl _, (h.share _).join raised⟩
  cases ht with
  | make family options env => exact make family options env (Walker.raised_new options family)
  | load loader source => exact keeps_load h loader source (logsMore_loader loader source)
  | same =>
    cases turn with
    | make family options env => exact make family options env (Or.inl rfl)
    | load loader source => exact keeps_load h loader source fun _ => ⟨rfl, rfl, .refl _⟩
    | step st =>
      cases st with
      | perform i op => exact keeps_onWalker h i op
      | duplicate i => exact keeps_joined h i Walker.Raised.duplicate
      | spawn i => exact keeps_joined h i Walker.Raised.spawn
      | share s => exact ⟨.same _, .refl _, h.share s⟩

theorem shadows_history {turns turns' : List Turn} (ht : List.Forall₂ Turn.Raised turns turns')
    (h : Shadows se se') :
    List.Forall₂ Reply.Echoes (history resources turns se).1 (history resources turns' se').1 ∧
      Shadows (history resources turns se).2 (history resources turns' se').2 := by
  induction ht generalizing se se' with
  | nil => exact ⟨.nil, h⟩
  | cons raised _ ih =>
    obtain ⟨result, events, shadows⟩ := @keeps_take resources _ _ h _ _ raised
    obtain ⟨replies, last⟩ := ih shadows
    exact ⟨.cons ⟨result, events⟩ replies, last⟩

theorem widened_eventsOf {replies replies' : List Reply}
    (h : List.Forall₂ Reply.Echoes replies replies') :
    Widened (eventsOf replies) (eventsOf replies') := by
  induction h with
  | nil => exact .refl _
  | cons echoes _ ih => exact echoes.events.append ih

/-- **Verbose only logs.** Two histories that differ in nothing but in which of their walkers
and loaders are verbose go the same way, whatever is done and wherever it fails. Every turn has
the same result, a walker stands at the same place in the end, and the stores are equal. Besides
log records the same happens in the same order, and the log of the quiet history is part of the
log of the other. -/
theorem verbose_only_logs (resources : Resources) (s : Store) {turns turns' : List Turn}
    (raised : List.Forall₂ Turn.Raised turns turns') :
    let quiet := history resources turns { store := s }
    let loud := history resources turns' { store := s }
    List.Forall₂ Reply.Echoes quiet.1 loud.1 ∧
      loud.2.store = quiet.2.store ∧
      (∀ i, Option.Rel Walker.Raised (quiet.2.view i) (loud.2.view i)) ∧
      unlogged (eventsOf loud.1) = unlogged (eventsOf quiet.1) ∧
      (log (eventsOf quiet.1)).Sublist (log (eventsOf loud.1)) := by
  intro quiet loud
  have start : Shadows { store := s } { store := s } :=
    ⟨separate_empty s, separate_empty s, rfl, fun _ => .none⟩
  obtain ⟨replies, shadows⟩ := @shadows_history resources _ _ _ _ raised start
  have wide := widened_eventsOf replies
  exact ⟨replies, shadows.store, shadows.views, wide.unlogged, wide.log⟩

def nested : Resources where
  objects := .ofList [("top".toList, "setProperty x=1\ninclude !inner\nlast".toList),
    ("inner".toList, "print <${x}>\ninclude ?!gone".toList)]

def reading (options : Options) : List Turn :=
  [.make (.scanner .script {} false) options false,
    .step (.perform 0 (.openSource (.text "!top".toList) none none)), .step (.perform 0 .next),
    .step (.duplicate 0), .step (.perform 1 .next)]

/-- A missing optional source is logged in any case. The verbose scanner logs
twenty-one more records. -/
theorem verbose_only_logs_nested :
    let quiet := history nested (reading {}) {}
    let loud := history nested (reading { verbose := true }) {}
    unlogged (eventsOf loud.1) = unlogged (eventsOf quiet.1) ∧
      written (eventsOf quiet.1) = "<1> ".toList ∧
      (log (eventsOf quiet.1)).length = 1 ∧ (log (eventsOf loud.1)).length = 22 := by
  intro quiet loud
  have raised : List.Forall₂ Turn.Raised (reading {}) (reading { verbose := true }) :=
    .cons (.make _ {} _) (.cons (.same _) (.cons (.same _) (.cons (.same _) (.cons (.same _) .nil))))
  obtain ⟨-, -, -, same, -⟩ := verbose_only_logs nested {} raised
  exact ⟨same, by decide +kernel, by decide +kernel, by decide +kernel⟩

end Session

end CommandScript
