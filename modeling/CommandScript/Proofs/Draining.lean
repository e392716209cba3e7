import CommandScript.Proofs.Depth
import CommandScript.Proofs.Loading
import CommandScript.Proofs.Soundness

/-!
# Draining is walking

A scanner keeps a chain of half-read sources and settles it before every line, while the
walk is one recursion. They agree because of what is left to do: at every moment the
chain stands for a walk over the lines ahead of its innermost source, followed by the
lines ahead of the source that includes it, and so on outwards. Settling does the part
of that walk up to the next ordinary line, and taking the line does that line.
-/

namespace CommandScript

def Chain.places (c : Chain) : List Text := (c.frame :: c.included).map (·.cursor.state)

def walkChain (resources : Resources) : Nat → Site → Frame → List Frame → Store → Walked
  | 0, _, _, _, s => { fault := some .tooDeep, store := s }
  | depth + 1, site, f, included, s =>
    let own : Store → Walked :=
      walk resources (depth + 1) site (f.cursor.name.getD []) f.cursor.ahead
    match included with
    | [] => own s
    | g :: rest => (walkChain resources depth (site.within f.cursor.state) g rest s).andThen own

theorem walkChain_single (resources : Resources) (depth : Nat) (site : Site) (f : Frame)
    (s : Store) :
    walkChain resources depth site f [] s =
      walk resources depth site (f.cursor.name.getD []) f.cursor.ahead s := by
  cases depth <;> rfl

/-- Settling did the first part of a walk: all of it, or up to a chain that stands for
the rest. -/
def Settled.Begins (resources : Resources) (depth : Nat) (site : Site) (w : Walked) : Settled → Prop
  | ⟨.error e, (_, s), events⟩ => w = ⟨[], some e, s, events⟩
  | ⟨.ok false, (_, s), events⟩ => w = ⟨[], none, s, events⟩
  | ⟨.ok true, (c, s), events⟩ =>
    w = (walkChain resources depth site c.frame c.included s).after events

section

variable {resources : Resources} {depth : Nat} {site : Site}

theorem Settled.Begins.after {o : Settled} {w : Walked} {earlier : List Event}
    (h : Begins resources depth site w o) :
    Begins resources depth site (w.after earlier) (o.after earlier) := by
  obtain ⟨_ | _ | _, ⟨c, s⟩, events⟩ := o
  · exact congrArg (Walked.after earlier) h
  · exact congrArg (Walked.after earlier) h
  · exact (congrArg (Walked.after earlier) h).trans (Walked.after_after ..)

/-- The place where a line is executed is the place where the cursor stands behind it. -/
theorem walkLine_recognized {load : Text → Act Store Table}
    {visit : Text → Frame → Store → Walked} {f : Frame} {line : Line} {ahead : List Line}
    (hf : f.cursor.Sound) (hahead : f.cursor.ahead = line :: ahead)
    (hline : site.settings.kind.recognizes line.text) (s : Store) :
    walkLine resources site load visit (f.cursor.name.getD []) line s =
      let place := (f.moved line ahead).cursor.state
      match executeLine resources site.settings load place line s with
      | ⟨.error e, s, events⟩ => ⟨[], some e, s, events⟩
      | ⟨.ok (.entered g), s, events⟩ => (visit place g s).after events
      | ⟨.ok _, s, events⟩ => ⟨[], none, s, events⟩ := by
  have place : (f.moved line ahead).cursor.state = line.place (f.cursor.name.getD []) :=
    hf.state_moved hahead
  rw [place]
  exact if_pos hline

/-- Settling one source begins its walk if settling what it includes does. -/
theorem LinesSettle.begins {load : Text → Act Store Table} {enter : Frame → Store → Settled}
    {visit : Text → Frame → Store → Walked}
    (hwalk : ∀ name lines s, walk resources (depth + 1) site name lines s =
      walkLines resources site load visit name lines s)
    (henter : ∀ place g s, Effect.Sound (.entered g) →
      Settled.Begins resources depth (site.within place) (visit place g s) (enter g s))
    {lines : List Line} {f : Frame} {s : Store} {o : Settled}
    (run : LinesSettle resources site.settings load enter lines f s o) (hf : f.cursor.Sound)
    (hahead : f.cursor.ahead = lines) :
    Settled.Begins resources (depth + 1) site
      (walkLines resources site load visit (f.cursor.name.getD []) lines s) o := by
  have visited {place : Text} {line : Line} {g : Frame} {c : Chain} {s t u : Store}
      {result : Except Error Bool} {early inner : List Event}
      (executed : executeLine resources site.settings load place line s =
        ⟨.ok (.entered g), t, early⟩) (entered : enter g t = ⟨result, (c, u), inner⟩) :
      Settled.Begins resources depth (site.within place) (visit place g t)
        ⟨result, (c, u), inner⟩ := by
    have begun := henter place g t ((sound_executeLine _ line s).value executed)
    rwa [entered] at begun
  induction run with
  | ended => rfl
  | @ordinary line ahead f s other =>
    have whole := hwalk (f.cursor.name.getD []) (line :: ahead) s
    rw [← hahead] at whole ⊢
    exact whole.symm
  | failed recognized executed =>
    rw [walkLines, walkLine_recognized hf hahead recognized]
    simp only [executed]
    rfl
  | @inside line ahead f g s t u c events inner result recognized executed entered unfinished =>
    have begun := visited executed entered
    rw [walkLines, walkLine_recognized hf hahead recognized]
    simp only [executed]
    rcases result with e | _ | _
    · have failed : visit (f.moved line ahead).cursor.state g t = ⟨[], some e, u, inner⟩ := begun
      rw [failed]
      rfl
    · exact absurd rfl unfinished
    · have more : visit (f.moved line ahead).cursor.state g t = (walkChain resources depth
        (site.within (f.moved line ahead).cursor.state) c.frame c.included u).after inner := begun
      have rest : walk resources (depth + 1) site (f.cursor.name.getD []) ahead =
          walkLines resources site load visit (f.cursor.name.getD []) ahead :=
        funext (hwalk _ _)
      rw [more, Walked.after_after, Walked.andThen_after, ← rest]
      rfl
  | @passed line ahead f f' s t o events recognized goes rest ih =>
    have later := ih (goes.sound hahead hf) goes.ahead
    rw [goes.cursor] at later
    rw [walkLines, walkLine_recognized hf hahead recognized]
    cases goes with
    | done executed =>
      simp only [executed, Walked.andThen_quiet]
      exact later.after
    | replayed executed =>
      simp only [executed, Walked.andThen_quiet]
      exact later.after
    | @behind g c t' u early inner executed ended =>
      have finished : visit (f.moved line ahead).cursor.state g t' = ⟨[], none, t, inner⟩ :=
        visited executed ended
      simp only [executed, finished, Walked.after_mk, Walked.andThen_quiet]
      exact later.after

/-- Taking the line that follows did the first part of a walk: the line, which a walk
that loads records refuses, or an error. -/
def Walked.Takes (resources : Resources) (depth : Nat) (site : Site) (w : Walked) :
    Outcome (Chain × Store) (Option Text) → Prop
  | ⟨.error e, (_, s), events⟩ => w = ⟨[], some e, s, events⟩
  | ⟨.ok none, _, _⟩ => False
  | ⟨.ok (some text), (c, s), events⟩ =>
    if site.loading then
      w = ⟨[], some (.notARecord (Text.joinWith " .. --> .. " (site.above ++ c.places))), s, events⟩
    else
      w = ((walkChain resources depth site c.frame c.included s).following
        (text, c.innermost.echoed)).after events

theorem takeNext_takes {f : Frame} {included : List Frame} {s : Store}
    (h : Chain.Sound ⟨f, included⟩) (ready : Ready site.settings depth f included) :
    (walkChain resources depth site f included s).Takes resources depth site
      (takeNext site.settings f included s) := by
  induction depth generalizing site f included with
  | zero => exact ready.elim
  | succ depth ih =>
    cases included with
    | nil =>
      obtain ⟨line, ahead, hahead, hline⟩ := ready
      have hplace := (Chain.sound_single.mp h).state_moved hahead
      simp only [walkChain, walk, hahead, walkLines, walkLine, hline, Bool.false_eq_true, if_false,
        takeNext, Frame.cursor_moved, hplace]
      obtain ⟨e | text, s', events⟩ :=
        surface site.settings (line.place (f.cursor.name.getD [])) line s
      · rfl
      · have places : Chain.places ⟨f.moved line ahead, []⟩ = [line.place (f.cursor.name.getD [])] :=
          congrArg (fun place => [place]) hplace
        show if site.loading then _ else _
        split
        · rw [places]
          rfl
        · rfl
    | cons g rest =>
      obtain ⟨-, hrest⟩ := Chain.sound_cons.mp h
      have inner : (walkChain resources depth (site.within f.cursor.state) g rest s).Takes resources
          depth (site.within f.cursor.state) (takeNext site.settings g rest s) :=
        ih hrest ready
      simp only [walkChain, takeNext]
      revert inner
      generalize walkChain resources depth (site.within f.cursor.state) g rest s = w
      obtain ⟨e | _ | text, ⟨c, s'⟩, events⟩ := takeNext site.settings g rest s
      · intro inner
        have failed : w = ⟨[], some e, s', events⟩ := inner
        rw [failed]
        rfl
      · exact False.elim
      · intro inner
        show if site.loading then _ else _
        have inner : if site.loading then _ else _ := inner
        split
        · rw [if_pos ‹_›] at inner
          have above : site.above ++ Chain.places ⟨f.cleared, c.frame :: c.included⟩ =
              (site.within f.cursor.state).above ++ c.places :=
            List.append_cons site.above f.cursor.state c.places
          rw [inner, above]
          rfl
        · rw [if_neg ‹_›] at inner
          have innermost : Chain.innermost ⟨f.cleared, c.frame :: c.included⟩ = c.innermost :=
            List.getLastD_cons
          rw [inner, Walked.andThen_after, Walked.andThen_following, ← innermost]
          rfl

def Walked.loaded (name : Text) : Walked → Outcome Store Table
  | ⟨_, some e, s, events⟩ => ⟨.error e, s, events⟩
  | ⟨_, none, s, events⟩ =>
    ⟨.ok s.target, s, events ++
      [.logged ⟨.debug, .properties, "Loaded " ++ Text.ofNat s.target.size ++
        " entries from [" ++ name ++ "]"⟩]⟩

/-- A load hands out what the walk comes to that settling begins. -/
theorem tableOf_of_begins {settings : Settings} {f : Frame} {included : List Frame} {s : Store}
    {w : Walked} (h : Chain.Sound ⟨f, included⟩)
    (begun : Settled.Begins resources depth { settings := settings, loading := true } w
      (settle resources depth settings f included s)) :
    tableOf settings (settle resources depth settings f included s) =
      w.loaded (f.cursor.name.getD []) := by
  have source := @source_settle resources settings depth f included s
  have sound := @sound_settle resources settings depth f included s h
  have rest := @settle_atRest resources settings depth f included s true
  generalize settle resources depth settings f included s = o at begun source sound rest ⊢
  obtain ⟨e | _ | _, ⟨c, t⟩, inner⟩ := o
  · have walked : w = ⟨[], some e, t, inner⟩ := begun
    rw [walked]
    rfl
  · have walked : w = ⟨[], none, t, inner⟩ := begun
    have name : c.frame.cursor.name = f.cursor.name := congrArg Prod.fst source
    rw [walked, tableOf, name]
    rfl
  · have walked : w = (walkChain resources depth { settings := settings, loading := true } c.frame
        c.included t).after inner := begun
    have taken : (walkChain resources depth { settings := settings, loading := true } c.frame
        c.included t).Takes resources depth { settings := settings, loading := true }
        (takeNext settings c.frame c.included t) := takeNext_takes sound (rest rfl)
    rw [walked, tableOf]
    generalize walkChain resources depth { settings := settings, loading := true } c.frame
      c.included t = more at taken ⊢
    generalize takeNext settings c.frame c.included t = o at taken ⊢
    obtain ⟨e | _ | text, ⟨c', u⟩, last⟩ := o
    · have failed : more = ⟨[], some e, u, last⟩ := taken
      rw [failed]
      rfl
    · exact taken.elim
    · have refused : more = ⟨[], some (.notARecord c'.state), u, last⟩ := taken
      rw [refused]
      rfl

/-- Loading by settling is loading by a walk, if settling begins the walk. -/
theorem loadAt_eq_loadByWalk {settings : Settings} {depth : Nat}
    (hsettle : ∀ (f : Frame) (s : Store), f.cursor.Sound → f.cursor.ahead = f.cursor.lines →
      Settled.Begins resources depth (.forRecords settings)
        (walk resources depth (.forRecords settings) (f.cursor.name.getD []) f.cursor.lines s)
        (settle resources depth settings.forRecords f [] s)) :
    loadAt resources depth settings =
      loadByWalk resources settings (fun f => walk resources depth (.forRecords settings)
        (f.cursor.name.getD []) f.cursor.lines) := by
  refine funext fun reference => congrArg withOwnTarget (funext fun s => ?_)
  rw [readRecords_apply, openFrame_apply]
  rcases (Source.text reference).read resources with e | ⟨name, raw⟩
  · rfl
  · have hf := Cursor.sound_opened name (settings.forRecords.linesOf raw)
    dsimp only [Except.map]
    rw [tableOf_of_begins (Chain.sound_single.mpr hf)
      (hsettle { cursor := .opened name (settings.forRecords.linesOf raw) } s hf rfl)]
    rcases walk resources depth (.forRecords settings) _ _ s with ⟨lines, _ | e, t, events⟩
    · simp only [Walked.loaded, Outcome.after_mk, List.append_assoc]
    · rfl

theorem settle_begins {f : Frame} {included : List Frame} {s : Store}
    (h : Chain.Sound ⟨f, included⟩) :
    Settled.Begins resources depth site (walkChain resources depth site f included s)
      (settle resources depth site.settings f included s) := by
  induction depth generalizing site f included s with
  | zero => rfl
  | succ depth ih =>
    have whole (site : Site) (f : Frame) (s : Store) (hf : f.cursor.Sound)
        (hstart : f.cursor.ahead = f.cursor.lines) :
        Settled.Begins resources depth site
          (walk resources depth site (f.cursor.name.getD []) f.cursor.lines s)
          (settle resources depth site.settings f [] s) := by
      have begun := @ih site f [] s (Chain.sound_single.mpr hf)
      rwa [walkChain_single, hstart] at begun
    have own (s : Store) (hf : f.cursor.Sound) :
        Settled.Begins resources (depth + 1) site
          (walk resources (depth + 1) site (f.cursor.name.getD []) f.cursor.ahead s)
          (settle resources (depth + 1) site.settings f [] s) := by
      have settling := settle_single resources depth site.settings f s
      rw [loadAt_eq_loadByWalk (whole (.forRecords site.settings))] at settling
      have name : f.started.cursor.name = f.cursor.name := congrArg Prod.fst f.source_started
      have ahead : f.started.cursor.ahead = f.cursor.ahead := by
        rw [Frame.started_cursor, hf.ahead_started]
      rw [← name, ← ahead]
      refine settling.begins (fun _ _ _ => rfl) (fun place g s hg => ?_) ?_ rfl
      · exact whole (site.within place) g s hg.1 hg.2
      · rw [Frame.started_cursor]
        exact hf.started
    cases included with
    | nil => exact own s (Chain.sound_single.mp h)
    | cons g rest =>
      obtain ⟨hf, hrest⟩ := Chain.sound_cons.mp h
      have begun : Settled.Begins resources depth (site.within f.cursor.state)
          (walkChain resources depth (site.within f.cursor.state) g rest s)
          (settle resources depth site.settings g rest s) := ih hrest
      rw [settle]
      simp only [walkChain]
      generalize settle resources depth site.settings g rest s = o at begun ⊢
      obtain ⟨e | _ | _, ⟨c, s'⟩, events⟩ := o
      · have failed : walkChain resources depth (site.within f.cursor.state) g rest s =
            ⟨[], some e, s', events⟩ := begun
        rw [failed]
        rfl
      · have ended : walkChain resources depth (site.within f.cursor.state) g rest s =
            ⟨[], none, s', events⟩ := begun
        rw [ended]
        exact (own s' hf).after
      · have more : walkChain resources depth (site.within f.cursor.state) g rest s =
            (walkChain resources depth (site.within f.cursor.state) c.frame c.included s').after
              events := begun
        rw [more, Walked.andThen_after]
        rfl

end

/-! ### Whole runs -/

/-- A drain comes to one end only. -/
theorem Drains.unique {resources : Resources} {st : Scanner × Store} {w w' : Walked}
    (h : Drains resources st w) (h' : Drains resources st w') : w = w' := by
  induction h generalizing w' with
  | ended asked =>
    cases h' with
    | ended asked' => cases asked.symm.trans asked'; rfl
    | failed asked' => cases asked.symm.trans asked'
    | refused asked' => cases asked.symm.trans asked'
    | took asked' => cases asked.symm.trans asked'
  | failed asked =>
    cases h' with
    | ended asked' => cases asked.symm.trans asked'
    | failed asked' => cases asked.symm.trans asked'; rfl
    | refused asked' => cases asked.symm.trans asked'
    | took asked' => cases asked.symm.trans asked'
  | refused asked taken =>
    cases h' with
    | ended asked' => cases asked.symm.trans asked'
    | failed asked' => cases asked.symm.trans asked'
    | refused asked' taken' =>
      cases asked.symm.trans asked'
      cases taken.symm.trans taken'
      rfl
    | took asked' taken' =>
      cases asked.symm.trans asked'
      cases taken.symm.trans taken'
  | took asked taken more ih =>
    cases h' with
    | ended asked' => cases asked.symm.trans asked'
    | failed asked' => cases asked.symm.trans asked'
    | refused asked' taken' =>
      cases asked.symm.trans asked'
      cases taken.symm.trans taken'
    | took asked' taken' more' =>
      cases asked.symm.trans asked'
      cases taken.symm.trans taken'
      rw [ih more']

namespace Scanner

variable {resources : Resources} {sc : Scanner} {s : Store}

def remaining (resources : Resources) (sc : Scanner) (s : Store) : Walked :=
  walkChain resources resources.depthBound { settings := sc.settings } sc.chain.frame
    sc.chain.included s

/-- Where an ordinary line is next, the scanner takes it. -/
theorem next_of_ready
    (h : Ready sc.settings resources.depthBound sc.chain.frame sc.chain.included) :
    next resources (sc, s) =
      match takeNext sc.settings sc.chain.frame sc.chain.included s with
      | ⟨.error e, (c, s), events⟩ => ⟨.error e, ({ sc with chain := c }, s), events⟩
      | ⟨.ok none, (c, s), events⟩ =>
        ⟨.error (.noNextLine c.state), ({ sc with chain := c }, s), events⟩
      | ⟨.ok (some text), (c, s), events⟩ => ⟨.ok text, ({ sc with chain := c }, s), events⟩ := by
  simp only [next, next?, Act.bind_apply, nextLine_of_ready h s]
  obtain ⟨e | _ | text, ⟨c, s'⟩, events⟩ := takeNext sc.settings sc.chain.frame sc.chain.included s
  · rfl
  · simp [Act.bind_apply, state]
  · simp

/-- Draining a scanner does the walk that it has still to do. -/
theorem drains_remaining (h : sc.chain.Sound) (s : Store) :
    Drains resources (sc, s) (sc.remaining resources s) := by
  induction hn : (sc.remaining resources s).lines.length using Nat.strongRecOn
    generalizing sc s with
  | ind n ih =>
    have begun : Settled.Begins resources resources.depthBound { settings := sc.settings }
        (sc.remaining resources s) (settle resources resources.depthBound sc.settings
          sc.chain.frame sc.chain.included s) := settle_begins h
    have sound := @sound_settle resources sc.settings resources.depthBound sc.chain.frame
      sc.chain.included s h
    have rest := @settle_atRest resources sc.settings resources.depthBound sc.chain.frame
      sc.chain.included s true
    have asked {answer : Except Error Bool} {c : Chain} {s' : Store} {events : List Event}
        (hset : settle resources resources.depthBound sc.settings sc.chain.frame
          sc.chain.included s = ⟨answer, (c, s'), events⟩) :
        hasNext resources (sc, s) = ⟨answer, ({ sc with chain := c }, s'), events⟩ := by
      simp only [hasNext, hset, Outcome.mapState_mk]
    rcases hset : settle resources resources.depthBound sc.settings sc.chain.frame
      sc.chain.included s with ⟨e | _ | _, ⟨c, s'⟩, events⟩
    all_goals
      have asked := asked hset
      rw [hset] at begun sound rest
    · have failed : sc.remaining resources s = ⟨[], some e, s', events⟩ := begun
      rw [failed]
      exact .failed asked
    · have ended : sc.remaining resources s = ⟨[], none, s', events⟩ := begun
      rw [ended]
      exact .ended asked
    · have more : sc.remaining resources s =
          (remaining resources { sc with chain := c } s').after events := begun
      have ready : Ready sc.settings resources.depthBound c.frame c.included := rest rfl
      have taken : (remaining resources { sc with chain := c } s').Takes resources
          resources.depthBound { settings := sc.settings }
          (takeNext sc.settings c.frame c.included s') := takeNext_takes sound ready
      have next := @next_of_ready resources { sc with chain := c } s' ready
      have after := @sound_takeNext sc.settings c.frame c.included s' sound
      generalize takeNext sc.settings c.frame c.included s' = o at taken next after
      obtain ⟨e | _ | text, ⟨c', s''⟩, made⟩ := o
      · have failed : remaining resources { sc with chain := c } s' = ⟨[], some e, s'', made⟩ :=
          taken
        rw [more, failed]
        exact .refused asked next
      · exact taken.elim
      · have line : remaining resources { sc with chain := c } s' =
            ((remaining resources { sc with chain := c' } s'').following
              (text, c'.innermost.echoed)).after made := taken
        rw [more, line, Walked.after_after] at hn ⊢
        have shorter : (remaining resources { sc with chain := c' } s'').lines.length < n := by
          rw [← hn]
          exact Nat.lt_succ_self _
        exact .took asked next (ih _ shorter after s'' rfl)

theorem drains_iff (h : sc.chain.Sound) {w : Walked} :
    Drains resources (sc, s) w ↔ w = sc.remaining resources s :=
  ⟨fun hw => hw.unique (drains_remaining h s), fun hw => hw ▸ drains_remaining h s⟩

/-- Opening a source changes no store and leaves a scanner at its start. -/
theorem openSource_ok {source : Source} {trim compress : Option Bool} {sc' : Scanner} {s' : Store}
    {events : List Event}
    (h : openSource resources source trim compress (sc, s) = ⟨.ok (), (sc', s'), events⟩) :
    s' = s ∧ ∃ name raw, source.read resources = .ok (name, raw) ∧
      sc'.chain = ⟨{ cursor := .opened name (sc'.settings.linesOf raw) }, []⟩ := by
  have opened : Act.Wp (openSource resources source trim compress)
      (fun _ st => st.2 = s ∧ ∃ name raw, source.read resources = .ok (name, raw) ∧
        st.1.chain = ⟨{ cursor := .opened name (st.1.settings.linesOf raw) }, []⟩)
      (fun _ _ => True) (sc, s) := by
    simp only [openSource, modifyChain, Act.Wp.bind_iff, Act.Wp.modify_iff, Act.Wp.get_iff,
      wp_openFrame]
    split
    · exact ⟨trivial, _, _, ‹_›, rfl⟩
    · trivial
  exact opened.value h

/-- **Draining is walking.** Draining a scanner from the start of a source comes to an end,
and to the very end of the walk over the lines of that source: the same lines with their
echo marks, the same error if any, the same store and the same events. The bound on the
depth of that walk shows in its own error only. A walk without that error is the walk
with any greater bound, and without cycles among the texts there is no such error. -/
theorem drain_is_walk {source : Source} {trim compress : Option Bool} {sc' : Scanner} {s' : Store}
    {events : List Event}
    (h : openSource resources source trim compress (sc, s) = ⟨.ok (), (sc', s'), events⟩) :
    ∃ name raw, source.read resources = .ok (name, raw) ∧
      let whole (depth : Nat) : Walked :=
        walk resources depth { settings := sc'.settings } name (sc'.settings.linesOf raw) s'
      (∀ w, Drains resources (sc', s') w ↔ w = whole resources.depthBound) ∧
        ((whole resources.depthBound).fault ≠ some .tooDeep →
          ∀ depth, resources.depthBound ≤ depth → whole depth = whole resources.depthBound) ∧
        (Acyclic resources sc'.settings → (whole resources.depthBound).fault ≠ some .tooDeep) := by
  obtain ⟨rfl, name, raw, hread, hchain⟩ := openSource_ok h
  have sound : sc'.chain.Sound := by
    rw [hchain]
    exact Chain.sound_single.mpr (Cursor.sound_opened ..)
  refine ⟨name, raw, hread, fun w => ?_, fun hfault depth hle => walk_eq_of_le hfault hle,
    fun hacyclic => walk_acyclic hacyclic name raw s'⟩
  rw [drains_iff sound, remaining, hchain, walkChain_single]
  rfl

def innerText : Text := "a $\x7bx\x7d\nsetProperty x=1".toList

def outerText : Text := "include !inner\necho bb\ninclude !inner\nprint c".toList

def nestedResources : Resources where
  objects := .ofList [("outer".toList, outerText), ("inner".toList, innerText)]

theorem nestedResources_acyclic : Acyclic nestedResources { kind := .script } := by
  have contents : ∀ raw ∈ nestedResources.contents, raw = outerText ∨ raw = innerText := by
    decide +kernel
  have settled : ∀ how ∈ [{ kind := .script }, Settings.forRecords { kind := .script }],
      ∀ line ∈ how.linesOf innerText, how.kind.builtin? (withoutEcho line.text) ∈
        [none, some (.setProperty "x".toList "1".toList)] := by
    decide +kernel
  have included : ∀ how ∈ [{ kind := .script }, Settings.forRecords { kind := .script }],
      ∀ line ∈ how.linesOf outerText, how.kind.builtin? (withoutEcho line.text) ∈
        [none, some (.includeSource "!inner".toList), some (.print "c".toList)] := by
    decide +kernel
  refine ⟨fun raw => if raw = innerText then 0 else 1, ?_⟩
  rintro how hhow raw hraw how' raw' ⟨line, hline, reference, name, hnames, hread⟩
  rcases contents raw hraw with rfl | rfl
  · have forms := included how hhow line hline
    cases hnames with
    | @included registry written u form expanded =>
      rw [form] at forms
      obtain rfl : written = "!inner".toList := by simpa using forms
      have plain := Expander.expand_plain (e := how.expander) registry
        (show '$' ∉ "!inner".toList by decide)
      have named : "!inner".toList = u := Except.ok.inj (plain.symm.trans expanded)
      rw [← named] at hread
      have read : (Source.text (Text.splitOptional "!inner".toList).2).read nestedResources =
          .ok ("!inner".toList, innerText) := rfl
      have inner : innerText = raw' := (Prod.mk.inj (Except.ok.inj (read.symm.trans hread))).2
      rw [← inner]
      decide +kernel
    | loaded form expanded =>
      rw [form] at forms
      simp at forms
  · have forms := settled how hhow line hline
    cases hnames with
    | included form expanded =>
      rw [form] at forms
      simp at forms
    | loaded form expanded =>
      rw [form] at forms
      simp at forms

/-- The outer text, drained: the inner text is walked over twice, and the second walk sees
the variable that the first one set. -/
theorem drain_is_walk_nested :
    let start := openSource nestedResources (.text "!outer".toList) none none
      (new { kind := .script }, { registry := .withGlobals })
    start.result = .ok () ∧ Acyclic nestedResources start.state.1.settings ∧
      ∃ w, Drains nestedResources start.state w ∧ w.fault = none ∧
        w.lines = [("a $\x7bx\x7d".toList, false), ("bb".toList, true), ("a 1".toList, false)] ∧
        Event.written w.events =
          "\tEcho (As-Is): bb\n\tEcho (Macros-substituted): bb\nc ".toList := by
  intro start
  have opened : openSource nestedResources (.text "!outer".toList) none none
      (new { kind := .script }, { registry := .withGlobals }) =
        ⟨.ok (), (start.state.1, start.state.2), start.events⟩ := rfl
  obtain ⟨name, raw, hread, hdrain, -⟩ := drain_is_walk opened
  have read : (Source.text "!outer".toList).read nestedResources =
      .ok ("!outer".toList, outerText) := rfl
  obtain ⟨rfl, rfl⟩ := Prod.mk.inj (Except.ok.inj (read.symm.trans hread))
  exact ⟨rfl, nestedResources_acyclic, _, (hdrain _).mpr rfl, by decide +kernel, by decide +kernel,
    by decide +kernel⟩

end Scanner

end CommandScript
