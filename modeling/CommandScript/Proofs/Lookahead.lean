import CommandScript.Proofs.Expansion
import CommandScript.Proofs.Settling

/-!
# Looking ahead

A caller that takes the lines of a scanner one by one may look at it in between:
ask whether a line follows, see it before it is taken, read the current line again.
Only the first of these questions does any work, and it is work that taking the next
line would do at its start. So looking changes neither the lines nor, once a run has
come to its end, what the run did.
-/

namespace CommandScript

inductive Look where
  | hasNext
  | peek
  | current
  | state
  | echoed
  | replayRequested
  | position
  deriving DecidableEq, Repr

inductive Sight where
  | truth (b : Bool)
  | line (t : Option Text)
  | words (t : Text)
  | place (p : Place)
  deriving DecidableEq, Repr

inductive Call where
  | take
  | look (l : Look)
  deriving DecidableEq, Repr

/-- What a run of calls came to: the lines that were taken, `none` where no more
followed, and the error that ended the run. -/
structure Dialogue where
  values : List (Option Text) := []
  fault : Option Error := none
  state : Scanner × Store
  events : List Event := []

def Event.unlogged (events : List Event) : List Event :=
  events.filter fun
    | logged _ => false
    | _ => true

namespace Dialogue

def after (earlier : List Event) (d : Dialogue) : Dialogue :=
  { d with events := earlier ++ d.events }

def following (value : Option Text) (d : Dialogue) : Dialogue :=
  { d with values := value :: d.values }

theorem after_after (earlier late : List Event) (d : Dialogue) :
    (d.after late).after earlier = d.after (earlier ++ late) := by
  simp only [after, List.append_assoc]

/-- How often the caller tried to take a line. A look that fails counts as the take
that it came before. -/
def takes (d : Dialogue) : Nat :=
  match d.fault with
  | none => d.values.length
  | some _ => d.values.length + 1

/-- The run failed or came to the end of the lines. -/
def Over (d : Dialogue) : Prop := d.fault.isSome ∨ none ∈ d.values

/-- Two runs left the same scanner and store, wrote the same output, paused and
requested replays alike; only their logs may differ. -/
def Same (d e : Dialogue) : Prop :=
  d.state = e.state ∧ Event.unlogged d.events = Event.unlogged e.events

end Dialogue

namespace Scanner

def look (resources : Resources) : Look → Scan Sight
  | .hasNext => do return .truth (← hasNext resources)
  | .peek => do return .line (← Act.get).1.peek?
  | .current => do return .line (← current?)
  | .state => do return .words (← Act.get).1.state
  | .echoed => do return .truth (← Act.get).1.isEchoed
  | .replayRequested => do return .truth (← Act.get).1.isReplayRequested
  | .position => do return .place (← Act.get).1.position?

def converse (resources : Resources) : List Call → Scanner × Store → Dialogue
  | [], st => { state := st }
  | .take :: rest, st =>
    match next? resources st with
    | ⟨.error e, st, events⟩ => { fault := some e, state := st, events := events }
    | ⟨.ok value, st, events⟩ => ((converse resources rest st).following value).after events
  | .look l :: rest, st =>
    match look resources l st with
    | ⟨.error e, st, events⟩ => { fault := some e, state := st, events := events }
    | ⟨.ok _, st, events⟩ => (converse resources rest st).after events

/-- The run that takes `n` times and never looks. -/
def plainly (resources : Resources) (n : Nat) (st : Scanner × Store) : Dialogue :=
  converse resources (List.replicate n .take) st

end Scanner

/-! ### Asking and taking -/

namespace Scanner

variable {resources : Resources} {a b : Scanner × Store} {answer : Bool} {early events : List Event}

/-- The scanner has been read to its end. -/
def Finished (resources : Resources) (st : Scanner × Store) : Prop :=
  hasNext resources st = ⟨.ok false, st, []⟩

/-- A second question for a next line is answered like the first, and nothing happens, whatever has
become of the store. -/
theorem hasNext_still (h : hasNext resources a = ⟨.ok answer, b, events⟩) (t : Store) :
    hasNext resources (b.1, t) = ⟨.ok answer, (b.1, t), []⟩ := by
  obtain ⟨sc, s⟩ := a
  simp only [hasNext] at h
  generalize hset : settle resources resources.depthBound sc.settings sc.chain.frame
    sc.chain.included s = o at h
  obtain ⟨result, ⟨c, s'⟩, made⟩ := o
  cases h
  simp only [hasNext, settle_idem hset, Outcome.mapState_mk]

theorem hasNext_again (h : hasNext resources a = ⟨.ok answer, b, events⟩) :
    hasNext resources b = ⟨.ok answer, b, []⟩ := hasNext_still h b.2

/-- Taking a line does first what asking for it does. -/
theorem next?_of_hasNext (h : hasNext resources a = ⟨.ok answer, b, events⟩) :
    next? resources a = (next? resources b).after events := by
  obtain ⟨sc, s⟩ := a
  simp only [hasNext] at h
  generalize hset : settle resources resources.depthBound sc.settings sc.chain.frame
    sc.chain.included s = o at h
  obtain ⟨result, ⟨c, s'⟩, made⟩ := o
  cases h
  simp only [next?, nextLine_eq, hset, settle_idem hset]
  cases answer with
  | false => simp
  | true => rfl

theorem next?_of_hasNext_error {e : Error} (h : hasNext resources a = ⟨.error e, b, events⟩) :
    next? resources a = ⟨.error e, b, events⟩ := by
  obtain ⟨sc, s⟩ := a
  simp only [hasNext] at h
  generalize hset : settle resources resources.depthBound sc.settings sc.chain.frame
    sc.chain.included s = o at h
  obtain ⟨result, ⟨c, s'⟩, made⟩ := o
  cases h
  simp only [next?, nextLine_eq, hset, Outcome.mapState_mk]

/-- At the end no line is taken. -/
theorem next?_of_finished (h : hasNext resources a = ⟨.ok false, b, events⟩) :
    next? resources a = ⟨.ok none, b, events⟩ := by
  obtain ⟨sc, s⟩ := a
  simp only [hasNext] at h
  generalize hset : settle resources resources.depthBound sc.settings sc.chain.frame
    sc.chain.included s = o at h
  obtain ⟨result, ⟨c, s'⟩, made⟩ := o
  cases h
  simp only [next?, nextLine_eq, hset, Outcome.mapState_mk]

end Scanner

/-- Where an ordinary line is next, a line is taken or its expansion fails. -/
theorem takeNext_of_ready {settings : Settings} {depth : Nat} {f : Frame} {included : List Frame}
    (h : Ready settings depth f included) (s : Store) :
    (takeNext settings f included s).result ≠ .ok none := by
  induction depth generalizing f included with
  | zero => exact h.elim
  | succ depth ih =>
    cases included with
    | nil =>
      obtain ⟨line, ahead, hahead, -⟩ := h
      simp only [takeNext, hahead]
      cases (surface settings (f.moved line ahead).cursor.state line s).result <;>
        simp [Except.map]
    | cons g rest =>
      have ready : Ready settings depth g rest := h
      exact @ih g rest ready

namespace Scanner

variable {resources : Resources} {a b c : Scanner × Store} {early made : List Event}

/-- A scanner that takes no line has been read to its end. -/
theorem finished_of_next? (h : next? resources a = ⟨.ok none, b, made⟩) :
    Finished resources b := by
  obtain ⟨sc, s⟩ := a
  simp only [next?, nextLine_eq] at h
  generalize hset : settle resources resources.depthBound sc.settings sc.chain.frame
    sc.chain.included s = o at h
  obtain ⟨result, ⟨c, s'⟩, events⟩ := o
  match result, hset, h with
  | .error e, _, h => cases h
  | .ok false, hset, h =>
    cases h
    simp only [Finished, hasNext, settle_idem hset, Outcome.mapState_mk]
  | .ok true, hset, h =>
    have rest := @settle_atRest resources sc.settings resources.depthBound sc.chain.frame
      sc.chain.included s true (by rw [hset])
    rw [hset] at rest
    exact absurd (congrArg Outcome.result h) (takeNext_of_ready rest s')

/-- Unknown references stay as they are written. -/
def Lenient (st : Scanner × Store) : Prop := st.1.settings.expander.strict = false

theorem lenient_hasNext (h : Lenient a) : Lenient (hasNext resources a).state := h

theorem lenient_next? (h : Lenient a) : Lenient (next? resources a).state := h

theorem hasNext_of_look {sight : Sight} (h : look resources .hasNext a = ⟨.ok sight, b, made⟩) :
    ∃ answer, hasNext resources a = ⟨.ok answer, b, made⟩ := by
  revert h
  simp only [look, Act.bind_apply]
  generalize hasNext resources a = o
  obtain ⟨_ | answer, after, events⟩ := o
  · intro h
    cases h
  · intro h
    cases h
    exact ⟨answer, by simp⟩

theorem hasNext_of_look_error {e : Error} (h : look resources .hasNext a = ⟨.error e, b, made⟩) :
    hasNext resources a = ⟨.error e, b, made⟩ := by
  revert h
  simp only [look, Act.bind_apply]
  generalize hasNext resources a = o
  obtain ⟨_ | answer, after, events⟩ := o
  · intro h
    cases h
    rfl
  · intro h
    cases h

/-- A look other than the question for a next line only logs. -/
theorem look_quiet (resources : Resources) (h : Lenient a) {l : Look} (hl : l ≠ .hasNext) :
    ∃ sight made, look resources l a = ⟨.ok sight, a, made⟩ ∧ Event.unlogged made = [] := by
  obtain ⟨sc, s⟩ := a
  cases l with
  | hasNext => exact absurd rfl hl
  | current =>
    cases hcur : sc.chain.innermost.cursor.current? with
    | none => exact ⟨.line none, [], by simp [look, current?, Act.bind_apply, hcur], rfl⟩
    | some line =>
      obtain ⟨u, hu⟩ := Expander.expand_ok s.registry h (withoutEcho line.text)
      refine ⟨.line (some u), _, by
        simp [look, current?, expand, onStore, Act.onSnd, Act.bind_apply, Store.expand_apply, hcur,
          hu]; rfl, ?_⟩
      split <;> rfl
  | _ => exact ⟨_, _, rfl, rfl⟩

theorem lenient_look {l : Look} {sight : Sight} (h : Lenient a)
    (hlook : look resources l a = ⟨.ok sight, b, made⟩) : Lenient b := by
  by_cases hl : l = .hasNext
  · subst hl
    obtain ⟨answer, question⟩ := hasNext_of_look hlook
    have after : Lenient (hasNext resources a).state := lenient_hasNext h
    rw [question] at after
    exact after
  · obtain ⟨sight', made', heq, -⟩ := look_quiet resources h hl
    rw [heq] at hlook
    cases hlook
    exact h

/-- What looking makes of a scanner `a` before the next line is taken: nothing, or
what asking for that line makes of it. `early` is what happened meanwhile. -/
inductive Ahead (resources : Resources) (a : Scanner × Store) :
    Scanner × Store → List Event → Prop where
  | idle {early : List Event} (quiet : Event.unlogged early = []) : Ahead resources a a early
  | asked {b : Scanner × Store} {answer : Bool} {made early : List Event}
      (question : hasNext resources a = ⟨.ok answer, b, made⟩)
      (same : Event.unlogged early = Event.unlogged made) : Ahead resources a b early

theorem unlogged_append (early late : List Event) :
    Event.unlogged (early ++ late) = Event.unlogged early ++ Event.unlogged late :=
  List.filter_append early late

namespace Ahead

/-- Taking the line goes on from where looking has come to. -/
theorem next?_eq (h : Ahead resources a b early) :
    ∃ earlier, next? resources a = (next? resources b).after earlier ∧
      Event.unlogged earlier = Event.unlogged early := by
  cases h with
  | idle quiet => exact ⟨[], rfl, quiet.symm⟩
  | asked question same => exact ⟨_, next?_of_hasNext question, same.symm⟩

/-- Looking once more keeps it so. -/
theorem look {l : Look} {sight : Sight} (h : Ahead resources a b early) (hb : Lenient b)
    (hlook : look resources l b = ⟨.ok sight, c, made⟩) : Ahead resources a c (early ++ made) := by
  by_cases hl : l = .hasNext
  · subst hl
    obtain ⟨answer, question⟩ := hasNext_of_look hlook
    cases h with
    | idle quiet => exact .asked question (by rw [unlogged_append, quiet, List.nil_append])
    | asked first same =>
      have again := hasNext_again first
      rw [question] at again
      cases again
      exact .asked first (by rw [List.append_nil, same])
  · obtain ⟨sight', made', heq, quiet⟩ := look_quiet resources hb hl
    rw [heq] at hlook
    cases hlook
    have tail : Event.unlogged (early ++ made) = Event.unlogged early := by
      rw [unlogged_append, quiet, List.append_nil]
    cases h with
    | idle quiet => exact .idle (by rw [tail, quiet])
    | asked first same => exact .asked first (by rw [tail, same])

/-- A look fails where taking the line would have failed, and has done as much. -/
theorem look_error {l : Look} {e : Error} (h : Ahead resources a b early) (hb : Lenient b)
    (hlook : Scanner.look resources l b = ⟨.error e, c, made⟩) :
    ∃ events, next? resources a = ⟨.error e, c, events⟩ ∧
      Event.unlogged events = Event.unlogged (early ++ made) := by
  by_cases hl : l = .hasNext
  · subst hl
    have question := hasNext_of_look_error hlook
    cases h with
    | idle quiet =>
      exact ⟨made, next?_of_hasNext_error question,
        by rw [unlogged_append, quiet, List.nil_append]⟩
    | asked first same =>
      rw [hasNext_again first] at question
      cases question
  · obtain ⟨sight', made', heq, -⟩ := look_quiet resources hb hl
    rw [heq] at hlook
    cases hlook

/-- Looking at a scanner that has been read to its end leaves it there. -/
theorem eq_of_finished (h : Ahead resources a b early) (ha : Finished resources a) :
    b = a ∧ Event.unlogged early = [] := by
  cases h with
  | idle quiet => exact ⟨rfl, quiet⟩
  | asked question same =>
    have first : hasNext resources a = ⟨.ok false, a, []⟩ := ha
    rw [first] at question
    cases question
    exact ⟨rfl, same⟩

end Ahead

/-- A run with looks keeps to the plain run of as many takes: same lines, same fault,
and the same doings once there is nothing more to take. -/
structure Tracks (finished : Prop) (d plain : Dialogue) : Prop where
  values : plain.values = d.values
  fault : plain.fault = d.fault
  ended : finished ∨ d.Over → d.Same plain

theorem tracks_failed {e : Error} {events : List Event} {finished : Prop}
    (hnext : next? resources a = ⟨.error e, c, events⟩)
    (same : Event.unlogged events = Event.unlogged early) :
    Tracks finished ⟨[], some e, c, early⟩ (plainly resources 1 a) := by
  have run : plainly resources 1 a = ⟨[], some e, c, events⟩ := by
    simp only [plainly, List.replicate_one, converse, hnext]
  rw [run]
  exact ⟨rfl, rfl, fun _ => ⟨rfl, same.symm⟩⟩

theorem tracks_taken {value : Option Text} {events : List Event} {d : Dialogue}
    (hnext : next? resources a = ⟨.ok value, c, events⟩)
    (same : Event.unlogged events = Event.unlogged early)
    (h : Tracks (Finished resources c) d (plainly resources d.takes c)) :
    Tracks (Finished resources a) ((d.following value).after early)
      (plainly resources ((d.following value).after early).takes a) := by
  have takes : ((d.following value).after early).takes = d.takes + 1 := by
    cases hf : d.fault <;> simp [Dialogue.takes, Dialogue.following, Dialogue.after, hf]
  have run : plainly resources (d.takes + 1) a =
      ((plainly resources d.takes c).following value).after events := by
    simp only [plainly, List.replicate_succ, converse, hnext]
  rw [takes, run]
  refine ⟨congrArg (value :: ·) h.values, h.fault, fun hover => ?_⟩
  have inner : Finished resources c ∨ d.Over := by
    rcases hover with ha | hfault | hnone
    · rw [next?_of_finished ha] at hnext
      cases hnext
      exact .inl ha
    · exact .inr (.inl hfault)
    · rcases List.mem_cons.mp hnone with rfl | hmem
      · exact .inl (finished_of_next? hnext)
      · exact .inr (.inr hmem)
  obtain ⟨hstate, hevents⟩ := h.ended inner
  exact ⟨hstate, by simp only [Dialogue.after, Dialogue.following, unlogged_append, hevents, same]⟩

theorem converse_tracks {calls : List Call} (hb : Lenient b) (h : Ahead resources a b early) :
    Tracks (Finished resources a) ((converse resources calls b).after early)
      (plainly resources ((converse resources calls b).after early).takes a) := by
  induction calls generalizing a b early with
  | nil =>
    refine ⟨rfl, rfl, fun hover => ?_⟩
    rcases hover with ha | hfault | hnone
    · obtain ⟨rfl, quiet⟩ := h.eq_of_finished ha
      exact ⟨rfl, (congrArg Event.unlogged (List.append_nil early)).trans quiet⟩
    · cases hfault
    · cases hnone
  | cons call rest ih =>
    cases call with
    | take =>
      obtain ⟨earlier, hplain, same⟩ := h.next?_eq
      have hc : Lenient (next? resources b).state := lenient_next? hb
      generalize hnext : next? resources b = o at hplain hc
      obtain ⟨result, c, made⟩ := o
      have both : Event.unlogged (earlier ++ made) = Event.unlogged (early ++ made) := by
        rw [unlogged_append, unlogged_append, same]
      cases result with
      | error e =>
        simp only [converse, hnext]
        exact tracks_failed hplain both
      | ok value =>
        simp only [converse, hnext, Dialogue.after_after]
        exact tracks_taken hplain both (@ih c c [] hc (.idle rfl))
    | look l =>
      generalize hlook : Scanner.look resources l b = o
      obtain ⟨result, c, made⟩ := o
      cases result with
      | error e =>
        obtain ⟨events, hplain, same⟩ := h.look_error hb hlook
        simp only [converse, hlook]
        exact tracks_failed hplain same
      | ok sight =>
        simp only [converse, hlook, Dialogue.after_after]
        exact ih (lenient_look hb hlook) (h.look hb hlook)

/-- **Looking changes nothing.** Where unknown references stay as written, a run with
looks in between takes the same lines as the plain run of as many takes, and fails with
the same error. Once a run is over, both have left the same scanner and store, written
the same output, paused and requested replays alike. Wherever a run stands, a second
question for a next line is answered like the first and nothing happens. -/
theorem looking_changes_nothing {sc : Scanner} (h : sc.settings.expander.strict = false)
    (s : Store) (calls : List Call) :
    let d := converse resources calls (sc, s)
    let plain := plainly resources d.takes (sc, s)
    plain.values = d.values ∧ plain.fault = d.fault ∧ (d.Over → d.Same plain) ∧
      ∀ answer after events, hasNext resources d.state = ⟨.ok answer, after, events⟩ →
        hasNext resources after = ⟨.ok answer, after, []⟩ := by
  have lenient : Lenient (sc, s) := h
  have tracks := @converse_tracks resources (sc, s) (sc, s) [] calls lenient (.idle rfl)
  exact ⟨tracks.values, tracks.fault, fun hover => tracks.ended (.inr hover),
    fun answer after events hasked => hasNext_again hasked⟩

def printingResources : Resources where
  objects := .ofList [("part".toList, "print p\nx $\x7bk\x7d".toList)]

def settingScript : Scanner × Store :=
  (openSource printingResources (.text "setProperty k=v\ninclude !part\ny".toList) none none
    (new { kind := .script }, { registry := .withGlobals })).state

/-- The second look below is a repeated question, the third comes inside the text. -/
theorem looking_changes_nothing_included :
    let calls : List Call :=
      [.look .hasNext, .look .hasNext, .take, .look .current, .take, .look .peek, .take]
    settingScript.1.settings.expander.strict = false ∧
      (converse printingResources calls settingScript).values =
        [some "x v".toList, some "y".toList, none] ∧
      (plainly printingResources 3 settingScript).values =
        [some "x v".toList, some "y".toList, none] ∧
      Event.written (plainly printingResources 3 settingScript).events = "p ".toList := by
  intro calls
  obtain ⟨hvalues, -⟩ := @looking_changes_nothing printingResources
    settingScript.1 rfl settingScript.2 calls
  refine ⟨rfl, by decide +kernel, ?_, by decide +kernel⟩
  exact hvalues.trans (by decide +kernel)

end Scanner

end CommandScript
