import CommandScript.Proofs.CursorProtocol
import CommandScript.Proofs.EchoedLines
import CommandScript.Proofs.Reportable

/-!
# Peeking, taking and reading again

Five questions about the next line are answered from different places: the line as it is
written, the text that is taken, the text that is read again, and the two marks of the line.
After a scanner has said that a line follows, the innermost source of its chain holds that
line at its front, and all five speak of it.
-/

namespace CommandScript

/-! ### The innermost source -/

namespace Chain

theorem innermost_mem (c : Chain) : c.innermost ∈ c.frame :: c.included :=
  List.getLastD_mem_cons

/-- The line ahead in the innermost source is the one that is peeked at. -/
theorem peek?_of_ahead {c : Chain} {line : Line} {ahead : List Line}
    (h : c.innermost.cursor.ahead = line :: ahead) : c.peek? = some line.text := by
  obtain ⟨f, included⟩ := c
  have front : (Chain.innermost ⟨f, included⟩).cursor.peek? = some line.text := by
    rw [Cursor.peek?, h, List.head?_cons, Option.map_some]
  rcases List.eq_nil_or_concat included with rfl | ⟨outer, g, rfl⟩
  · simpa [peek?, innermost] using front
  · have last : Chain.innermost ⟨f, outer.concat g⟩ = g := by simp [innermost]
    rw [last] at front
    simp [peek?, front]

end Chain

section

variable {settings : Settings} {f : Frame} {included : List Frame}

/-- A chain before an ordinary line has that line ahead in its innermost source. -/
theorem Ready.innermost {depth : Nat} (h : Ready settings depth f included) :
    ∃ line ahead, (Chain.innermost ⟨f, included⟩).cursor.ahead = line :: ahead ∧
      settings.kind.recognizes line.text = false := by
  induction depth generalizing f included with
  | zero => exact h.elim
  | succ depth ih =>
    cases included with
    | nil => exact h
    | cons g rest =>
      have ready : Ready settings depth g rest := h
      rw [Chain.innermost_cons]
      exact ih ready

/-- Before an ordinary line, settling executes nothing. -/
theorem Ready.not_executes {resources : Resources} {depth : Nat}
    (h : Ready settings depth f included) (s : Store) (x : ExecutedLine) :
    ¬ Executes resources depth settings f included s x := by
  induction depth generalizing f included with
  | zero => exact h.elim
  | succ depth ih =>
    cases included with
    | nil =>
      obtain ⟨line, ahead, hahead, ordinary⟩ := h
      rw [Executes, Frame.started_of_reading (Frame.reading_of_ahead hahead), hahead]
      -- each way to execute something begins with a built-in line
      rintro (⟨recognized, -⟩ | ⟨recognized, -, -⟩ | ⟨recognized, -, -⟩ | ⟨recognized, -, -⟩ |
        ⟨recognized, -, -, -⟩)
      all_goals exact absurd (recognized.symm.trans ordinary) (by decide)
    | cons g rest =>
      have ready : Ready settings depth g rest := h
      have still : settle resources depth settings g rest s = ⟨.ok true, (⟨g, rest⟩, s), []⟩ :=
        @settle_of_atRest resources settings depth ⟨g, rest⟩ true ready s
      rw [Executes]
      rintro (inside | ⟨c, s', events, ended, -⟩)
      · exact ih ready inside
      · rw [still] at ended
        cases ended

/-- Taking a line surfaces the line ahead in the innermost source, and moves that source only. -/
theorem takeNext_of_ahead {line : Line} {ahead : List Line}
    (h : (Chain.innermost ⟨f, included⟩).cursor.ahead = line :: ahead) (s : Store) :
    ∃ place c, c.innermost = (Chain.innermost ⟨f, included⟩).moved line ahead ∧
      takeNext settings f included s =
        ⟨(surface settings place line s).result.map some, (c, s),
          (surface settings place line s).events⟩ := by
  induction included generalizing f with
  | nil =>
    have front : f.cursor.ahead = line :: ahead := h
    refine ⟨(f.moved line ahead).cursor.state, ⟨f.moved line ahead, []⟩, rfl, ?_⟩
    simp only [takeNext, front, state_surface]
  | cons g rest ih =>
    rw [Chain.innermost_cons] at h ⊢
    obtain ⟨place, c, moved, taken⟩ := ih h
    refine ⟨place, ⟨f.cleared, c.frame :: c.included⟩, ?_, ?_⟩
    · rw [Chain.innermost_cons, moved]
    · rw [takeNext, taken, Outcome.mapState_mk]

/-- Surfacing a line gives its expansion. -/
theorem result_surface (place : Text) (line : Line) (s : Store) :
    (surface settings place line s).result =
      settings.expander.expand s.registry (withoutEcho line.text) := by
  have gives : Act.Wp (surface settings place line)
      (fun u _ => settings.expander.expand s.registry (withoutEcho line.text) = .ok u)
      (fun e _ => settings.expander.expand s.registry (withoutEcho line.text) = .error e) s := by
    rw [wp_surface]
    split <;> assumption
  revert gives
  rw [Act.Wp]
  cases (surface settings place line s).result <;> exact Eq.symm

/-- Log records apart, surfacing a line does nothing but announce it if it is echoed. -/
theorem unlogged_surface (place : Text) (line : Line) (s : Store) :
    Event.unlogged (surface settings place line s).events =
      if (splitEcho line.text).1 then settings.echoOf (withoutEcho line.text) s else [] := by
  have announced : Event.unlogged (announce settings line.text s).events =
      if (splitEcho line.text).1 then settings.echoOf (withoutEcho line.text) s else [] := by
    rw [announce, withoutEcho, Settings.echoOf]
    obtain ⟨echoed, bare⟩ := splitEcho line.text
    simp only [Act.bind_apply, Store.expand_apply]
    cases settings.expander.expand s.registry bare with
    | error e => simp [Event.unlogged]
    | ok u =>
      by_cases log : settings.options.verbose && u != bare <;> cases echoed <;>
        simp [log, Event.unlogged]
  rw [surface, logAdvance, Act.bind_apply]
  cases settings.options.verbose with
  | false => exact announced
  | true => exact announced

/-- An echoed line says only what it is. -/
theorem not_sought_echoOf {t : Text} {s : Store} {path : Path} :
    .sought path ∉ settings.echoOf t s := by
  rw [Settings.echoOf]
  split <;> simp

end

namespace Scanner

/-! ### The scanner -/

/-- The line written `n` comes next: it is what peeking shows, the scanner takes it for an
ordinary line, taking it gives its expansion and does nothing but announce it, and the questions
about the line taken last answer with the same line. -/
structure Upcoming (resources : Resources) (sc : Scanner) (s : Store) (n : Text) : Prop where
  peeked : sc.peek? = some n
  ordinary : sc.isBuiltin (some n) = false
  idle : ∀ x, ¬ sc.Performs resources s .next x
  taken : (next resources (sc, s)).result = (expand (withoutEcho n) (sc, s)).result
  refused : ∀ e, (next resources (sc, s)).result = .error e →
    ∃ reference, e = .undefinedReference reference
  kept : (next resources (sc, s)).state.2 = s
  announced : Event.unlogged (next resources (sc, s)).events =
    if (splitEcho n).1 then sc.settings.echoOf (withoutEcho n) s else []
  unopened : ∀ path, .sought path ∉ (next resources (sc, s)).events
  again : (current (next resources (sc, s)).state).result = (next resources (sc, s)).result
  echoed : (next resources (sc, s)).state.1.isEchoed = (splitEcho n).1
  unreplayed : (next resources (sc, s)).state.1.isReplayRequested = false

variable {resources : Resources} {sc : Scanner} {s : Store}

/-- What taking a line comes to, where the innermost source holds it. -/
theorem next_of_ahead
    (ready : Ready sc.settings resources.depthBound sc.chain.frame sc.chain.included)
    {line : Line} {ahead : List Line} (h : sc.chain.innermost.cursor.ahead = line :: ahead) :
    ∃ place c, c.innermost = sc.chain.innermost.moved line ahead ∧
      next resources (sc, s) = ⟨(surface sc.settings place line s).result,
        ({ sc with chain := c }, s), (surface sc.settings place line s).events⟩ := by
  obtain ⟨place, c, moved, taken⟩ := takeNext_of_ahead h s
  refine ⟨place, c, moved, ?_⟩
  rw [next_of_ready ready, taken]
  cases (surface sc.settings place line s).result <;> rfl

theorem result_expand (t : Text) :
    (expand t (sc, s)).result = sc.settings.expander.expand s.registry t := by
  simp only [expand, onStore, Act.onSnd, Act.bind_apply, Act.get_apply, Store.expand_apply]
  cases sc.settings.expander.expand s.registry t <;> rfl

/-- The line taken last is expanded against the registry as it stands. -/
theorem result_current {line : Line} (h : sc.chain.innermost.cursor.current? = some line) :
    (current (sc, s)).result = sc.settings.expander.expand s.registry (withoutEcho line.text) := by
  have again := @result_expand sc s (withoutEcho line.text)
  simp only [current, current?, Act.bind_apply, Act.get_apply, h]
  revert again
  obtain ⟨e | u, st, events⟩ := expand (withoutEcho line.text) (sc, s)
  · exact id
  · exact id

/-- Where an ordinary line is next, everything speaks of that line. -/
theorem upcoming_of_ready (faithful : sc.chain.innermost.cursor.Faithful)
    (ready : Ready sc.settings resources.depthBound sc.chain.frame sc.chain.included) :
    ∃ n, sc.Upcoming resources s n := by
  obtain ⟨line, ahead, hahead, ordinary⟩ := ready.innermost
  obtain ⟨place, c, moved, taken⟩ := @next_of_ahead resources sc s ready line ahead hahead
  have expands : (next resources (sc, s)).result =
      sc.settings.expander.expand s.registry (withoutEcho line.text) := by
    rw [taken, result_surface]
  have events : Event.unlogged (next resources (sc, s)).events =
      if (splitEcho line.text).1 then sc.settings.echoOf (withoutEcho line.text) s else [] := by
    rw [taken, unlogged_surface]
  have current : c.innermost.cursor.current? = some line := by
    rw [moved]
    exact faithful.current?_moved hahead
  refine ⟨line.text, Chain.peek?_of_ahead hahead, ordinary, ?_, ?_, ?_, ?_, events, ?_, ?_, ?_, ?_⟩
  · rintro x (⟨-, executes⟩ | _ | _)
    exact ready.not_executes s x executes
  · rw [expands, result_expand]
  · intro e refused
    exact Expander.expand_error s.registry (expands.symm.trans refused)
  · rw [taken]
  · intro path sought
    have outside : .sought path ∈ Event.unlogged (next resources (sc, s)).events :=
      List.mem_filter.mpr ⟨sought, rfl⟩
    rw [events] at outside
    split at outside
    · exact not_sought_echoOf outside
    · cases outside
  · rw [expands, taken]
    exact result_current current
  · rw [taken]
    exact congrArg Frame.echoed moved
  · rw [taken]
    exact congrArg Frame.replayRequested moved

end Scanner

namespace Session

/-- **Peeking, taking and reading again agree.** Whatever has happened to walkers that share a
store, and whatever the store holds now: after a scanner has said that a line follows, however
deep that line stands in its included sources, the line that it peeks at is the line that it
takes, and the line that it then reads again. It takes that line for an ordinary one, executes
nothing more before it, opens no file, leaves the store, and writes nothing but the two
announcements of an echoed line. -/
theorem peeked_is_taken {resources : Resources} {s₀ s s' : Store} {turns : List Turn} {i : Nat}
    {sc sc' : Scanner} {events : List Event}
    (there : (history resources turns { store := s₀ }).2.view i = some (.scanner sc))
    (asked : Scanner.hasNext resources (sc, s) = ⟨.ok true, (sc', s'), events⟩) :
    ∃ n, sc'.Upcoming resources s' n := by
  have faithful : Walker.Faithful (.scanner sc') := by
    have kept := (invariant_faithful resources).perform
      ((invariant_faithful resources).reached there) s .hasNext
    simp only [Run.perform, Act.bind_apply, Run.byFamily, asked] at kept
    exact kept
  obtain ⟨-, ready⟩ := Scanner.ready_of_hasNext asked
  refine Scanner.upcoming_of_ready (faithful _ ?_) ready
  exact List.mem_map_of_mem sc'.chain.innermost_mem

def echoedLeaf : Resources where
  objects := .ofList [("mid".toList, "include !leaf\nm".toList),
    ("leaf".toList, "echo a $\x7bx\x7d".toList)]

def openedAbove : List Turn :=
  [.make (.scanner .script {} false) {} false,
    .step (.perform 0 (.openSource (.text "setProperty x=1\ninclude !mid\nlast") none none))]

/-- What a scanner peeks at, once it has said that a line follows. -/
def peekedLater : Walker → Option (Text × Bool)
  | .scanner sc =>
    match Scanner.hasNext echoedLeaf (sc, {}) with
    | ⟨.ok true, (sc', _), _⟩ => sc'.peek?.map (·, sc'.nesting == 2)
    | _ => none
  | _ => none

/-- The line stands two sources deep, and is announced when it is taken. -/
theorem peeked_is_taken_echoed :
    ∃ sc sc' s' events,
      (history echoedLeaf openedAbove {}).2.view 0 = some (.scanner sc) ∧
      Scanner.hasNext echoedLeaf (sc, {}) = ⟨.ok true, (sc', s'), events⟩ ∧
      sc'.nesting = 2 ∧ sc'.Upcoming echoedLeaf s' "echo a $\x7bx\x7d".toList := by
  have seen : ((history echoedLeaf openedAbove {}).2.view 0).bind peekedLater =
      some ("echo a $\x7bx\x7d".toList, true) := by
    decide +kernel
  obtain ⟨w, there, peeks⟩ := Option.bind_eq_some_iff.mp seen
  revert peeks
  unfold peekedLater
  split
  · rename_i sc
    split
    · rename_i sc' s' events asked
      intro peeks
      obtain ⟨n, peeked, both⟩ := Option.map_eq_some_iff.mp peeks
      obtain ⟨rfl, deep⟩ := Prod.mk.inj both
      obtain ⟨m, upcoming⟩ := peeked_is_taken there asked
      obtain rfl : _ = m := Option.some.inj (peeked.symm.trans upcoming.peeked)
      exact ⟨sc, sc', s', events, there, asked, by simpa using deep, upcoming⟩
    · rintro ⟨⟩
  · rintro ⟨⟩

end Session

end CommandScript
