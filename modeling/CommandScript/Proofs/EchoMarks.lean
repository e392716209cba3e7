import CommandScript.Proofs.Classification
import CommandScript.Proofs.EchoedLines
import CommandScript.Proofs.PropertiesRoute

/-!
# Echo keywords change nothing else

Some lines of a store are given an echo keyword. A walk stops at the same lines as before, comes
to the same at each of them, and says the chosen lines on the way. A classifier reads the same
lines and tells the same of them.
-/

namespace CommandScript

open Error (Restated)
open Event (unlogged)

/-! ### Walks, line by line -/

theorem Walked.andThen_done (w : Walked) : w.andThen (fun s => { store := s }) = w := by
  obtain ⟨lines, _ | e, s, events⟩ := w
  · simp [andThen]
  · rfl

section

variable {resources : Resources} {depth : Nat} {site : Site} {name : Text}

theorem walk_cons (line : Line) (rest : List Line) (s : Store) :
    walk resources depth site name (line :: rest) s =
      (walk resources depth site name [line] s).andThen (walk resources depth site name rest) := by
  cases depth with
  | zero => rfl
  | succ depth =>
    simp only [walk, walkLines]
    rw [Walked.andThen_done]

theorem walkLines_above (executes : site.loading = false) (above : List Text)
    {load : Text → Act Store Table} {enter enter' : Text → Frame → Store → Walked}
    (same : enter' = enter) (lines : List Line) (s : Store) :
    walkLines resources { site with above := above } load enter' name lines s =
      walkLines resources site load enter name lines s := by
  subst same
  have one (line : Line) (s : Store) :
      walkLine resources { site with above := above } load enter' name line s =
        walkLine resources site load enter' name line s := by
    simp only [walkLine, executes, Bool.false_eq_true, if_false]
  induction lines generalizing s with
  | nil => rfl
  | cons line rest ih =>
    rw [walkLines, walkLines, one]
    exact congrArg _ (funext ih)

/-- Only a walk that loads records tells where its source is included. -/
theorem walk_above (executes : site.loading = false) (above : List Text) (lines : List Line)
    (s : Store) :
    walk resources depth { site with above := above } name lines s =
      walk resources depth site name lines s := by
  induction depth generalizing site above name lines s with
  | zero => rfl
  | succ depth ih =>
    refine walkLines_above executes above ?_ lines s
    funext place g s
    exact @ih (site.within place) _ executes _ _ s

end

/-- A line that a walk stops at, with the store before it and what the walk over it comes to. -/
structure Stop where
  line : Line
  before : Store
  walked : Walked

/-- The lines that are stopped at, up to the first one that fails. -/
def itinerary (visit : Line → Store → Walked) : List Line → Store → List Stop
  | [], _ => []
  | line :: rest, s =>
    let w := visit line s
    ⟨line, s, w⟩ :: if w.fault.isNone then itinerary visit rest w.store else []

def joined (s : Store) : List Stop → Walked
  | [] => { store := s }
  | stop :: rest => stop.walked.andThen fun s => joined s rest

theorem joined_itinerary {visit : Line → Store → Walked} {whole : List Line → Store → Walked}
    (nil : ∀ s, whole [] s = { store := s })
    (cons : ∀ line rest s, whole (line :: rest) s = (visit line s).andThen (whole rest))
    (lines : List Line) (s : Store) : joined s (itinerary visit lines s) = whole lines s := by
  induction lines generalizing s with
  | nil => exact (nil s).symm
  | cons line rest ih =>
    rw [cons, itinerary]
    obtain ⟨surfaced, _ | e, t, events⟩ := visit line s
    · simp only [joined, Walked.andThen, Option.isNone_none, if_true, ih]
    · rfl

/-! ### Stops at echoed lines -/

/-- The walk over an echoed line, beside the walk over the line without its keyword: it says
something first. -/
structure Walked.Echoes (said : List Event) (marked : Bool) (w w' : Walked) : Prop where
  lines : w'.lines = if marked then w.lines.map fun line => (line.1, true) else w.lines
  fault : Option.Rel Restated w.fault w'.fault
  store : w'.store = w.store
  events : unlogged w'.events = said ++ unlogged w.events

def Line.marked (choice : Line × Bool) : Line :=
  if choice.2 then choice.1.withEcho else choice.1

/-- The stop at a line that was chosen or not, beside the stop at the line without its keyword.
The chosen line is said first. If it is no built-in, it has an echo mark when it surfaces. -/
structure Stop.Echoes (settings : Settings) (plain : Stop × Bool) (stop : Stop) : Prop where
  line : stop.line = Line.marked (plain.1.line, plain.2)
  before : stop.before = plain.1.before
  walked : Walked.Echoes
    (if plain.2 then settings.echoOf plain.1.line.text plain.1.before else [])
    (plain.2 && !settings.kind.recognizes plain.1.line.text) plain.1.walked stop.walked

theorem Restated.refl_option (fault : Option Error) : Option.Rel Restated fault fault := by
  cases fault with
  | none => exact .none
  | some e => exact .some (.same e)

theorem Walked.Echoes.refl (w : Walked) : Echoes [] false w w :=
  ⟨rfl, Restated.refl_option w.fault, rfl, rfl⟩

section

variable {resources : Resources} {settings : Settings} {name : Text}

theorem walkLine_withEcho {site : Site} {load : Text → Act Store Table}
    {enter : Text → Frame → Store → Walked} {line : Line} (executes : site.loading = false)
    (henter : ∀ place place', enter place = enter place') (h : line.text.Echoable)
    (single : '\n' ∉ line.text) (s : Store) :
    Walked.Echoes (site.settings.echoOf line.text s) (!site.settings.kind.recognizes line.text)
      (walkLine resources site load enter name line s)
      (walkLine resources site load enter name line.withEcho s) := by
  simp only [walkLine, recognizes_withEcho _ h single, executes]
  split
  · rename_i recognized
    rw [recognized, henter (line.withEcho.place name) (line.place name)]
    obtain ⟨result, state, events⟩ := @announced_executeLine resources site.settings load s line h
      single (line.place name) (line.withEcho.place name)
    generalize executeLine resources site.settings load (line.place name) line s = o at *
    generalize executeLine resources site.settings load (line.withEcho.place name) line.withEcho s
      = o' at *
    obtain ⟨r, t, said⟩ := o
    obtain ⟨r', t', said'⟩ := o'
    obtain rfl : t' = t := state
    cases result with
    | error restated => exact ⟨rfl, .some restated, rfl, events⟩
    | ok effect =>
      cases effect with
      | entered g =>
        refine ⟨rfl, Restated.refl_option _, rfl, ?_⟩
        show unlogged (_ ++ _) = _ ++ unlogged (_ ++ _)
        rw [Scanner.unlogged_append, Scanner.unlogged_append, ← List.append_assoc]
        exact congrArg (· ++ _) events
      | _ => exact ⟨rfl, .none, rfl, events⟩
  · rename_i ordinary
    have unrecognized : site.settings.kind.recognizes line.text = false := by simpa using ordinary
    obtain ⟨result, state, events⟩ := @announced_surface site.settings s line h single
      (line.place name) (line.withEcho.place name)
    rw [unrecognized, splitEcho_withEcho h single]
    generalize surface site.settings (line.place name) line s = o at *
    generalize surface site.settings (line.withEcho.place name) line.withEcho s = o' at *
    obtain ⟨r, t, said⟩ := o
    obtain ⟨r', t', said'⟩ := o'
    obtain rfl : t' = t := state
    cases result with
    | error restated => exact ⟨rfl, .some restated, rfl, events⟩
    | ok text => exact ⟨rfl, .none, rfl, events⟩

def visit (resources : Resources) (settings : Settings) (name : Text) (line : Line) :
    Store → Walked :=
  walk resources resources.depthBound { settings := settings } name [line]

theorem visit_withEcho {line : Line} (h : line.text.Echoable) (single : '\n' ∉ line.text)
    (s : Store) :
    Walked.Echoes (settings.echoOf line.text s) (!settings.kind.recognizes line.text)
      (visit resources settings name line s) (visit resources settings name line.withEcho s) := by
  obtain ⟨depth, hdepth⟩ : ∃ depth, resources.depthBound = depth + 1 :=
    Nat.exists_eq_succ_of_ne_zero (by simp [Resources.depthBound])
  simp only [visit, hdepth, walk, walkLines]
  rw [Walked.andThen_done, Walked.andThen_done]
  refine @walkLine_withEcho resources name { settings := settings } _ _ line rfl ?_ h single s
  intro place place'
  funext g s
  exact @walk_above resources depth (Site.within { settings := settings } place') _ rfl _ _ s

/-- A line that was not chosen stays as it is, and so does what a walk comes to there. -/
theorem stop_echoes {choice : Line × Bool} (stored : choice.1.Stored)
    (echoable : choice.2 = true → choice.1.text.Echoable) (s : Store) :
    Stop.Echoes settings (⟨choice.1, s, visit resources settings name choice.1 s⟩, choice.2)
      ⟨Line.marked choice, s, visit resources settings name (Line.marked choice) s⟩ := by
  obtain ⟨line, chosen⟩ := choice
  refine ⟨rfl, rfl, ?_⟩
  cases chosen with
  | true => exact visit_withEcho (echoable rfl) stored.singleLine s
  | false => exact .refl _

theorem itinerary_echoes {choice : List (Line × Bool)} (stored : ∀ p ∈ choice, p.1.Stored)
    (echoable : ∀ p ∈ choice, p.2 = true → p.1.text.Echoable) (s : Store) :
    List.Forall₂ (Stop.Echoes settings)
      ((itinerary (visit resources settings name) (choice.map (·.1)) s).zip (choice.map (·.2)))
      (itinerary (visit resources settings name) (choice.map Line.marked) s) := by
  induction choice generalizing s with
  | nil => exact .nil
  | cons p rest ih =>
    obtain ⟨storedHere, storedRest⟩ := List.forall_mem_cons.mp stored
    obtain ⟨echoableHere, echoableRest⟩ := List.forall_mem_cons.mp echoable
    have here := @stop_echoes resources settings name p storedHere echoableHere s
    refine .cons here ?_
    have faults : Option.Rel Restated (visit resources settings name p.1 s).fault
        (visit resources settings name (Line.marked p) s).fault := here.walked.fault
    have store : (visit resources settings name (Line.marked p) s).store =
        (visit resources settings name p.1 s).store := here.walked.store
    rw [store]
    generalize (visit resources settings name p.1 s).fault = fault at faults ⊢
    generalize (visit resources settings name (Line.marked p) s).fault = fault' at faults ⊢
    cases faults with
    | none => exact ih storedRest echoableRest _
    | some restated => exact .nil

end

/-! ### Whole drains -/

namespace Event

theorem pauses_unlogged (events : List Event) : pauses (unlogged events) = pauses events :=
  pauses_filter (fun _ => rfl) events

theorem pauses_append (earlier late : List Event) :
    pauses (earlier ++ late) = pauses earlier ++ pauses late :=
  List.filterMap_append ..

theorem replays_append (earlier late : List Event) :
    replays (earlier ++ late) = replays earlier + replays late :=
  List.count_append ..

theorem pauses_echoOf (settings : Settings) (t : Text) (s : Store) :
    pauses (settings.echoOf t s) = [] := by
  rw [Settings.echoOf]
  cases settings.expander.expand s.registry t <;> rfl

theorem replays_echoOf (settings : Settings) (t : Text) (s : Store) :
    replays (settings.echoOf t s) = 0 := by
  rw [Settings.echoOf]
  cases settings.expander.expand s.registry t <;> rfl

end Event

/-- What two walks have in common where echo keywords were put in: all but echo marks, what is
written and the places in errors. -/
structure Walked.Alike (w w' : Walked) : Prop where
  texts : w'.lines.map (·.1) = w.lines.map (·.1)
  pauses : Event.pauses w'.events = Event.pauses w.events
  replays : Event.replays w'.events = Event.replays w.events
  store : w'.store = w.store
  fault : Option.Rel Restated w.fault w'.fault

theorem Walked.Alike.andThen {w w' : Walked} {next next' : Store → Walked} (h : Alike w w')
    (more : ∀ s, Alike (next s) (next' s)) : Alike (w.andThen next) (w'.andThen next') := by
  obtain ⟨lines, fault, s, events⟩ := w
  obtain ⟨lines', fault', s', events'⟩ := w'
  obtain ⟨texts, pauses, replays, rfl, restated⟩ := h
  cases restated with
  | some restated => exact ⟨texts, pauses, replays, rfl, .some restated⟩
  | none =>
    obtain ⟨texts', pauses', replays', store', restated'⟩ := more _
    refine ⟨?_, ?_, ?_, store', restated'⟩
    · simp only [Walked.andThen, List.map_append]
      exact congrArg₂ _ texts texts'
    · simp only [Walked.andThen, Event.pauses_append]
      exact congrArg₂ _ pauses pauses'
    · simp only [Walked.andThen, Event.replays_append]
      exact congrArg₂ _ replays replays'

theorem Stop.Echoes.alike {settings : Settings} {plain : Stop × Bool} {stop : Stop}
    (h : Stop.Echoes settings plain stop) : plain.1.walked.Alike stop.walked := by
  obtain ⟨-, -, lines, fault, store, events⟩ := h
  have asBefore {α : Type} (view : List Event → α) (add : α → α → α)
      (unlog : ∀ l, view (unlogged l) = view l) (append : ∀ l r, view (l ++ r) = add (view l) (view r))
      (nothing : ∀ a, add (view []) a = a)
      (silent : ∀ t s, view (settings.echoOf t s) = view []) :
      view stop.walked.events = view plain.1.walked.events := by
    rw [← unlog, events, append, unlog]
    split
    · rw [silent, nothing]
    · rw [nothing]
  refine ⟨?_, ?_, ?_, store, fault⟩
  · rw [lines]
    split
    · simp
    · rfl
  · exact asBefore Event.pauses (· ++ ·) Event.pauses_unlogged Event.pauses_append
      List.nil_append (Event.pauses_echoOf settings)
  · exact asBefore Event.replays (· + ·) Event.replays_unlogged Event.replays_append
      Nat.zero_add (Event.replays_echoOf settings)

section

variable {resources : Resources} {settings : Settings} {name : Text}

/-- The whole walk of a scanner, made up of its stops. -/
theorem joined_visits (lines : List Line) (s : Store) :
    joined s (itinerary (visit resources settings name) lines s) =
      walk resources resources.depthBound { settings := settings } name lines s := by
  refine joined_itinerary (fun s => ?_) (fun line rest s => walk_cons line rest s) lines s
  obtain ⟨depth, hdepth⟩ : ∃ depth, resources.depthBound = depth + 1 :=
    Nat.exists_eq_succ_of_ne_zero (by simp [Resources.depthBound])
  rw [hdepth]
  rfl

theorem joined_alike {choice : List (Line × Bool)} (stored : ∀ p ∈ choice, p.1.Stored)
    (echoable : ∀ p ∈ choice, p.2 = true → p.1.text.Echoable) (s : Store) :
    (joined s (itinerary (visit resources settings name) (choice.map (·.1)) s)).Alike
      (joined s (itinerary (visit resources settings name) (choice.map Line.marked) s)) := by
  rw [joined_visits, joined_visits]
  induction choice generalizing s with
  | nil => exact ⟨rfl, rfl, rfl, rfl, Restated.refl_option _⟩
  | cons p rest ih =>
    obtain ⟨storedHere, storedRest⟩ := List.forall_mem_cons.mp stored
    obtain ⟨echoableHere, echoableRest⟩ := List.forall_mem_cons.mp echoable
    have here := @stop_echoes resources settings name p storedHere echoableHere s
    rw [List.map_cons, List.map_cons, walk_cons p.1, walk_cons (Line.marked p)]
    exact here.alike.andThen (ih storedRest echoableRest)

end

/-! ### Classifying -/

/-- All that a classifier tells of the line that it took last, but for its echo mark. -/
structure Classifier.Report where
  command : Command
  current : Option Text
  keyValue : Option (Text × Text)
  printed : Option Text
  saveTo : Option Text
  useAsInput : Option Text
  newRoot : Option Text
  batch : Option Text
  pause : Except Error (Option Nat)
  firstWord : Option Text
  isForeach : Bool
  isEnd : Bool

namespace Classifier

def report (c : Classifier) : Report where
  command := c.label.command
  current := c.current?
  keyValue := c.keyValue?
  printed := c.printed?
  saveTo := c.saveTo?
  useAsInput := c.useAsInput?
  newRoot := c.newRoot?
  batch := c.batch?
  pause := c.pause?
  firstWord := c.command?
  isForeach := c.isForeach
  isEnd := c.isEnd

/-- What is told is decided by the command and the line without its keyword. -/
theorem report_eq {c c' : Classifier} (command : c'.label.command = c.label.command)
    (current : c'.current? = c.current?) : c'.report = c.report := by
  simp only [report, keyValue?, printed?, saveTo?, useAsInput?, newRoot?, batch?, pause?, command?,
    isForeach, isEnd, command, current]

/-- What a classifier gives and tells of a line that was chosen or not, beside what it gives and
tells of the line without its keyword. -/
structure Echoes (plain : (Text × Classifier) × Bool) (taken : Text × Classifier) : Prop where
  given : taken.1 = plain.1.1
  report : taken.2.report = plain.1.2.report
  echoed : taken.2.label.echoed = (plain.2 || plain.1.2.label.echoed)

theorem ofLine_marked {choice : Line × Bool} (stored : choice.1.Stored)
    (echoable : choice.2 = true → choice.1.text.Echoable) :
    withoutEcho (Line.marked choice).text = withoutEcho choice.1.text ∧
      (splitEcho (Line.marked choice).text).1 = (choice.2 || (splitEcho choice.1.text).1) := by
  obtain ⟨line, chosen⟩ := choice
  cases chosen with
  | false => exact ⟨rfl, rfl⟩
  | true =>
    have single := stored.singleLine
    exact ⟨withoutEcho_withEcho (echoable rfl) single,
      congrArg Prod.fst (splitEcho_withEcho (echoable rfl) single)⟩

theorem drained_echoes {choice : List (Line × Bool)} (stored : ∀ p ∈ choice, p.1.Stored)
    (echoable : ∀ p ∈ choice, p.2 = true → p.1.text.Echoable) {c c' : Classifier}
    (sound : c.reader.cursor.Sound) (sound' : c'.reader.cursor.Sound)
    (reading : c.reader.cursor.reading.isSome) (reading' : c'.reader.cursor.reading.isSome)
    (ahead : c.reader.cursor.ahead = choice.map (·.1))
    (ahead' : c'.reader.cursor.ahead = choice.map Line.marked) :
    ∃ read read', Act.Drained hasNext next c read ∧ Act.Drained hasNext next c' read' ∧
      List.Forall₂ Echoes (read.zip (choice.map (·.2))) read' := by
  induction choice generalizing c c' with
  | nil =>
    have asked : hasNext c = ⟨.ok false, c, []⟩ := by
      rw [hasNext_of_reading reading, ahead]
      rfl
    have asked' : hasNext c' = ⟨.ok false, c', []⟩ := by
      rw [hasNext_of_reading reading', ahead']
      rfl
    exact ⟨[], [], .ended asked, .ended asked', .nil⟩
  | cons p rest ih =>
    obtain ⟨storedHere, storedRest⟩ := List.forall_mem_cons.mp stored
    obtain ⟨echoableHere, echoableRest⟩ := List.forall_mem_cons.mp echoable
    obtain ⟨bare, mark⟩ := ofLine_marked storedHere echoableHere
    have ahead : c.reader.cursor.ahead = p.1 :: rest.map (·.1) := ahead
    have ahead' : c'.reader.cursor.ahead = Line.marked p :: rest.map Line.marked := ahead'
    obtain ⟨log, -, given⟩ := quietly_next sound ahead
    obtain ⟨log', -, given'⟩ := quietly_next sound' ahead'
    have asked : hasNext c = ⟨.ok true, c, []⟩ := by
      rw [hasNext_of_reading reading, ahead]
      rfl
    have asked' : hasNext c' = ⟨.ok true, c', []⟩ := by
      rw [hasNext_of_reading reading', ahead']
      rfl
    obtain ⟨read, read', drained, drained', echoes⟩ :=
      @ih storedRest echoableRest (c.labelled p.1 (rest.map (·.1)))
        (c'.labelled (Line.marked p) (rest.map Line.marked)) (sound.moved ahead) (sound'.moved ahead')
        rfl rfl rfl rfl
    have told : (c'.labelled (Line.marked p) (rest.map Line.marked)).report =
        (c.labelled p.1 (rest.map (·.1))).report := by
      refine report_eq ?_ ?_
      · exact congrArg (fun t => (Command.recognize? t).getD .ordinary) bare
      · rw [current?_labelled sound ahead, current?_labelled sound' ahead', bare]
    exact ⟨_, _, .took asked given drained, .took asked' given' drained',
      .cons ⟨bare, told, mark⟩ echoes⟩

end Classifier

/-! ### The theorem -/

def Scanner.ofLines (settings : Settings) (name : Text) (lines : List Line) : Scanner where
  settings := settings
  chain := ⟨{ cursor := .opened name lines }, []⟩

theorem Scanner.drains_ofLines (resources : Resources) (settings : Settings) (name : Text)
    (lines : List Line) (s : Store) :
    Drains resources (.ofLines settings name lines, s)
      (joined s (itinerary (visit resources settings name) lines s)) := by
  have drains := @drains_remaining resources (.ofLines settings name lines)
    (Chain.sound_single.mpr (Cursor.sound_opened ..)) s
  rw [remaining, ofLines, walkChain_single] at drains
  rw [joined_visits]
  exact drains

/-- **Echo keywords are transparent.** Some lines of a store, each of at least two characters, with
no blank at either end and no echo keyword of its own, are given an echo keyword. Draining a scanner
over either store stops at the same lines, up to the same error, which may name another place: with
the same texts surfaced, the same pauses, as many replays and the same registry and properties
table at the end. It stops at every line with the same store before and behind it, and what happens
there is the same but for the log. Only, a chosen line is said first: as it is written and as it
expands against the registry of that moment, unless its expansion fails; and if it is an ordinary
line, it surfaces with an echo mark. Draining a classifier over either store gives the same texts,
and it tells the same of them, but for the echo marks of the chosen lines. -/
theorem echo_is_transparent (resources : Resources) (settings : Settings) (name : Text)
    (choice : List (Line × Bool)) (s : Store) (stored : ∀ p ∈ choice, p.1.Stored)
    (echoable : ∀ p ∈ choice, p.2 = true → p.1.text.Echoable) :
    let plain := choice.map (·.1)
    let echoed := choice.map Line.marked
    let stops := itinerary (visit resources settings name) plain s
    let stops' := itinerary (visit resources settings name) echoed s
    Drains resources (.ofLines settings name plain, s) (joined s stops) ∧
      Drains resources (.ofLines settings name echoed, s) (joined s stops') ∧
      List.Forall₂ (Stop.Echoes settings) (stops.zip (choice.map (·.2))) stops' ∧
      (joined s stops).Alike (joined s stops') ∧
      ∀ c c' : Classifier, c.reader.cursor = .opened name plain →
        c'.reader.cursor = .opened name echoed →
        ∃ read read', Act.Drained Classifier.hasNext Classifier.next c read ∧
          Act.Drained Classifier.hasNext Classifier.next c' read' ∧
          List.Forall₂ Classifier.Echoes (read.zip (choice.map (·.2))) read' := by
  intro plain echoed stops stops'
  refine ⟨Scanner.drains_ofLines .., Scanner.drains_ofLines .., itinerary_echoes stored echoable s,
    joined_alike stored echoable s, fun c c' start start' => ?_⟩
  refine Classifier.drained_echoes stored echoable ?_ ?_ ?_ ?_ ?_ ?_
  · rw [start]
    exact Cursor.sound_opened ..
  · rw [start']
    exact Cursor.sound_opened ..
  all_goals first | rw [start] | rw [start']
  all_goals rfl

def settingText : Resources where
  objects := .ofList [("inner".toList, "setProperty x=1\na $\x7bx\x7d".toList)]

def choosyText : Text := "include !inner\nsay $\x7bx\x7d\necho dd\nuse $\x7by\x7d".toList

/-- The lines of a script, all of them chosen but the one with a keyword. The last one has a
reference that nothing defines. -/
def choosy : List (Line × Bool) :=
  (({ kind := .script } : Settings).linesOf choosyText).zip [true, true, false, true]

theorem echo_is_transparent_choosy :
    let settings : Settings := { kind := .script, expander := { strict := true } }
    let start : Store := { registry := .withGlobals }
    (∀ p ∈ choosy, p.1.Stored) ∧ (∀ p ∈ choosy, p.2 = true → p.1.text.Echoable) ∧
      ∃ w w', Drains settingText
          (.ofLines settings "main".toList (choosy.map (·.1)), start) w ∧
        Drains settingText
          (.ofLines settings "main".toList (choosy.map Line.marked), start) w' ∧
        w.Alike w' ∧
        w'.lines = [("a 1".toList, false), ("say 1".toList, true), ("dd".toList, true)] ∧
        w.fault = some (.undefinedReference "$\x7by\x7d".toList) ∧
        Event.written w.events =
          "\tEcho (As-Is): dd\n\tEcho (Macros-substituted): dd\n".toList ∧
        Event.written w'.events =
          ("\tEcho (As-Is): include !inner\n\tEcho (Macros-substituted): include !inner\n" ++
            "\tEcho (As-Is): say $\x7bx\x7d\n\tEcho (Macros-substituted): say 1\n" ++
            "\tEcho (As-Is): dd\n\tEcho (Macros-substituted): dd\n").toList := by
  intro settings start
  have stored : ∀ p ∈ choosy, p.1.Stored := by
    intro p hp
    exact ⟨_, _, _, (List.of_mem_zip hp).1⟩
  have echoable : ∀ p ∈ choosy, p.2 = true → p.1.text.Echoable := by decide +kernel
  obtain ⟨plain, echoed, -, alike, -⟩ := echo_is_transparent settingText settings
    "main".toList choosy start stored echoable
  refine ⟨stored, echoable, _, _, plain, echoed, alike, by decide +kernel, by decide +kernel,
    by decide +kernel, by decide +kernel⟩

end CommandScript
