import CommandScript.Proofs.Listings
import CommandScript.Proofs.PlainDisplay

/-!
# Exit statuses

A command line that asks for work is answered with an exit status, unless an error escapes: a
script pauses for too long or for a number with too many digits, a path holds a null character, or
the title of a table is malformed markup. The program succeeds exactly if the scan of its script
does and nothing escapes, and an error that a script's author can act on is drawn literally.
-/

namespace CommandScript

def Walked.done {α : Type} (w : Walked) (a : α) : Except Error α :=
  match w.fault with
  | none => .ok a
  | some e => .error e

namespace CommandLine

variable {σ : Type} {display : Display} {rendering : Rendering} {literal : Text → Text}
variable {resources : Resources}

/-! ### Concluding -/

theorem conclude_of_ok {work : Act σ Unit} {s t : σ} {events : List Event}
    (h : work s = ⟨.ok (), t, events⟩) : concludeOn display work s = ⟨.ok .success, t, events⟩ := by
  simp [concludeOn, Act.bind_apply, h]

/-- An error that can be reported is drawn literally, and another one escapes unless it is a
defect. -/
theorem conclude_of_error (draws : display.Draws rendering)
    (escapes : display.Escapes rendering literal) {work : Act σ Unit} {s t : σ}
    {events : List Event} {e : Error} (h : work s = ⟨.error e, t, events⟩)
    (sane : e.isDefect = false) :
    concludeOn display work s =
      if e.isReportable then
        ⟨.ok .scriptFault, t, events ++ [.drew (rendering.page (faultSeen literal e.message))]⟩
      else ⟨.error e, t, events⟩ := by
  have drawn := draws.print (escapes (reads_markedFault e.message))
  rw [concludeOn, Act.bind_apply, Act.attempt_apply, h]
  dsimp only
  rw [if_neg (by rw [sane]; exact Bool.false_ne_true)]
  by_cases reportable : e.isReportable = true
  · rw [if_pos reportable, if_pos reportable, drawn]
    rfl
  · rw [if_neg reportable, if_neg reportable, Act.fail_apply, Outcome.after_mk, List.append_nil]

/-! ### Scans of jobs -/

def drawsLine (rendering : Rendering) (literal : Text → Text) (number : Nat) (text : Text)
    (echoed : Bool) : List Event :=
  [.drew (rendering.page (lineSeen literal number text echoed))]

def registrySeen (rendering : Rendering) (literal : Text → Text) (e : Execution)
    (showEnvironment : Bool) (s : Store) : Text :=
  rendering.panel ⟨literal ("Properties after " ++ e.script.name), Execution.panelContent
    (rendering.document (s.registry.without (if showEnvironment then [] else [environmentLabel])))⟩

/-- What scanning the script of a job comes to, and what happens meanwhile: an error ends the scan,
or something is to be drawn in the end, which may be malformed. -/
inductive Job.Scans (display : Display) (rendering : Rendering) (literal : Text → Text)
    (resources : Resources) : Job → Except Error (Except Error Text) → List Event → Prop where
  | run {e : Execution} {w : Walked} {events : List Event} (scans : e.Scans resources w)
      (shown : Shown (drawsLine rendering literal) 0 w.lines w.events events) :
      Scans display rendering literal resources (.run e)
        (w.done (.ok (rendering.page (summarySeen literal w.lines.length e.script.name)))) events
  | vars {e : Execution} {showEnvironment : Bool} {w : Walked} (scans : e.Scans resources w) :
      Scans display rendering literal resources (.vars e showEnvironment)
        (w.done (.ok (registrySeen rendering literal e showEnvironment w.store))) w.events
  | classify {script : Script} {log : List Event} (quiet : Event.unlogged log = []) :
      Scans display rendering literal resources (.classify script)
        ((script.listing resources).map (script.drawing display rendering literal))
        (script.source.path?.toList.map .sought ++ log)

/-- The files and named texts that a job may include make no cycle. -/
def Job.Acyclic (resources : Resources) : Job → Prop
  | .run e | .vars e _ => CommandScript.Acyclic resources e.settings
  | .classify _ => True

theorem list_apply (draws : display.Draws rendering)
    (escapes : display.Escapes rendering literal) {e : Execution}
    (acyclic : Acyclic resources e.settings) {w : Walked} (h : e.Scans resources w) :
    ∃ st events, Shown (drawsLine rendering literal) 0 w.lines w.events events ∧
      e.list display resources e.initial =
        finish (w.done (.ok (rendering.page (summarySeen literal w.lines.length e.script.name))))
          events st := by
  have line (number : Nat) (text : Text) (echoed : Bool) (st : Scanner × Store) :
      draw (display.print (markedLine display number text echoed)) st =
        ⟨.ok (), st, drawsLine rendering literal number text echoed⟩ := by
    rw [draws.print (escapes (reads_markedLine number text echoed))]
    rfl
  obtain ⟨sc, events, run, named, shown⟩ := e.surface_of_scans acyclic line h
  refine ⟨(sc, w.store), events, shown, ?_⟩
  rw [Execution.list, Act.bind_apply, run, Walked.done]
  cases fault : w.fault with
  | some err => rfl
  | none =>
    have name : sc.name?.getD [] = e.script.name := by rw [named fault]; rfl
    simp only [Execution.name, Act.bind_apply, Act.get_apply, Act.pure_apply, Outcome.after_mk,
      name]
    rw [draws.print (escapes (reads_markedSummary ..))]
    rfl

theorem showRegistry_apply (draws : display.Draws rendering)
    (escapes : display.Escapes rendering literal) {e : Execution}
    (acyclic : Acyclic resources e.settings) (showEnvironment : Bool) {w : Walked}
    (h : e.Scans resources w) :
    ∃ st, e.showRegistry display resources showEnvironment e.initial =
      finish (w.done (.ok (registrySeen rendering literal e showEnvironment w.store))) w.events
        st := by
  obtain ⟨sc, events, run, named, shown⟩ := @Execution.surface_of_scans resources e acyclic
    (fun _ _ _ => return ()) (fun _ _ _ => []) (fun _ _ _ _ => rfl) w h
  obtain rfl := shown.eq_of_silent fun _ _ _ => rfl
  refine ⟨(sc, w.store), ?_⟩
  rw [Execution.showRegistry, Act.bind_apply, run, Walked.done]
  cases fault : w.fault with
  | some err => rfl
  | none =>
    have name : sc.name?.getD [] = e.script.name := by rw [named fault]; rfl
    have drawn (content : Text) := @Display.Draws.panel _ _ draws
      ⟨display.escape ("Properties after " ++ e.script.name), content⟩ _ (escapes (.escaped _))
    simp only [Execution.name, Act.bind_apply, Act.get_apply, Act.pure_apply, Outcome.after_mk,
      name, draws.document, Act.ofExcept_ok, draw_apply, after_finish, List.append_nil]
    rw [drawn]
    rfl

/-- What a job does is to scan its script and to draw something in the end. -/
theorem work_apply (draws : display.Draws rendering)
    (escapes : display.Escapes rendering literal) {job : Job} (acyclic : job.Acyclic resources)
    (s : σ) :
    ∃ done events, job.Scans display rendering literal resources done events ∧
      job.work display resources s = finish done events s := by
  have own {τ : Type} {start st : τ} {x : Act τ Unit} {done : Except Error (Except Error Text)}
      {events : List Event} (h : x start = finish done events st) :
      Act.startingFrom start x s = finish done events s := by
    rw [Act.startingFrom, h, finish, finish]
    cases done >>= id <;> rfl
  cases job with
  | run e =>
    obtain ⟨w, scans⟩ := e.exists_scans resources
    obtain ⟨st, events, shown, run⟩ := list_apply draws escapes acyclic scans
    exact ⟨_, events, .run scans shown, own run⟩
  | vars e showEnvironment =>
    obtain ⟨w, scans⟩ := e.exists_scans resources
    obtain ⟨st, run⟩ := showRegistry_apply draws escapes acyclic showEnvironment scans
    exact ⟨_, w.events, .vars scans, own run⟩
  | classify script =>
    obtain ⟨c, log, quiet, run⟩ := script.listCommands_apply display resources
    rw [funext (script.table_drawn draws escapes)] at run
    exact ⟨_, _, .classify quiet, own run⟩

/-! ### Errors that escape -/

/-- Errors of a job that no author of a script is told of: those of an executed script, a null
character in the path of a script to be listed, an overlong line in it, and what a display makes of
a name that is malformed markup. -/
inductive Job.Escapes (display : Display) (rendering : Rendering) (resources : Resources) :
    Job → Error → Prop where
  | run {e : Execution} {err : Error} (escapes : e.Escapes resources err) :
      Escapes display rendering resources (.run e) err
  | vars {e : Execution} {showEnvironment : Bool} {err : Error}
      (escapes : e.Escapes resources err) :
      Escapes display rendering resources (.vars e showEnvironment) err
  | path {script : Script} {file : Text} (name : script.name = '@' :: file) (null : '\x00' ∈ file) :
      Escapes display rendering resources (.classify script) .nullInPath
  | line {script : Script} {raw : Text} {early late : List Line} {line : Line} {err : Error}
      (hread : script.source.read resources = .ok (script.name, raw))
      (lines : script.lines raw = early ++ line :: late)
      (first : ∀ other ∈ early, ∀ e, ¬ other.Overlong e) (overlong : line.Overlong err) :
      Escapes display rendering resources (.classify script) err
  | title {script : Script} {found : List Entry} {err : Error}
      (listed : script.listing resources = .ok found)
      (malformed : rendering.read? ("Classification: " ++ script.name) = none)
      (undrawn : display.table (table display found script.name) = .error err) :
      Escapes display rendering resources (.classify script) err

theorem drawing_eq_error_iff {script : Script} {found : List Entry} {err : Error} :
    script.drawing display rendering literal found = .error err ↔
      rendering.read? ("Classification: " ++ script.name) = none ∧
        display.table (table display found script.name) = .error err := by
  rw [Script.drawing]
  cases rendering.read? ("Classification: " ++ script.name) <;> simp

theorem done_bind_eq_error_iff {w : Walked} {text : Text} {err : Error} :
    (w.done (.ok text) >>= id : Except Error Text) = .error err ↔ w.fault = some err := by
  rw [Walked.done]
  cases w.fault <;> simp [bind, Except.bind]

namespace Job

variable {job : Job} {done : Except Error (Except Error Text)} {events : List Event} {err : Error}

theorem Escapes.unreportable (draws : display.Draws rendering)
    (h : job.Escapes display rendering resources err) :
    err.isReportable = false ∧ err.isDefect = false := by
  cases h with
  | run escapes => exact escapes.unreportable
  | vars escapes => exact escapes.unreportable
  | path => exact ⟨rfl, rfl⟩
  | line hread lines first overlong => cases overlong <;> exact ⟨rfl, rfl⟩
  | title listed malformed undrawn => exact draws.foreign undrawn

/-- An error that ends a scan is reportable, or it escapes. -/
theorem Scans.fault (scans : job.Scans display rendering literal resources done events)
    (acyclic : job.Acyclic resources) (failed : done = .error err) :
    (err.isReportable = true ∧ err.isDefect = false) ∨
      job.Escapes display rendering resources err := by
  have walked {w : Walked} {last : Except Error Text} (h : w.done last = .error err) :
      w.fault = some err := by
    rw [Walked.done] at h
    cases fault : w.fault <;> simp_all
  cases scans with
  | run scans shown => exact (scans.fault acyclic (walked failed)).imp_right .run
  | vars scans => exact (scans.fault acyclic (walked failed)).imp_right .vars
  | @classify script log quiet =>
    have unlisted : script.listing resources = .error err := by
      cases listing : script.listing resources with
      | error e =>
        rw [listing] at failed
        cases failed
        rfl
      | ok found =>
        rw [listing] at failed
        cases failed
    rcases Script.listing_eq_error_iff.mp unlisted with
      unread | ⟨raw, early, line, late, hread, lines, first, overlong⟩
    · cases Source.read_fault unread with
      | missing => exact .inl ⟨rfl, rfl⟩
      | unreadable => exact .inl ⟨rfl, rfl⟩
      | null name holds =>
        exact .inr (.path name ((Path.mem_toText_iff (by decide) (by decide) _).mp holds))
    · exact .inr (.line hread lines first overlong)

/-- What is drawn in the end is malformed only if an error escapes for it. -/
theorem Scans.malformed (scans : job.Scans display rendering literal resources done events)
    (malformed : done = .ok (.error err)) : job.Escapes display rendering resources err := by
  have walked {w : Walked} {text : Text} (h : w.done (.ok text) = .ok (Except.error err)) :
      False := by
    rw [Walked.done] at h
    cases fault : w.fault <;> simp_all
  cases scans with
  | run scans shown => exact (walked malformed).elim
  | vars scans => exact (walked malformed).elim
  | @classify script log quiet =>
    cases listing : script.listing resources with
    | error e =>
      rw [listing] at malformed
      cases malformed
    | ok found =>
      rw [listing] at malformed
      obtain ⟨unread, undrawn⟩ := drawing_eq_error_iff.mp (Except.ok.inj malformed)
      exact .title listing unread undrawn

/-- What escapes is what keeps the job from being done. -/
theorem Escapes.fault (h : job.Escapes display rendering resources err)
    (scans : job.Scans display rendering literal resources done events) :
    done >>= id = .error err := by
  cases h with
  | run escapes =>
    cases scans with
    | run scans shown => exact done_bind_eq_error_iff.mpr (escapes.fault scans)
  | vars escapes =>
    cases scans with
    | vars scans => exact done_bind_eq_error_iff.mpr (escapes.fault scans)
  | @path script file name null =>
    cases scans with
    | classify quiet =>
      have unread : script.source.read resources = .error .nullInPath := by
        have source : script.source = .text ('@' :: file) := congrArg Source.text name
        rw [source, Source.read_null null]
      rw [Script.listing_eq_error_iff.mpr (.inl unread)]
      rfl
  | line hread lines first overlong =>
    cases scans with
    | classify quiet =>
      rw [Script.listing_eq_error_iff.mpr (.inr ⟨_, _, _, _, hread, lines, first, overlong⟩)]
      rfl
  | title listed malformed undrawn =>
    cases scans with
    | classify quiet =>
      rw [listed]
      exact drawing_eq_error_iff.mpr ⟨malformed, undrawn⟩

end Job

/-! ### Answers -/

/-- How a job is answered: the error that ends its scan is reported, if it can be. -/
def answered (rendering : Rendering) (literal : Text → Text)
    (done : Except Error (Except Error Text)) (events : List Event) (s : σ) : Outcome σ Status :=
  match done with
  | .ok (.ok text) => ⟨.ok .success, s, events ++ [.drew text]⟩
  | .ok (.error err) => ⟨.error err, s, events⟩
  | .error err =>
    if err.isReportable then
      ⟨.ok .scriptFault, s, events ++ [.drew (rendering.page (faultSeen literal err.message))]⟩
    else ⟨.error err, s, events⟩

section

variable {job : Job} {done : Except Error (Except Error Text)} {events : List Event}

theorem answer_of_scans (draws : display.Draws rendering)
    (escapes : display.Escapes rendering literal) {s : σ} (acyclic : job.Acyclic resources)
    (scans : job.Scans display rendering literal resources done events)
    (works : job.work display resources s = finish done events s) :
    (Request.perform job).answerOn display resources s =
      answered rendering literal done events s := by
  rw [Request.answerOn]
  rcases done with err | err | text
  · rw [conclude_of_error draws escapes works]
    · rfl
    · exact (scans.fault acyclic rfl).elim And.right fun escape => (escape.unreportable draws).2
  · obtain ⟨unreportable, sane⟩ := (scans.malformed rfl).unreportable draws
    rw [conclude_of_error draws escapes works sane, unreportable]
    rfl
  · exact conclude_of_ok works

theorem answered_of_escapes (draws : display.Draws rendering) {err : Error}
    (scans : job.Scans display rendering literal resources done events)
    (escapes : job.Escapes display rendering resources err) (s : σ) :
    (answered rendering literal done events s).result = .error err := by
  have fault := escapes.fault scans
  rcases done with e | e | text
  · obtain rfl : e = err := Except.error.inj fault
    simp [answered, (escapes.unreportable draws).1]
  · obtain rfl : e = err := Except.error.inj fault
    rfl
  · cases fault

/-- Where nothing escapes, the exit status says whether the scan went well. -/
theorem answered_of_not_escapes
    (scans : job.Scans display rendering literal resources done events)
    (acyclic : job.Acyclic resources)
    (none : ∀ err, ¬ job.Escapes display rendering resources err) (s : σ) :
    (answered rendering literal done events s).result =
      .ok (match done with
        | .ok _ => .success
        | .error _ => .scriptFault) := by
  rcases done with e | e | text
  · have reportable := ((scans.fault acyclic rfl).resolve_right (none e)).1
    simp [answered, reportable]
  · exact absurd (scans.malformed rfl) (none e)
  · rfl

end

/-- **How a job ends** whose scan comes to `done`, and to `events` meanwhile: with status 0 exactly
if the scan went well and no error escapes, with status 1 exactly if the scan failed and no error
escapes, and with an error exactly if this escapes. -/
structure Job.Ends (display : Display) (rendering : Rendering) (literal : Text → Text)
    (resources : Resources) (job : Job) (s : σ) (answer : Outcome σ Status)
    (done : Except Error (Except Error Text)) (events : List Event) : Prop where
  scans : job.Scans display rendering literal resources done events
  drawn : answer = answered rendering literal done events s
  success : answer.result.map Status.code = .ok 0 ↔
    (∃ last, done = .ok last) ∧ ∀ err, ¬ job.Escapes display rendering resources err
  fault : answer.result.map Status.code = .ok 1 ↔
    (∃ err, done = .error err) ∧ ∀ err, ¬ job.Escapes display rendering resources err
  escape (err : Error) : answer.result = .error err ↔ job.Escapes display rendering resources err

theorem job_ends (draws : display.Draws rendering) (escapes : display.Escapes rendering literal)
    {job : Job} (acyclic : job.Acyclic resources) (s : σ) :
    ∃ done events, job.Ends display rendering literal resources s
      ((Request.perform job).answerOn display resources s) done events := by
  obtain ⟨done, events, scans, works⟩ := work_apply draws escapes acyclic s
  refine ⟨done, events, ?_⟩
  rw [answer_of_scans draws escapes acyclic scans works]
  -- At most one error escapes: what keeps the job from being done.
  by_cases none : ∀ err, ¬ job.Escapes display rendering resources err
  · have result := answered_of_not_escapes scans acyclic none s
    refine ⟨scans, rfl, ?_, ?_, ?_⟩ <;> rw [result] <;>
      cases done <;> simp [none, Except.map, Status.code]
  · obtain ⟨err, escape⟩ := not_forall_not.mp none
    have result := answered_of_escapes draws scans escape s
    refine ⟨scans, rfl, by simp [result, none, Except.map], by simp [result, none, Except.map],
      fun other => ⟨fun same => ?_, fun escape' => answered_of_escapes draws scans escape' s⟩⟩
    rw [result] at same
    obtain rfl := Except.error.inj same
    exact escape

/-- **A command line that asks for work ends with an exit status unless an error escapes**, where
no files and named texts include each other in a cycle. Of the display it is assumed that malformed
markup alone keeps it from drawing, and that escaping makes a text literal. The status is 0 exactly
if the scan of the script went well, and 1 exactly if it failed, which is then drawn. There is no
other status. It is also known which errors escape: those of pauses that are too long or have too
many digits, of null characters in paths, of lines in a listing whose pause has too many digits, and
what the display raises for a malformed title. For of all that is drawn of a script, only the title
of a table of commands is read as markup. Everything else is drawn as it is. -/
theorem ends_with_status_unless_escapes (draws : display.Draws rendering)
    (escapes : display.Escapes rendering id) {words : List Text} {job : Job}
    (asked : Request.ofWords words = .perform job) (acyclic : job.Acyclic resources) (s : σ) :
    ∃ done events, job.Ends display rendering id resources s
      ((Request.ofWords words).answerOn display resources s) done events := by
  rw [asked]
  exact job_ends draws escapes acyclic s

theorem ends_with_status_unless_escapes_bracketed :
    let words := ["run".toList, "--inline".toList, "a [/b]".toList]
    let job := Job.run ⟨⟨"a [/b]".toList, true, {}⟩, false, [], false⟩
    let answer : Outcome Unit Status :=
      (Request.ofWords words).answerOn PlainDisplay.display {} ()
    Request.ofWords words = .perform job ∧ job.Acyclic {} ∧
      answer.result.map Status.code = .ok 0 ∧
      ∀ err, ¬ job.Escapes PlainDisplay.display PlainDisplay.rendering {} err := by
  intro words job answer
  have asked : Request.ofWords words = .perform job := by decide +kernel
  have acyclic : job.Acyclic {} := ⟨fun _ => 0, fun how _ raw mem => by cases mem⟩
  have success : answer.result.map Status.code = .ok 0 := by decide +kernel
  obtain ⟨done, events, ends⟩ := ends_with_status_unless_escapes PlainDisplay.draws
    PlainDisplay.escapes asked acyclic ()
  exact ⟨asked, acyclic, success, (ends.success.mp success).2⟩

/-- The script has one ordinary line, but its text is malformed markup in a title. -/
theorem escapes_for_title :
    let words := ["classify".toList, "--inline".toList, "a [/b]".toList]
    let script : Script := ⟨"a [/b]".toList, true, {}⟩
    let answer : Outcome Unit Status := (Request.ofWords words).answer {} ()
    Request.ofWords words = .perform (.classify script) ∧
      script.listing {} = .ok [⟨1, .ordinary, "a [/b]".toList, false⟩] ∧
      answer.result = .error (.unmatchedTag "[/b]".toList 18) := by
  decide +kernel

end CommandLine
end CommandScript
