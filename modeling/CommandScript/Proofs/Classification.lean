import CommandScript.Classifier
import CommandScript.Proofs.Draining
import CommandScript.Proofs.Keywords
import CommandScript.Proofs.Loading

/-!
# Classifying and executing

A classifier labels the lines of a script, and a scanner executes some of them and surfaces
the others. Both look at a line without its echo keyword, and the scanner executes just what
the classifier labels so, inclusions aside, which have no label of their own. So a script
without inclusions surfaces the lines with the other labels.
-/

namespace CommandScript

/-- A drain that nothing interrupts: asked for a next line and made to take it until none
follows. A line is taken as it is given, and the state behind it is kept with it. -/
inductive Act.Drained {σ : Type} (hasNext : Act σ Bool) (next : Act σ Text) :
    σ → List (Text × σ) → Prop where
  | ended {s s' : σ} {events : List Event} (asked : hasNext s = ⟨.ok false, s', events⟩) :
      Drained hasNext next s []
  | took {s mid s' : σ} {events made : List Event} {text : Text} {taken : List (Text × σ)}
      (asked : hasNext s = ⟨.ok true, mid, events⟩) (given : next mid = ⟨.ok text, s', made⟩)
      (more : Drained hasNext next s' taken) : Drained hasNext next s ((text, s') :: taken)

/-- A drain without an error is one that nothing interrupts. -/
theorem Drains.drained {resources : Resources} {st : Scanner × Store} {w : Walked}
    (h : Drains resources st w) (quiet : w.fault = none) :
    ∃ taken, Act.Drained (Scanner.hasNext resources) (Scanner.next resources) st taken ∧
      taken.map (fun t => (t.1, t.2.1.isEchoed)) = w.lines := by
  induction h with
  | ended asked => exact ⟨[], .ended asked, rfl⟩
  | failed asked => cases quiet
  | refused asked taken => cases quiet
  | took asked given more ih =>
    obtain ⟨taken, drained, lines⟩ := ih quiet
    exact ⟨_, .took asked given drained, congrArg (List.cons _) lines⟩

/-! ### Built-in lines -/

/-- A script scanner takes a line for a built-in if its label says so or it includes. -/
theorem Kind.script_recognizes_iff (line : Text) :
    Kind.script.recognizes line = true ↔
      (Label.ofLine line).command.isExecuted = true ∨
        (Form.include? (withoutEcho line)).isSome := by
  have label : (Label.ofLine line).command = Command.ofText (withoutEcho line) := rfl
  rw [label, Command.isExecuted_ofText_iff]
  simp only [recognizes, isBasic, isScript, Bool.or_eq_true]
  tauto

/-! ### The classifier -/

open Act

theorem Act.Quietly.get {σ : Type} {s : σ} : Quietly Act.get s s s := ⟨[], rfl, rfl⟩

theorem Reader.quietly_advance? {r : Reader} {line : Line} {ahead : List Line}
    (h : r.cursor.ahead = line :: ahead) :
    Quietly advance? r (some line) { r with cursor := r.cursor.moved ahead } := by
  have started : r.cursor.started = r.cursor := by
    cases hr : r.cursor.reading with
    | none => simp [Cursor.ahead, hr] at h
    | some at_ => simp only [Cursor.started, hr]
  have moved : r.cursor.advance? = some (line, r.cursor.moved ahead) := by
    simp only [Cursor.advance?, h]
  refine .bind (.modify _) (.bind .get ?_)
  rw [started, moved]
  exact .bind (.modify _) (.bind (.onlyIf_debug ..) .pure)

namespace Classifier

variable {c : Classifier}

def labelled (c : Classifier) (line : Line) (ahead : List Line) : Classifier where
  reader := { c.reader with cursor := c.reader.cursor.moved ahead }
  label := Label.ofLine line.text

theorem hasNext_of_reading (h : c.reader.cursor.reading.isSome) :
    hasNext c = ⟨.ok (!c.reader.cursor.ahead.isEmpty), c, []⟩ := by
  obtain ⟨r, hr⟩ := Option.isSome_iff_exists.mp h
  simp [hasNext, onReader, Reader.hasNext, Act.bind_apply, Cursor.started, hr]

theorem quietly_onReader {α : Type} {x : Act Reader α} {a : α} {r : Reader}
    (h : Quietly x c.reader a r) : Quietly (onReader x) c a { c with reader := r } := by
  obtain ⟨log, quiet, hx⟩ := h
  exact ⟨log, quiet, by rw [onReader, hx, Outcome.mapState_mk]⟩

theorem quietly_determine (line : Text) :
    Quietly (determine line) c () { c with label := c.label.determine line } :=
  .bind (.modify _) (.bind .get (.onlyIf_debug ..))

theorem current?_labelled (sound : c.reader.cursor.Sound) {line : Line} {ahead : List Line}
    (h : c.reader.cursor.ahead = line :: ahead) :
    (c.labelled line ahead).current? = some (withoutEcho line.text) := by
  have here : (c.reader.cursor.moved ahead).current? = some line := sound.current?_moved h
  simp only [current?, labelled, here, Option.map_some]

/-- The next line is taken and labelled. -/
theorem quietly_advance? {line : Line} {ahead : List Line}
    (h : c.reader.cursor.ahead = line :: ahead) :
    Quietly advance? c (some line) (c.labelled line ahead) := by
  have reading : c.reader.cursor.reading.isNone = false := by
    cases hr : c.reader.cursor.reading with
    | none => simp [Cursor.ahead, hr] at h
    | some r => rfl
  refine .bind .get ?_
  rw [reading]
  refine .bind (quietly_onReader (Reader.quietly_advance? h)) ?_
  exact .bind (.modify _) (.bind (quietly_determine line.text) .pure)

/-- The next line is taken without its echo keyword, and labelled. -/
theorem quietly_next (sound : c.reader.cursor.Sound) {line : Line} {ahead : List Line}
    (h : c.reader.cursor.ahead = line :: ahead) :
    Quietly next c (withoutEcho line.text) (c.labelled line ahead) := by
  refine .bind (quietly_advance? h) (.bind .get ?_)
  rw [current?_labelled sound h]
  exact .pure

theorem wp_onReader {α : Type} {ok : α → Classifier → Prop} {bad : Error → Classifier → Prop}
    (x : Act Reader α) :
    Wp (onReader x) ok bad c ↔
      Wp x (fun a r => ok a { c with reader := r }) (fun e r => bad e { c with reader := r })
        c.reader := Iff.rfl

/-- A source that can be read is opened at its start. -/
theorem openSource_of_read {resources : Resources} {source : Source} {name raw : Text}
    (hread : source.read resources = .ok (name, raw)) (trim compress : Option Bool) :
    ∃ c' events, openSource resources source trim compress c = ⟨.ok (), c', events⟩ ∧
      c'.reader.cursor = .opened name
        (Line.ingest (c.reader.options.override trim compress).toCleaning none raw) := by
  have opened : Wp (openSource resources source trim compress)
      (fun _ c' => c'.reader.cursor = .opened name
        (Line.ingest (c.reader.options.override trim compress).toCleaning none raw))
      (fun _ _ => False) c := by
    simp only [openSource, clearLabel, Reader.openSource, wp_onReader, Wp.bind_iff, Wp.modify_iff,
      Wp.get_iff, wp_openCursor, hread]
  rcases hrun : openSource resources source trim compress c with ⟨e | u, c', events⟩
  · exact (opened.fault hrun).elim
  · exact ⟨c', events, rfl, opened.value hrun⟩

/-- Draining a classifier gives every line with its own label. -/
theorem exists_drained (sound : c.reader.cursor.Sound) (h : c.reader.cursor.reading.isSome) :
    ∃ read, Act.Drained hasNext next c read ∧
      read.map (fun r => (r.1, r.2.label)) =
        c.reader.cursor.ahead.map fun line => (withoutEcho line.text, Label.ofLine line.text) := by
  induction hahead : c.reader.cursor.ahead generalizing c with
  | nil =>
    have asked : hasNext c = ⟨.ok false, c, []⟩ := by
      rw [hasNext_of_reading h, hahead]
      rfl
    exact ⟨[], .ended asked, rfl⟩
  | cons line ahead ih =>
    obtain ⟨log, -, given⟩ := quietly_next sound hahead
    obtain ⟨read, drained, labels⟩ := @ih (c.labelled line ahead) (sound.moved hahead) rfl rfl
    have asked : hasNext c = ⟨.ok true, c, []⟩ := by
      rw [hasNext_of_reading h, hahead]
      rfl
    exact ⟨_, .took asked given drained, congrArg (List.cons _) labels⟩

end Classifier

/-! ### The scanner -/

section

variable {resources : Resources} {settings : Settings} {load : Text → Act Store Table}

/-- Only an inclusion makes a scanner read another source. -/
theorem execute_stays {builtin : Builtin} (h : ∀ reference, builtin ≠ .includeSource reference)
    (place : Text) (s : Store) :
    Wp (execute resources settings load place builtin) (fun effect _ => ∀ g, effect ≠ .entered g)
      (fun _ _ => True) s := by
  refine (effect_execute place builtin s).mono (fun effect _ of => ?_) fun _ _ _ => trivial
  cases of with
  | done | replayRequested => rintro g ⟨⟩
  | missing inclusion | opened inclusion => exact absurd inclusion (h _)

theorem executeLine_stays {line : Line} (h : Form.include? (withoutEcho line.text) = none)
    (place : Text) (s : Store) :
    Wp (executeLine resources settings load place line) (fun effect _ => ∀ g, effect ≠ .entered g)
      (fun _ _ => True) s := by
  rw [executeLine, Wp.bind_iff, Wp.onlyIf_debug_iff, Wp.bind_iff, wp_surface]
  split
  · split
    · rename_i builtin form
      refine execute_stays ?_ place s
      rintro reference rfl
      rw [Kind.include_of_builtin? form] at h
      cases h
    · trivial
  · trivial

/-- A line is surfaced as its text expands, and the store stays as it is. -/
theorem surface_ok {place : Text} {line : Line} {s t : Store} {text : Text} {events : List Event}
    (h : surface settings place line s = ⟨.ok text, t, events⟩) :
    t = s ∧ settings.expander.expand s.registry (withoutEcho line.text) = .ok text := by
  have surfaced : Wp (surface settings place line) (fun text t => t = s ∧
      settings.expander.expand s.registry (withoutEcho line.text) = .ok text)
      (fun _ _ => True) s := by
    rw [wp_surface]
    split
    · exact ⟨rfl, ‹_›⟩
    · trivial
  exact surfaced.value h

def ordinary (kind : Kind) (lines : List Line) : List Line :=
  lines.filter fun line => !kind.recognizes line.text

theorem ordinary_cons_of_builtin {kind : Kind} {line : Line}
    (h : kind.recognizes line.text = true) (ahead : List Line) :
    ordinary kind (line :: ahead) = ordinary kind ahead :=
  List.filter_cons_of_neg (by simp [h])

theorem ordinary_cons {kind : Kind} {line : Line} (h : kind.recognizes line.text = false)
    (ahead : List Line) : ordinary kind (line :: ahead) = line :: ordinary kind ahead :=
  List.filter_cons_of_pos (by simp [h])

/-- Reading the source of the frame has come to the chain, which includes nothing, and has
passed over built-in lines only. -/
structure Passes (kind : Kind) (f : Frame) (c : Chain) : Prop where
  included : c.included = []
  ordinary : ordinary kind c.frame.cursor.ahead = CommandScript.ordinary kind f.cursor.ahead
  lines : ∀ line ∈ c.frame.cursor.ahead, line ∈ f.cursor.ahead

/-- A source that includes nothing is settled by passing over built-in lines. -/
theorem LinesSettle.passes {enter : Frame → Store → Settled} {lines : List Line} {f : Frame}
    {s : Store} {o : Settled} (run : LinesSettle resources settings load enter lines f s o)
    {answer : Bool} (hahead : f.cursor.ahead = lines)
    (plain : ∀ line ∈ lines, Form.include? (withoutEcho line.text) = none)
    (h : o.result = .ok answer) : Passes settings.kind f o.state.1 := by
  induction run with
  | ended => exact ⟨rfl, rfl, fun _ => id⟩
  | ordinary => exact ⟨rfl, rfl, fun _ => id⟩
  | failed => cases h
  | @inside line ahead f g s t u c events inner result recognized executed entered unfinished =>
    have stays := (executeLine_stays (plain line List.mem_cons_self) _ s).value executed
    exact absurd rfl (stays g)
  | @passed line ahead f f' s t o events recognized goes rest ih =>
    have passes := ih goes.ahead (fun other hother => plain other (List.mem_cons_of_mem _ hother)) h
    refine ⟨passes.included, ?_, fun other hother => ?_⟩
    · rw [Outcome.state_after, passes.ordinary, hahead, goes.ahead,
        ordinary_cons_of_builtin recognized]
    · have later := passes.lines other hother
      rw [goes.ahead] at later
      exact hahead ▸ List.mem_cons_of_mem _ later

end

namespace Scanner

variable {resources : Resources} {sc after : Scanner} {s s' : Store} {events : List Event}

def taken? (sc : Scanner) : Option Line := sc.chain.innermost.cursor.current?

/-- A scanner that reads one source, in which no line includes another. -/
structure Plain (sc : Scanner) : Prop where
  sound : sc.chain.Sound
  reading : sc.chain.frame.cursor.reading.isSome
  single : sc.chain.included = []
  lines : ∀ line ∈ sc.chain.frame.cursor.ahead, Form.include? (withoutEcho line.text) = none

def toSurface (sc : Scanner) : List Line :=
  ordinary sc.settings.kind sc.chain.frame.cursor.ahead

theorem Plain.hasNext (plain : sc.Plain) {answer : Bool}
    (h : hasNext resources (sc, s) = ⟨.ok answer, (after, s'), events⟩) :
    after.Plain ∧ after.settings = sc.settings ∧ after.toSurface = sc.toSurface ∧
      after.chain.AtRest after.settings resources.depthBound answer := by
  obtain ⟨settings, ⟨f, included⟩⟩ := sc
  obtain rfl : included = [] := plain.single
  simp only [Scanner.hasNext] at h
  have settled := @settle_atRest resources settings resources.depthBound f [] s answer
  have sound := @sound_settle resources settings resources.depthBound f [] s plain.sound
  have started : f.started = f := Frame.started_of_reading plain.reading
  have passes : (settle resources resources.depthBound settings f [] s).result = .ok answer →
      Passes settings.kind f (settle resources resources.depthBound settings f [] s).state.1 := by
    obtain ⟨n, hn⟩ : ∃ n, resources.depthBound = n + 1 := Nat.exists_eq_add_one.mpr (by
      simp only [Resources.depthBound]
      omega)
    rw [hn]
    have settling := settle_single resources n settings f s
    rw [started] at settling
    exact settling.passes rfl plain.lines
  generalize settle resources resources.depthBound settings f [] s = o at h settled sound passes
  obtain ⟨result, ⟨c, t⟩, made⟩ := o
  cases h
  have rest := settled rfl
  have kept := passes rfl
  have reading : c.frame.cursor.reading.isSome := by
    cases answer with
    | false => exact rest.2.2.1
    | true =>
      obtain ⟨g, more⟩ := c
      obtain rfl : more = [] := kept.included
      cases hd : resources.depthBound with
      | zero => simp [hd, Chain.AtRest, Ready] at rest
      | succ n =>
        rw [hd] at rest
        obtain ⟨line, ahead, hahead, -⟩ := rest
        exact Frame.reading_of_ahead hahead
  exact ⟨⟨sound, reading, kept.included,
    fun line hline => plain.lines line (kept.lines line hline)⟩, rfl, kept.ordinary, rest⟩

/-- Where an ordinary line is next, it is the one that the scanner takes. -/
theorem Plain.next (plain : sc.Plain)
    (rest : sc.chain.AtRest sc.settings resources.depthBound true) {text : Text}
    (h : next resources (sc, s) = ⟨.ok text, (after, s'), events⟩) :
    ∃ line, after.Plain ∧ after.settings = sc.settings ∧
      sc.toSurface = line :: after.toSurface ∧ after.taken? = some line ∧
      after.isEchoed = (splitEcho line.text).1 ∧
      after.settings.expander.expand s'.registry (withoutEcho line.text) = .ok text := by
  rw [next_of_ready rest] at h
  obtain ⟨settings, ⟨f, included⟩⟩ := sc
  obtain rfl : included = [] := plain.single
  have hf : f.cursor.Sound := Chain.sound_single.mp plain.sound
  obtain ⟨line, ahead, hahead, hline⟩ : ∃ line ahead, f.cursor.ahead = line :: ahead ∧
      settings.kind.recognizes line.text = false := by
    cases hd : resources.depthBound with
    | zero => simp [hd, Chain.AtRest, Ready] at rest
    | succ n =>
      rw [hd] at rest
      exact rest
  simp only [takeNext, hahead] at h
  rcases hsurf : surface settings (f.moved line ahead).cursor.state line s with ⟨e | u, t, made⟩
  · rw [hsurf] at h
    cases h
  · obtain ⟨rfl, expanded⟩ := surface_ok hsurf
    rw [hsurf] at h
    cases h
    refine ⟨line, ⟨Chain.sound_single.mpr (hf.moved hahead), rfl, rfl, ?_⟩, rfl, ?_,
      hf.current?_moved hahead, rfl, expanded⟩
    · intro other hother
      exact plain.lines other (hahead ▸ List.mem_cons_of_mem _ hother)
    · simp only [toSurface, hahead]
      exact ordinary_cons hline ahead

/-- What a scanner surfaces of a source that includes nothing are its ordinary lines. -/
theorem Plain.drained {taken : List (Text × Scanner × Store)} (plain : sc.Plain)
    (h : Act.Drained (Scanner.hasNext resources) (Scanner.next resources) (sc, s) taken) :
    taken.map (fun t => (t.2.1.taken?, t.2.1.isEchoed)) =
        sc.toSurface.map (fun line => (some line, (splitEcho line.text).1)) ∧
      ∀ t ∈ taken, ∃ line, t.2.1.taken? = some line ∧
        sc.settings.expander.expand t.2.2.registry (withoutEcho line.text) = .ok t.1 := by
  generalize hst : (sc, s) = st at h
  induction h generalizing sc s with
  | @ended st st' events asked =>
    obtain ⟨after, s'⟩ := st'
    subst hst
    obtain ⟨-, -, same, rest⟩ := plain.hasNext asked
    have nothing : after.toSurface = [] := by
      rw [toSurface, rest.2.2.2]
      rfl
    rw [← same, nothing]
    exact ⟨rfl, fun t ht => absurd ht List.not_mem_nil⟩
  | @took st mid st' events made text taken asked given more ih =>
    obtain ⟨⟨sc', t⟩, after, s'⟩ := mid, st'
    subst hst
    obtain ⟨plain', settings, same, rest⟩ := plain.hasNext asked
    obtain ⟨line, plain'', settings', first, htaken, hechoed, expanded⟩ := plain'.next rest given
    obtain ⟨lines, texts⟩ := ih plain'' rfl
    rw [settings', settings] at expanded texts
    rw [← same, first]
    refine ⟨?_, List.forall_mem_cons.mpr ⟨⟨line, htaken, expanded⟩, texts⟩⟩
    rw [List.map_cons, List.map_cons, lines, htaken, hechoed]

end Scanner

namespace Scanner

theorem settings_openSource {resources : Resources} {source : Source} {trim compress : Option Bool}
    {sc sc' : Scanner} {s s' : Store} {events : List Event}
    (h : openSource resources source trim compress (sc, s) = ⟨.ok (), (sc', s'), events⟩) :
    sc'.settings =
      { sc.settings with options := sc.settings.options.override trim compress } := by
  have opened : Wp (openSource resources source trim compress)
      (fun _ st => st.1.settings =
        { sc.settings with options := sc.settings.options.override trim compress })
      (fun _ _ => True) (sc, s) := by
    simp only [openSource, modifyChain, Wp.bind_iff, Wp.modify_iff, Wp.get_iff, wp_openFrame]
    split <;> trivial
  exact opened.value h

end Scanner

/-- **Classifying and executing agree.** At most one form fits a line without its echo keyword,
an inclusion being one of them, so its label is the same in whatever order the forms are tried. A
script scanner takes a line for a built-in exactly if the label says that it prints, pauses or
sets properties, or if it includes. So when a script without inclusions is drained and nothing
interrupts it, the lines that are surfaced are those to which a classifier with the same options
gives one of the other labels: the same texts, each before its references are expanded as the
registry then stands, with the same echo marks. -/
theorem classifier_agrees_with_scanner (resources : Resources) :
    (∀ line : Text,
      let bare := withoutEcho line
      (Command.forms.map (fun form => (form.2 bare).isSome) ++
          [(Form.include? bare).isSome]).count true ≤ 1 ∧
        (∀ order : List (Text × (Text → Option Command)), order.Perm Command.forms →
          (Label.ofLine line).command = (order.findSome? (·.2 bare)).getD .ordinary) ∧
        (Kind.script.recognizes line = true ↔
          (Label.ofLine line).command.isExecuted = true ∨ (Form.include? bare).isSome)) ∧
      ∀ (source : Source) (trim compress : Option Bool) (sc sc' : Scanner) (s s' : Store)
        (events : List Event) (c : Classifier) (taken : List (Text × Scanner × Store)),
        sc.settings.kind = .script → c.reader.options = sc.settings.options →
        Scanner.openSource resources source trim compress (sc, s) = ⟨.ok (), (sc', s'), events⟩ →
        (∀ line ∈ sc'.chain.frame.cursor.lines, Form.include? (withoutEcho line.text) = none) →
        Act.Drained (Scanner.hasNext resources) (Scanner.next resources) (sc', s') taken →
        ∃ c' opening read,
          Classifier.openSource resources source trim compress c = ⟨.ok (), c', opening⟩ ∧
            Act.Drained Classifier.hasNext Classifier.next c' read ∧
            (taken.map fun t => (t.2.1.taken?.map (withoutEcho ·.text), t.2.1.isEchoed)) =
              ((read.filter fun r => !r.2.label.command.isExecuted).map fun r =>
                (some r.1, r.2.label.echoed)) ∧
            ∀ t ∈ taken, ∃ line, t.2.1.taken? = some line ∧
              sc.settings.expander.expand t.2.2.registry (withoutEcho line.text) = .ok t.1 := by
  constructor
  · intro line bare
    refine ⟨Command.count_forms_le_one bare, fun order horder => ?_,
      Kind.script_recognizes_iff line⟩
    rw [Command.findSome?_of_perm horder]
    rfl
  · intro source trim compress sc sc' s s' events c taken hkind hoptions hopen plain hdrained
    obtain ⟨-, name, raw, hread, hchain⟩ := Scanner.openSource_ok hopen
    have hsettings := Scanner.settings_openSource hopen
    obtain ⟨c', opening, hopen', hcursor⟩ := @Classifier.openSource_of_read c resources source name
      raw hread trim compress
    have lines : sc'.settings.linesOf raw =
        Line.ingest (c.reader.options.override trim compress).toCleaning none raw := by
      rw [hsettings, hoptions, Settings.linesOf, hkind]
      rfl
    obtain ⟨read, hread', labels⟩ := @Classifier.exists_drained c'
      (by rw [hcursor]; exact Cursor.sound_opened ..) (by rw [hcursor]; rfl)
    have plain : ∀ line ∈ sc'.settings.linesOf raw,
        Form.include? (withoutEcho line.text) = none := by
      rw [hchain] at plain
      exact plain
    have start : sc'.Plain := by
      refine ⟨?_, ?_, ?_, ?_⟩
      · rw [hchain]
        exact Chain.sound_single.mpr (Cursor.sound_opened ..)
      all_goals rw [hchain]
      · rfl
      · exact plain
    obtain ⟨surfaced, texts⟩ := start.drained hdrained
    refine ⟨c', opening, read, hopen', hread', ?_, ?_⟩
    · have kind : sc'.settings.kind = .script := by rw [hsettings, hkind]
      have same : sc'.toSurface = (sc'.settings.linesOf raw).filter fun line =>
          !(Label.ofLine line.text).command.isExecuted := by
        rw [Scanner.toSurface, hchain]
        refine List.filter_congr fun line hline => ?_
        have iff := Kind.script_recognizes_iff line.text
        rw [plain line hline] at iff
        rw [kind, Bool.eq_iff_iff]
        simpa using iff
      have written := congrArg (List.map fun p => (p.1.map (withoutEcho ·.text), p.2)) surfaced
      have others := congrArg
        (fun l => (l.filter fun p => !p.2.command.isExecuted).map fun p => (some p.1, p.2.echoed))
        labels
      rw [hcursor, ← lines] at others
      simp only [List.map_map, List.filter_map, Function.comp_def] at written others
      rw [written, same]
      exact others.symm
    · rw [hsettings] at texts
      exact texts

def labelledScript : Text :=
  "print hi\necho foreach\nsetProperty x=1\nmakeNewRoot r\necho sleep 2\nuse $\x7bx\x7d\nEND".toList

theorem classifier_agrees_with_scanner_labelled :
    let start := Scanner.openSource {} (.text labelledScript) none none
      (.new { kind := .script }, { registry := .withGlobals })
    start.result = .ok () ∧
      (∀ line ∈ start.state.1.chain.frame.cursor.lines,
        Form.include? (withoutEcho line.text) = none) ∧
      ∃ taken c' opening read,
        Act.Drained (Scanner.hasNext {}) (Scanner.next {}) start.state taken ∧
          (taken.map fun t => (t.1, t.2.1.isEchoed)) =
            [("foreach".toList, true), ("makeNewRoot r".toList, false), ("use 1".toList, false),
              ("END".toList, false)] ∧
          Classifier.openSource {} (.text labelledScript) none none {} = ⟨.ok (), c', opening⟩ ∧
          Act.Drained Classifier.hasNext Classifier.next c' read ∧
          (taken.map fun t => (t.2.1.taken?.map (withoutEcho ·.text), t.2.1.isEchoed)) =
            ((read.filter fun r => !r.2.label.command.isExecuted).map fun r =>
              (some r.1, r.2.label.echoed)) := by
  intro start
  have opened : start = ⟨.ok (), (start.state.1, start.state.2), start.events⟩ := rfl
  have plain : ∀ line ∈ start.state.1.chain.frame.cursor.lines,
      Form.include? (withoutEcho line.text) = none := by
    decide +kernel
  have drains := @Scanner.drains_remaining {} start.state.1
    (Chain.sound_single.mpr (Cursor.sound_opened ..)) start.state.2
  obtain ⟨taken, drained, lines⟩ := drains.drained (by decide +kernel)
  obtain ⟨c', opening, read, hopen, hread, same, -⟩ := (classifier_agrees_with_scanner {}).2 _ _ _ _
    _ _ _ _ {} taken rfl rfl opened plain drained
  exact ⟨rfl, plain, taken, c', opening, read, drained, lines.trans (by decide +kernel), hopen,
    hread, same⟩

end CommandScript
