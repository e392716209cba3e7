import CommandScript.Proofs.CursorProtocol
import CommandScript.Proofs.StoredLines

/-!
# Labels

A label is overwritten only where some form fits a line, and cleared elsewhere: before every line
that is taken, and wherever a classifier begins anew. So at every moment it is the label of the
current line alone, whatever was read before, and of all that can be asked about a line just one
question has an answer, the one that belongs to its command.
-/

namespace CommandScript

open Act

/-! ### What is said of a line -/

/-- What a classifier can be asked for about the current line. -/
inductive Detail where
  | keyValue
  | printed
  | saveTo
  | useAsInput
  | newRoot
  | batch
  | pause
  | command
  | foreach
  | endOfLoop
  deriving DecidableEq, Repr

def Command.detail : Command → Detail
  | .makeNewRoot _ => .newRoot
  | .batch _ => .batch
  | .foreach => .foreach
  | .endOfLoop => .endOfLoop
  | .properties .. => .keyValue
  | .setProperty .. => .keyValue
  | .print _ => .printed
  | .saveTo _ => .saveTo
  | .useAsInput _ => .useAsInput
  | .sleep _ => .pause
  | .ordinary => .command

/-- All that a classifier says of the current line. -/
structure Findings where
  type : Text
  echoed : Bool
  current? : Option Text
  keyValue? : Option (Text × Text)
  printed? : Option Text
  saveTo? : Option Text
  useAsInput? : Option Text
  newRoot? : Option Text
  batch? : Option Text
  pause? : Except Error (Option Nat)
  command? : Option Text
  isForeach : Bool
  isEnd : Bool

namespace Findings

/-- The detail is there: a value, or that it is so. -/
def reports (f : Findings) : Detail → Bool
  | .keyValue => f.keyValue?.isSome
  | .printed => f.printed?.isSome
  | .saveTo => f.saveTo?.isSome
  | .useAsInput => f.useAsInput?.isSome
  | .newRoot => f.newRoot?.isSome
  | .batch => f.batch?.isSome
  | .pause =>
    match f.pause? with
    | .ok pause => pause.isSome
    | .error _ => false
  | .command => f.command?.isSome
  | .foreach => f.isForeach
  | .endOfLoop => f.isEnd

end Findings

namespace Classifier

variable {c : Classifier}

def findings (c : Classifier) : Findings where
  type := c.label.command.listingName
  echoed := c.label.echoed
  current? := c.current?
  keyValue? := c.keyValue?
  printed? := c.printed?
  saveTo? := c.saveTo?
  useAsInput? := c.useAsInput?
  newRoot? := c.newRoot?
  batch? := c.batch?
  pause? := c.pause?
  command? := c.command?
  isForeach := c.isForeach
  isEnd := c.isEnd

/-- The classifier reads lines of a store, and its label is that of the current line alone. -/
structure Labelled (c : Classifier) : Prop where
  stored : c.reader.cursor.Stored
  label : c.label = (c.reader.cursor.current?.map fun line => Label.ofLine line.text).getD {}

/-! ### Keeping the label -/

/-- The classifier after it has been made to read, which clears the label where nothing was
read yet. -/
def begun (c : Classifier) : Classifier where
  reader := { c.reader with cursor := c.reader.cursor.started }
  label := if c.reader.cursor.reading.isNone then {} else c.label

theorem state_hasNext (c : Classifier) : (hasNext c).state = c.begun := by
  cases hr : c.reader.cursor.reading <;>
    simp [hasNext, begun, clearLabel, onReader, Reader.hasNext, bind_apply, hr]

/-- At the end nothing is taken. -/
theorem advance?_of_ended (h : c.reader.cursor.started.ahead = []) :
    advance? c = ⟨.ok none, c.begun, []⟩ := by
  cases hr : c.reader.cursor.reading <;>
    simp [advance?, begun, clearLabel, onReader, Reader.advance?, Cursor.advance?, bind_apply, hr, h]

theorem labelled_unopened (options : Options) : Labelled { reader := { options := options } } :=
  ⟨Cursor.stored_unopened, rfl⟩

theorem Labelled.begun (h : c.Labelled) : c.begun.Labelled := by
  obtain ⟨stored, label⟩ := h
  cases hr : c.reader.cursor.reading with
  | none =>
    refine ⟨fun line mem => stored line ?_, ?_⟩
    · have same : c.begun.reader.cursor.lines = c.reader.cursor.lines :=
        congrArg Prod.snd (Cursor.source_started c.reader.cursor)
      exact same ▸ mem
    · simp [Classifier.begun, Cursor.started, hr, Cursor.rewind, Cursor.current?, Cursor.position?]
  | some r =>
    have same : c.begun = c := by simp [Classifier.begun, Cursor.started, hr]
    rw [same]
    exact ⟨stored, label⟩

/-- A line that is taken is labelled by itself. -/
theorem labelled_taken (h : c.Labelled) (sound : c.reader.cursor.Sound) {line : Line}
    {ahead : List Line} (hahead : c.reader.cursor.ahead = line :: ahead) :
    (c.labelled line ahead).Labelled := by
  refine ⟨h.stored, ?_⟩
  have here : (c.labelled line ahead).reader.cursor.current? = some line :=
    sound.current?_moved hahead
  rw [here]
  rfl

theorem labelled_advance? (h : c.Labelled) (sound : c.reader.cursor.Sound) :
    Leaves advance? Labelled c := by
  rw [leaves_iff]
  cases hahead : c.reader.cursor.ahead with
  | nil =>
    rw [advance?_of_ended (sound.ahead_started.trans hahead)]
    exact h.begun
  | cons line ahead =>
    obtain ⟨log, -, run⟩ := quietly_advance? hahead
    rw [run]
    exact labelled_taken h sound hahead

theorem labelled_current (h : c.Labelled) : Leaves current Labelled c := by
  simp only [current, Leaves, Wp.bind_iff, Wp.get_iff]
  split <;> exact h

theorem labelled_next (h : c.Labelled) (sound : c.reader.cursor.Sound) :
    Leaves next Labelled c := by
  refine (labelled_advance? h sound).bind fun taken d hd => ?_
  cases taken with
  | none => exact hd
  | some line => exact labelled_current hd

theorem labelled_next? (h : c.Labelled) (sound : c.reader.cursor.Sound) :
    Leaves next? Labelled c := by
  refine (labelled_advance? h sound).bind fun taken d hd => ?_
  cases taken <;> exact hd

theorem labelled_openSource {resources : Resources} (source : Source)
    (trim compress : Option Bool) :
    Leaves (openSource resources source trim compress) Labelled c := by
  rw [openSource, Leaves, Wp.bind_iff, clearLabel, Wp.modify_iff, wp_onReader]
  simp only [Reader.openSource, Wp.bind_iff, Wp.modify_iff, Wp.get_iff, wp_openCursor]
  split
  · exact ⟨fun line mem => ⟨_, _, _, mem⟩, rfl⟩
  · exact labelled_unopened _

end Classifier

def Walker.IsClassifier (P : Classifier → Prop) (w : Walker) : Prop := ∃ c, w = .classifier c ∧ P c

namespace Run

variable {α : Type} {resources : Resources} {s : Store} {P : Classifier → Prop} {c : Classifier}

theorem leaves_byClassifier {r : Act Reader α} {x : Act Classifier α} {sc : Scanner.Scan α}
    (h : Leaves x P c) :
    Leaves (byFamily r x sc) (·.1.IsClassifier P) (.classifier c, s) :=
  leaves_iff.mpr ⟨_, rfl, leaves_iff.mp h⟩

/-- No classifier loses its label or keeps an old one, unless it is told to label another text. That
holds also where something fails. -/
theorem labelled_perform (h : c.Labelled) (sound : c.reader.cursor.Sound) {op : Operation}
    (own : ∀ text, op ≠ .determine text) :
    Leaves (perform resources op) (·.1.IsClassifier Classifier.Labelled) (.classifier c, s) := by
  cases op with
  | openSource source trim compress =>
    exact (leaves_byClassifier (Classifier.labelled_openSource source trim compress)).map _
  | reset =>
    refine (leaves_byClassifier ?_).map _
    exact Classifier.labelled_unopened c.reader.options
  | rewind =>
    refine (leaves_byClassifier ?_).map _
    exact ⟨h.stored, rfl⟩
  | hasNext =>
    refine (leaves_byClassifier ?_).map _
    rw [leaves_iff, Classifier.state_hasNext]
    exact h.begun
  | next => exact (leaves_byClassifier (Classifier.labelled_next h sound)).map _
  | next? => exact (leaves_byClassifier (Classifier.labelled_next? h sound)).map _
  | current => exact (leaves_byClassifier (Classifier.labelled_current h)).map _
  | ask q => exact ⟨c, rfl, h⟩
  | determine text => exact absurd rfl (own text)
  | current? | executeCurrent | expand | loadTable =>
    refine (leaves_byClassifier ?_).map _
    exact h

end Run

/-! ### Histories -/

/-- If the walker is a classifier, that has the property. -/
def Walker.OfClassifier (P : Classifier → Prop) : Walker → Prop
  | .classifier c => P c
  | _ => True

namespace Session

/-- No classifier is told to label a text that is not its next line. -/
def OwnLabels (turns : List Turn) : Prop :=
  ∀ turn ∈ turns, ∀ i text, ¬ turn.Does i (.determine text)

/-- What holds of every walker, and what none of the operations that are done takes away, still
holds behind a history. -/
theorem holds_history {resources : Resources} {P : Walker → Prop} (allowed : Operation → Prop)
    (new : ∀ options family, P (.new options family))
    (perform : ∀ {w}, P w → ∀ s op, allowed op → P (Run.perform resources op (w, s)).state.1)
    (duplicate : ∀ {w}, P w → P w.duplicate) (spawn : ∀ {w}, P w → P w.spawn) {se : Session}
    (hsep : se.Separate) (all : ∀ j w, se.view j = some w → P w) {turns : List Turn}
    (does : ∀ turn ∈ turns, ∀ i op, turn.Does i op → allowed op) :
    ∀ j w, (history resources turns se).2.view j = some w → P w := by
  induction turns generalizing se with
  | nil => exact all
  | cons turn turns ih =>
    obtain ⟨first, does⟩ := List.forall_mem_cons.mp does
    have one := taken resources hsep turn
    refine ih one.separate ?_ does
    generalize (take resources turn se).state = after at one ⊢
    cases one with
    | rested _ views => exact fun j w hw => all j w ((views j).symm.trans hw)
    | performed done there became =>
      exact Invariant.became all became (perform (all _ _ there) _ _ (first _ _ done))
    | made fresh became =>
      refine Invariant.became all became ?_
      rcases fresh with ⟨options, family, rfl⟩ | ⟨i, v, hv, rfl | rfl⟩
      · exact new options family
      · exact duplicate (all i v hv)
      · exact spawn (all i v hv)

/-- Every classifier stays labelled. -/
theorem labelled_history {resources : Resources} {se : Session} {turns : List Turn}
    (hsep : se.Separate)
    (all : ∀ j w, se.view j = some w → w.Sound ∧ w.OfClassifier Classifier.Labelled)
    (own : OwnLabels turns) :
    ∀ j w, (history resources turns se).2.view j = some w →
      w.Sound ∧ w.OfClassifier Classifier.Labelled := by
  refine holds_history (fun op => ∀ text, op ≠ .determine text) (fun options family => ?_)
    (fun {w} hw s op allowed => ?_) (fun {w} hw => ?_) (fun {w} hw => ?_) hsep all ?_
  · refine ⟨Walker.sound_new options family, ?_⟩
    cases family with
    | classifier => exact Classifier.labelled_unopened options
    | reader | scanner => trivial
  · have kept := leaves_iff.mp (Run.kept_perform resources s op hw.1)
    refine ⟨kept.sound, ?_⟩
    cases w with
    | classifier c =>
      obtain ⟨d, same, labelled⟩ := leaves_iff.mp (Run.labelled_perform hw.2 hw.1 allowed)
      rw [same]
      exact labelled
    | reader | scanner =>
      have family := kept.family
      revert family
      cases (Run.perform resources op (_, s)).state.1 with
      | classifier d => rintro ⟨⟩
      | reader | scanner => exact fun _ => trivial
  · rw [hw.1.duplicate_eq]
    exact hw
  · refine ⟨w.sound_spawn, ?_⟩
    cases w with
    | classifier c => exact Classifier.labelled_unopened c.reader.options
    | reader | scanner => trivial
  · rintro turn mem i op done text rfl
    exact own turn mem i text done

end Session

/-! ### One detail -/

namespace Classifier

variable {c : Classifier}

/-- Taking the only line of a new source. -/
theorem findings_fresh (options : Options) (name : Text) (line : Line) :
    (advance? { reader := ⟨options, .opened name [line]⟩ }).state.findings =
      (labelled { reader := ⟨options, .opened name [line]⟩ } line []).findings := by
  obtain ⟨log, -, run⟩ :=
    @quietly_advance? { reader := ⟨options, .opened name [line]⟩ } line [] rfl
  rw [run]

/-- The label and the text of the current line decide everything that is said of it. -/
theorem findings_congr {d : Classifier} (label : c.label = d.label)
    (current : c.current? = d.current?) : c.findings = d.findings := by
  simp only [findings, keyValue?, printed?, saveTo?, useAsInput?, newRoot?, batch?, pause?,
    command?, isForeach, isEnd, label, current]

theorem Labelled.label_eq (h : c.Labelled) {line : Line}
    (taken : c.reader.cursor.current? = some line) : c.label = Label.ofLine line.text := by
  rw [h.label, taken]
  rfl

/-- An ordinary line has a first word, since it is not blank. -/
theorem Labelled.isSome_command? (h : c.Labelled) {line : Line}
    (taken : c.reader.cursor.current? = some line) (ordinary : c.label.command = .ordinary) :
    c.command?.isSome := by
  have written := (h.stored.current? taken).bare_written
  have word : (Text.firstWord? (withoutEcho line.text)).isSome := by
    rw [Text.firstWord?]
    split
    · rename_i none
      have blank : Text.allBlank (withoutEcho line.text) = true :=
        List.all_eq_true.mpr (List.dropWhile_eq_nil_iff.mp none)
      rw [written] at blank
      cases blank
    · rfl
  simpa only [command?, ordinary, current?, taken, Option.map_some, Option.bind_some] using word

/-- A count of pauses that can be read. -/
def Fits (c : Classifier) : Prop :=
  ∀ digits, c.label.command = .sleep digits → digits.length ≤ digitLimit

/-- Just the detail of the command is there. -/
theorem reports_iff (word : c.label.command = .ordinary → c.command?.isSome) (fits : c.Fits)
    (detail : Detail) :
    c.findings.reports detail = true ↔ detail = c.label.command.detail := by
  have read {digits : Text} (sleeps : c.label.command = .sleep digits) :
      c.pause? = .ok (some (Text.decimalValue digits * 1000)) := by
    have short := fits digits sleeps
    simp only [pause?, sleeps, if_neg (Nat.not_lt.mpr short)]
  cases command : c.label.command with
  | sleep digits =>
    cases detail <;> simp [Findings.reports, findings, read command, Command.detail, keyValue?,
      printed?, saveTo?, useAsInput?, newRoot?, batch?, command?, isForeach, isEnd, command]
  | ordinary =>
    cases detail <;> simp [Findings.reports, findings, word command, Command.detail, keyValue?,
      printed?, saveTo?, useAsInput?, newRoot?, batch?, pause?, isForeach, isEnd, command]
  | _ =>
    cases detail <;> simp [Findings.reports, findings, Command.detail, keyValue?, printed?,
      saveTo?, useAsInput?, newRoot?, batch?, pause?, command?, isForeach, isEnd, command]

/-- A pause with too many digits is an error, and all else is absent. -/
theorem reports_of_long {digits : Text} (sleeps : c.label.command = .sleep digits)
    (long : digitLimit < digits.length) :
    c.pause? = .error (.numeralTooLong (.digits digits.length)) ∧
      ∀ detail, c.findings.reports detail = false := by
  have refused : c.pause? = .error (.numeralTooLong (.digits digits.length)) := by
    simp only [pause?, sleeps, if_pos long]
  refine ⟨refused, fun detail => ?_⟩
  cases detail <;> simp [Findings.reports, findings, refused, keyValue?, printed?, saveTo?,
    useAsInput?, newRoot?, batch?, command?, isForeach, isEnd, sleeps]

/-! ### The current line -/

/-- A classifier that has taken a line has a current one. -/
theorem exists_current? (faithful : c.reader.cursor.Faithful) (begun : 1 ≤ c.reader.cursor.place) :
    ∃ line, c.reader.cursor.current? = some line := by
  cases hr : c.reader.cursor.reading with
  | none =>
    have unread : c.reader.cursor.place = -1 := faithful.unread.mpr (by simp [Cursor.iterator?, hr])
    omega
  | some r =>
    obtain ⟨-, within, -⟩ := faithful.whole r.ahead (by simp [Cursor.iterator?, hr])
    have place : c.reader.cursor.place = r.position := by simp [Cursor.place, Cursor.position?, hr]
    obtain ⟨n, hn⟩ : ∃ n, r.position = n + 1 := ⟨r.position - 1, by omega⟩
    have inside : n < c.reader.cursor.lines.length := by omega
    refine ⟨c.reader.cursor.lines[n], ?_⟩
    simp [Cursor.current?, Cursor.position?, hr, hn]

/-- A current line was moved on to. -/
theorem place_of_current? {c : Cursor} {line : Line} (taken : c.current? = some line) :
    1 ≤ c.place := by
  simp only [Cursor.current?] at taken
  split at taken
  · rename_i n position
    simp only [Cursor.place, position]
    omega
  · cases taken

theorem taken_next (c : Classifier) :
    Wp next (fun t d => d.current? = some t) (fun _ _ => True) c := by
  rw [next, Wp.bind_iff]
  refine ((Wp.trivial_iff _).mpr trivial).mono (fun taken d _ => ?_) fun _ _ _ => trivial
  cases taken with
  | none => trivial
  | some line =>
    simp only [current, Wp.bind_iff, Wp.get_iff]
    split
    · rename_i text here
      exact here
    · trivial

theorem taken_next? (c : Classifier) :
    Wp next? (fun t d => t.isSome → d.current? = t) (fun _ _ => True) c := by
  rw [next?, Wp.bind_iff]
  refine ((Wp.trivial_iff _).mpr trivial).mono (fun taken d _ => ?_) fun _ _ _ => trivial
  cases taken with
  | none => exact fun none => by cases none
  | some line => exact fun _ => rfl

end Classifier

def Answer.line? : Answer → Option Text
  | .text t => some t
  | .maybe t => t
  | _ => none

namespace Run

variable {resources : Resources} {c : Classifier} {s : Store}

theorem wp_byClassifier {α : Type} {r : Act Reader α} {x : Act Classifier α} {sc : Scanner.Scan α}
    {ok : α → Walker × Store → Prop} {bad : Error → Walker × Store → Prop} :
    Wp (byFamily r x sc) ok bad (.classifier c, s) ↔
      Wp x (fun a d => ok a (.classifier d, s)) (fun e d => bad e (.classifier d, s)) c := Iff.rfl

/-- A line that a classifier hands out is its current one. -/
theorem taken_perform {op : Operation} (asks : op ∈ [Operation.next, .next?]) :
    Wp (perform resources op)
      (fun answer st => ∀ t, answer.line? = some t →
        st.1.IsClassifier fun d => d.current? = some t)
      (fun _ _ => True) (.classifier c, s) := by
  rcases List.mem_pair.mp asks with rfl | rfl
  · rw [perform, Wp.bind_iff, wp_byClassifier]
    refine (Classifier.taken_next c).mono (fun taken d here => ?_) fun _ _ _ => trivial
    rintro t ⟨⟩
    exact ⟨d, rfl, here⟩
  · rw [perform, Wp.bind_iff, wp_byClassifier]
    refine (Classifier.taken_next? c).mono (fun taken d here => ?_) fun _ _ _ => trivial
    rintro t ⟨⟩
    exact ⟨d, rfl, here rfl⟩

end Run

/-! ### Decided by the line -/

namespace Session

/-- What holds of a classifier of a session. -/
structure Decided (resources : Resources) (se : Session) (i : Nat) (c : Classifier) : Prop where
  /-- With a current line, it says what a new classifier says that has taken a line with the same
  text, and nothing else. -/
  alone : ∀ line, c.reader.cursor.current? = some line → ∀ options name number,
    let fresh : Classifier := { reader := ⟨options, .opened name [⟨number, line.text⟩]⟩ }
    c.findings = (Classifier.advance? fresh).state.findings
  /-- Just one detail of the line is there, that of its command. -/
  single : ∀ line, c.reader.cursor.current? = some line → c.Fits →
    ∀ detail, c.findings.reports detail = true ↔ detail = c.label.command.detail
  /-- Of a pause with too many digits there is none. -/
  long : ∀ digits, c.label.command = .sleep digits → digitLimit < digits.length →
    c.pause? = .error (.numeralTooLong (.digits digits.length)) ∧
      ∀ detail, c.findings.reports detail = false
  /-- A line that it hands out is its current one. -/
  taken : ∀ op ∈ [Operation.next, .next?], ∀ answer t,
    (take resources (.step (.perform i op)) se).result = .ok answer → answer.line? = some t →
    ∃ d, (take resources (.step (.perform i op)) se).state.view i = some (.classifier d) ∧
      d.current? = some t
  /-- It has a current line until it begins anew. -/
  lasting : ∀ line, c.reader.cursor.current? = some line → ∀ later, Continues i later →
    ∃ d line', (history resources later se).2.view i = some (.classifier d) ∧
      d.reader.cursor.current? = some line'
  /-- A copy of it is the same classifier. -/
  copied : (take resources (.step (.duplicate i)) se).state.view se.handles.length =
    some (.classifier c)

variable {resources : Resources} {se : Session} {i : Nat}

theorem family_history {w : Walker} (hsep : se.Separate) (there : se.view i = some w)
    (sound : w.Sound) (turns : List Turn) :
    ∃ w', (history resources turns se).2.view i = some w' ∧ w'.family = w.family := by
  have perform (w : Walker) (s : Store) (op : Operation) (_ : True) (sound : w.Sound) :
      (Run.perform resources op (w, s)).state.1.Sound ∧
        (Run.perform resources op (w, s)).state.1.family = w.family := by
    have kept := leaves_iff.mp (Run.kept_perform resources s op sound)
    exact ⟨kept.sound, kept.family⟩
  obtain ⟨w', view, kept⟩ := view_history
    (fun w w' => w.Sound → w'.Sound ∧ w'.family = w.family) (fun w sound => ⟨sound, rfl⟩)
    (fun huv hvw sound => ⟨(hvw (huv sound).1).1, (hvw (huv sound).1).2.trans (huv sound).2⟩)
    (fun _ => True) perform hsep there fun turn (_ : turn ∈ turns) _ _ => trivial
  exact ⟨w', view, (kept sound).2⟩

theorem taken_step {c : Classifier} (hsep : se.Separate)
    (there : se.view i = some (.classifier c)) {op : Operation}
    (asks : op ∈ [Operation.next, .next?]) {answer : Answer} {t : Text}
    (given : (take resources (.step (.perform i op)) se).result = .ok answer)
    (handed : answer.line? = some t) :
    ∃ d, (take resources (.step (.perform i op)) se).state.view i = some (.classifier d) ∧
      d.current? = some t := by
  have acts := acts_onWalker hsep there (Run.perform resources op)
  have result : (Run.perform resources op (.classifier c, se.store)).result = .ok answer :=
    acts.result.symm.trans given
  have taken := @Run.taken_perform resources c se.store op asks
  rw [Wp, result] at taken
  obtain ⟨d, same, here⟩ := taken t handed
  exact ⟨d, acts.became.view.trans (congrArg some same), here⟩

/-- Its position never decreases, so it keeps a current line until it begins anew. -/
theorem current?_lasting {c : Classifier} (hsep : se.Separate)
    (faithful : ∀ j w, se.view j = some w → w.Faithful)
    (there : se.view i = some (.classifier c)) (sound : c.reader.cursor.Sound) {line : Line}
    (taken : c.reader.cursor.current? = some line) {later : List Turn}
    (continues : Continues i later) :
    ∃ d line', (history resources later se).2.view i = some (.classifier d) ∧
      d.reader.cursor.current? = some line' := by
  obtain ⟨w, view, -, further⟩ :=
    @outermost_history resources se i _ hsep there later continues
  obtain ⟨w', view', family⟩ := @family_history resources se i _ hsep there sound later
  obtain rfl : w' = w := Option.some.inj (view'.symm.trans view)
  have whole := (invariant_faithful resources).history hsep faithful later i w' view'
  cases w' with
  | classifier d =>
    obtain ⟨line', here⟩ := Classifier.exists_current? (Walker.faithful_cursor whole)
      (Int.le_trans (Classifier.place_of_current? taken) further)
    exact ⟨d, line', view', here⟩
  | reader | scanner => cases family

/-- A copy of a classifier is the same classifier. -/
theorem view_copied {c : Classifier} (hsep : se.Separate)
    (there : se.view i = some (.classifier c)) (sound : (Walker.classifier c).Sound) :
    (take resources (.step (.duplicate i)) se).state.view se.handles.length =
      some (.classifier c) := by
  have copied : (joined i Walker.duplicate se).state = se.join (.classifier c) := by
    rw [joined, there]
    exact congrArg se.join sound.duplicate_eq
  have step : (take resources (.step (.duplicate i)) se).state = se.join (.classifier c) :=
    (state_map _ _ _).trans copied
  rw [step]
  exact (became_join hsep _).view

/-- **Decided by the line.** Whatever has happened to walkers that share a store, and wherever it
failed, as long as no classifier was told to label a text that is not its next line: what a
classifier says of its current line is decided by the text of that line alone, and just one detail
of the line is there, the one that belongs to its command. -/
theorem label_decided_by_line (resources : Resources) (s : Store) (turns : List Turn)
    (own : OwnLabels turns) {i : Nat} {c : Classifier}
    (there : (history resources turns { store := s }).2.view i = some (.classifier c)) :
    Decided resources (history resources turns { store := s }).2 i c := by
  have separate := separate_history resources (separate_empty s) turns
  obtain ⟨sound, labelled⟩ : c.reader.cursor.Sound ∧ c.Labelled :=
    labelled_history (separate_empty s) (fun j w hw => by simp [view] at hw) own i _ there
  constructor
  · intro line taken options name number fresh
    have label : c.label = Label.ofLine line.text := labelled.label_eq taken
    have text : c.current? = some (withoutEcho line.text) := by rw [Classifier.current?, taken]; rfl
    rw [Classifier.findings_fresh options name ⟨number, line.text⟩]
    exact Classifier.findings_congr label text
  · intro line taken fits
    exact Classifier.reports_iff (labelled.isSome_command? taken) fits
  · exact fun digits sleeps long => Classifier.reports_of_long sleeps long
  · intro op asks answer t given handed
    exact taken_step separate there asks given handed
  · intro line taken later continues
    exact current?_lasting separate (fun j w hw => (invariant_faithful resources).reached hw) there
      sound taken continues
  · exact view_copied separate there sound

/-- A classifier takes the first line of a script and is copied; the copy takes the second line,
and asks for a third one in vain. -/
def pausing : List Turn :=
  [.make .classifier {} false,
    .step (.perform 0 (.openSource (.text "print a\necho sleep 5".toList) none none)),
    .step (.perform 0 .next), .step (.duplicate 0), .step (.perform 1 .next),
    .step (.perform 1 .next)]

def labelOf : Walker → Option (Label × Option Text)
  | .classifier c => some (c.label, c.current?)
  | _ => none

/-- The copy is still at the line that it has taken last. -/
theorem label_decided_by_line_copied :
    OwnLabels pausing ∧
      ∃ c, (history {} pausing {}).2.view 1 = some (.classifier c) ∧
        c.label = ⟨true, .sleep "5".toList⟩ ∧ c.current? = some "sleep 5".toList ∧
        Decided {} (history {} pausing {}).2 1 c := by
  have own : OwnLabels pausing := by simp [OwnLabels, pausing, Turn.Does]
  have seen : ((history {} pausing {}).2.view 1).bind labelOf =
      some (⟨true, .sleep "5".toList⟩, some "sleep 5".toList) := by
    decide +kernel
  obtain ⟨w, there, said⟩ := Option.bind_eq_some_iff.mp seen
  cases w with
  | classifier c =>
    obtain ⟨label, current⟩ := Prod.mk.inj (Option.some.inj said)
    exact ⟨own, c, there, label, current, label_decided_by_line {} {} pausing own there⟩
  | reader | scanner => cases said

end Session

end CommandScript
