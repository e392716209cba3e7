import CommandScript.Proofs.Classification
import CommandScript.Proofs.DrawnTexts
import CommandScript.Proofs.Surfacing

/-!
# Listing the commands of a script

A listing has an entry for each line of a script, in order, unless a pause has too many digits.
The table of a listing shows all payloads literally. The title above it names the script, and
this is read as markup, so a display may be unable to draw the table.
-/

namespace CommandScript

/-! ### Lists that fail -/

section

variable {α β ε : Type} {f : α → Except ε β} {e : ε}

theorem mapM_cons_eq_error_iff {x : α} {l : List α} :
    (x :: l).mapM f = .error e ↔
      f x = .error e ∨ (∀ e, f x ≠ .error e) ∧ l.mapM f = .error e := by
  rw [List.mapM_cons]
  cases hx : f x with
  | error e' => simp [bind, Except.bind]
  | ok b => cases l.mapM f <;> simp [bind, Except.bind, pure, Except.pure]

/-- The first element that fails makes a whole list fail. -/
theorem mapM_eq_error_iff {l : List α} :
    l.mapM f = .error e ↔ ∃ early x late, l = early ++ x :: late ∧
      (∀ y ∈ early, ∀ e, f y ≠ .error e) ∧ f x = .error e := by
  induction l with
  | nil => simp [pure, Except.pure]
  | cons y l ih =>
    rw [mapM_cons_eq_error_iff, ih]
    constructor
    · rintro (failed | ⟨fine, early, x, late, rfl, first, failed⟩)
      · exact ⟨[], y, l, rfl, fun z hz => absurd hz List.not_mem_nil, failed⟩
      · exact ⟨y :: early, x, late, rfl, List.forall_mem_cons.mpr ⟨fine, first⟩, failed⟩
    · rintro ⟨_ | ⟨z, early⟩, x, late, hl, first, failed⟩ <;> cases hl
      · exact .inl failed
      · obtain ⟨fine, first⟩ := List.forall_mem_cons.mp first
        exact .inr ⟨fine, early, x, late, rfl, first, failed⟩

end

/-! ### Lines -/

namespace Line

def payload (line : Line) : Except Error Text :=
  match (Label.ofLine line.text).command with
  | .properties key value | .setProperty key value => .ok (key ++ "=" ++ value)
  | .sleep digits =>
    if digitLimit < digits.length then .error (.numeralTooLong (.digits digits.length))
    else CommandLine.pauseText (Text.decimalValue digits * 1000)
  | .makeNewRoot text | .batch text | .print text | .saveTo text | .useAsInput text => .ok text
  | .ordinary => .ok (withoutEcho line.text)
  | .foreach | .endOfLoop => .ok []

/-- The line pauses for a time that has too many digits to be read, or in milliseconds to be
written. -/
inductive Overlong (line : Line) : Error → Prop where
  | numeral {digits : Text} (pauses : (Label.ofLine line.text).command = .sleep digits)
      (long : digitLimit < digits.length) : Overlong line (.numeralTooLong (.digits digits.length))
  | number {digits : Text} (pauses : (Label.ofLine line.text).command = .sleep digits)
      (short : digits.length ≤ digitLimit)
      (long : digitLimit < (Text.ofNat (Text.decimalValue digits * 1000)).length) :
      Overlong line .numberTooLong

theorem payload_eq_error_iff {line : Line} {e : Error} :
    line.payload = .error e ↔ line.Overlong e := by
  constructor
  · intro h
    simp only [payload] at h
    split at h
    case h_3 digits pauses =>
      split at h
      · rename_i long
        cases h
        exact .numeral pauses long
      · rename_i short
        simp only [CommandLine.pauseText] at h
        split at h
        · rename_i long
          cases h
          exact .number pauses (Nat.le_of_not_lt short) long
        · cases h
    all_goals cases h
  · intro h
    cases h with
    | numeral pauses long => simp [payload, pauses, long]
    | number pauses short long =>
      simp [payload, pauses, Nat.not_lt_of_le short, CommandLine.pauseText, long]

end Line

namespace CommandLine

/-- What is listed of a line that has just been taken. -/
theorem payload_labelled {c : Classifier} (sound : c.reader.cursor.Sound) {line : Line}
    {ahead : List Line} (h : c.reader.cursor.ahead = line :: ahead) :
    payload (c.labelled line ahead) = line.payload := by
  have label : (c.labelled line ahead).label = Label.ofLine line.text := rfl
  simp only [payload, Line.payload, Classifier.pause?, label, Classifier.current?_labelled sound h]
  cases (Label.ofLine line.text).command with
  | sleep digits =>
    dsimp only
    split <;> rfl
  | _ => rfl

namespace Entry

def ofLine (line : Line) : Except Error Entry :=
  line.payload.map fun payload =>
    ⟨line.number, (Label.ofLine line.text).command, payload, (Label.ofLine line.text).echoed⟩

def seen (literal : Text → Text) (entry : Entry) : List Text :=
  [Text.ofNat entry.number, entry.command.listingName, literal entry.payload,
    if entry.echoed then "✅".toList else []]

end Entry

section

variable {display : Display} {rendering : Rendering} {literal : Text → Text}

theorem words_listingName : ∀ command : Command, Words command.listingName
  | .makeNewRoot _ => (by decide +kernel : Words "MAKE_NEW_ROOT".toList)
  | .batch _ => (by decide +kernel : Words "BATCH".toList)
  | .foreach => (by decide +kernel : Words "FOREACH".toList)
  | .endOfLoop => (by decide +kernel : Words "END".toList)
  | .properties .. => (by decide +kernel : Words "PROPERTIES".toList)
  | .setProperty .. => (by decide +kernel : Words "SET_PROPERTY".toList)
  | .print _ => (by decide +kernel : Words "PRINT".toList)
  | .saveTo _ => (by decide +kernel : Words "SAVE_TO".toList)
  | .useAsInput _ => (by decide +kernel : Words "USE_AS_INPUT".toList)
  | .sleep _ => (by decide +kernel : Words "SLEEP".toList)
  | .ordinary => (by decide +kernel : Words "ORDINARY".toList)

theorem read?_cells (escapes : display.Escapes rendering literal) (entry : Entry) :
    (entry.cells display).mapM rendering.read? = some (entry.seen literal) := by
  have number := escapes (.ofWords (.ofNat entry.number))
  have payload := escapes (.escaped entry.payload)
  have color : (if entry.command = .ordinary then "white".toList else "green".toList) ∈
      styleNames := by
    split <;> decide +kernel
  have name := escapes (.styled color (words_listingName entry.command).isLabel .nil)
  have mark : rendering.read? (if entry.echoed then "✅".toList else []) =
      some (if entry.echoed then "✅".toList else []) := by
    refine escapes (.ofWords ?_)
    cases entry.echoed <;> decide +kernel
  rw [List.append_nil, List.append_nil] at name
  simp only [Entry.cells, Entry.seen, List.mapM_cons, List.mapM_nil, number, name, payload, mark]
  rfl

/-- Only the title of a table may be malformed. -/
theorem readTable?_table (escapes : display.Escapes rendering literal) (found : List Entry)
    (name : Text) : rendering.readTable? (table display found name) =
      (rendering.read? ("Classification: " ++ name)).map fun title =>
        ⟨title, Entry.columns, found.map (Entry.seen literal)⟩ := by
  have rows : (found.map (Entry.cells display)).mapM (·.mapM rendering.read?) =
      some (found.map (Entry.seen literal)) := by
    induction found with
    | nil => rfl
    | cons entry found ih => simp [List.mapM_cons, read?_cells escapes entry, ih]
  exact rendering.readTable?_of_rows rows

end

/-! ### Entries -/

/-- As many lines as follow are listed. -/
theorem entries_ahead {c : Classifier} (sound : c.reader.cursor.Sound) {lines : List Line}
    (ahead : c.reader.cursor.ahead = lines) :
    ∃ c' log, Event.unlogged log = [] ∧
      entries lines.length c = ⟨lines.mapM Entry.ofLine, c', log⟩ := by
  induction lines generalizing c with
  | nil => exact ⟨c, [], rfl, rfl⟩
  | cons line rest ih =>
    obtain ⟨log, quiet, taken⟩ := Classifier.quietly_advance? ahead
    obtain ⟨c', late, quiet', listed⟩ := @ih (c.labelled line rest) (sound.moved ahead) rfl
    rw [List.length_cons, List.mapM_cons, entries, Act.bind_apply, taken]
    simp only [Act.bind_apply, Act.get_apply, payload_labelled sound ahead, Entry.ofLine]
    cases line.payload with
    | error e =>
      refine ⟨c.labelled line rest, log, quiet, ?_⟩
      simp [Except.map, bind, Except.bind]
    | ok payload =>
      refine ⟨c', log ++ late, by rw [Scanner.unlogged_append, quiet, quiet']; rfl, ?_⟩
      simp only [Act.ofExcept_ok, listed]
      cases rest.mapM Entry.ofLine with
      | error e => simp; rfl
      | ok found => simp; rfl

/-! ### Listings -/

variable {σ : Type}

/-- What drawing something in the end comes to, if nothing fails before. -/
def finish (done : Except Error (Except Error Text)) (events : List Event) (s : σ) :
    Outcome σ Unit :=
  match done >>= id with
  | .ok text => ⟨.ok (), s, events ++ [.drew text]⟩
  | .error e => ⟨.error e, s, events⟩

theorem draw_apply (drawn : Except Error Text) (s : σ) :
    draw drawn s = finish (.ok drawn) [] s := by
  cases drawn <;> rfl

theorem after_finish (done : Except Error (Except Error Text)) (early events : List Event) (s : σ) :
    (finish done events s).after early = finish done (early ++ events) s := by
  simp only [finish]
  cases done >>= id <;> simp

namespace Script

def lines (script : Script) (raw : Text) : List Line :=
  Line.ingest script.options.toCleaning none raw

def listing (script : Script) (resources : Resources) : Except Error (List Entry) := do
  let (_, raw) ← script.source.read resources
  (script.lines raw).mapM Entry.ofLine

/-- The lines of a script cannot be listed if it cannot be read, or if it has an overlong line. -/
theorem listing_eq_error_iff {script : Script} {resources : Resources} {e : Error} :
    script.listing resources = .error e ↔ script.source.read resources = .error e ∨
      ∃ raw early line late, script.source.read resources = .ok (script.name, raw) ∧
        script.lines raw = early ++ line :: late ∧
        (∀ other ∈ early, ∀ e, ¬ other.Overlong e) ∧ line.Overlong e := by
  have entry (line : Line) (e : Error) : Entry.ofLine line = .error e ↔ line.Overlong e := by
    rw [← Line.payload_eq_error_iff, Entry.ofLine]
    cases line.payload <;> simp [Except.map]
  rw [listing]
  cases hread : script.source.read resources with
  | error e' => simp [bind, Except.bind]
  | ok source =>
    obtain ⟨name, raw⟩ := source
    obtain rfl : name = script.name := Source.name_of_read hread
    constructor
    · intro failed
      obtain ⟨early, line, late, hl, fine, overlong⟩ := mapM_eq_error_iff.mp failed
      refine .inr ⟨raw, early, line, late, rfl, hl, fun other mem e long => ?_,
        (entry line e).mp overlong⟩
      exact fine other mem e ((entry other e).mpr long)
    · rintro (unread | ⟨raw', early, line, late, hraw, hl, fine, overlong⟩)
      · cases unread
      · cases hraw
        refine mapM_eq_error_iff.mpr ⟨early, line, late, hl, fun other mem e long => ?_,
          (entry line e).mpr overlong⟩
        exact fine other mem e ((entry other e).mp long)

/-- Opening a source looks for a file, if any, and logs. -/
theorem openSource_apply (resources : Resources) (source : Source) (trim compress : Option Bool)
    (c : Classifier) : ∃ c' log, Event.unlogged log = [] ∧
      Classifier.openSource resources source trim compress c =
        ⟨(source.read resources).map fun _ => (), c', source.path?.toList.map .sought ++ log⟩ := by
  simp only [Classifier.openSource, Classifier.clearLabel, Classifier.onReader, Reader.openSource,
    openCursor, openLines, openLinesBy, Act.bind_apply, Act.modify_apply, Act.get_apply,
    Act.emitAll_apply]
  cases source.read resources with
  | error e =>
    simp only [Act.ofExcept_error, Outcome.after_mk, Outcome.mapState_mk, List.nil_append]
    exact ⟨_, [], rfl, rfl⟩
  | ok opened =>
    simp only [Act.ofExcept_ok, Act.pure_apply, Outcome.after_mk, Outcome.mapState_mk,
      List.nil_append, List.append_nil]
    refine ⟨_, _, ?_, rfl⟩
    split
    · exact unlogged_ingestionLog ..
    · rfl

/-- **Listing the commands of a script** looks for its file, if any, logs, and at last draws the
table of its entries, if nothing fails. -/
theorem listCommands_apply (display : Display) (script : Script) (resources : Resources) :
    ∃ c' log, Event.unlogged log = [] ∧
      script.listCommands display resources { reader := { options := script.options } } =
        finish ((script.listing resources).map fun found =>
            display.table (table display found script.name))
          (script.source.path?.toList.map .sought ++ log) c' := by
  obtain ⟨c, log, quiet, opened⟩ := openSource_apply resources script.source none none
    { reader := { options := script.options } }
  rw [listing]
  cases hread : script.source.read resources with
  | error e =>
    rw [hread] at opened
    refine ⟨c, log, quiet, ?_⟩
    rw [listCommands, Act.bind_apply, opened]
    rfl
  | ok source =>
    obtain ⟨name, raw⟩ := source
    obtain rfl : name = script.name := Source.name_of_read hread
    obtain ⟨c', events, opened', cursor⟩ := Classifier.openSource_of_read hread none none
    rw [opened, hread] at opened'
    cases opened'
    obtain ⟨c'', late, quiet', listed⟩ := @entries_ahead c
      (by rw [cursor]; exact Cursor.sound_opened ..) (script.lines raw) (by rw [cursor]; rfl)
    have all : c.reader.cursor.lines.length = (script.lines raw).length := by rw [cursor]; rfl
    have named : c.reader.cursor.name.getD [] = script.name := by rw [cursor]; rfl
    refine ⟨c'', log ++ late, by rw [Scanner.unlogged_append, quiet, quiet']; rfl, ?_⟩
    rw [hread] at opened
    rw [listCommands, Act.bind_apply, opened]
    simp only [Except.map, Act.bind_apply, Act.get_apply, all, named, listed]
    show _ = finish (((script.lines raw).mapM Entry.ofLine).map _) _ _
    cases (script.lines raw).mapM Entry.ofLine with
    | error e => simp [finish, Except.map, bind, Except.bind]
    | ok found =>
      simp only [draw_apply, after_finish, Except.map, List.append_assoc, List.append_nil,
        List.nil_append]

/-- What is drawn of a script's entries: all payloads as they are, and a title that is read as
markup. Where this is malformed, the display does as it likes. -/
def drawing (display : Display) (rendering : Rendering) (literal : Text → Text) (script : Script)
    (found : List Entry) : Except Error Text :=
  match rendering.read? ("Classification: " ++ script.name) with
  | some title => .ok (rendering.table ⟨title, Entry.columns, found.map (Entry.seen literal)⟩)
  | none => display.table (table display found script.name)

theorem table_drawn {display : Display} {rendering : Rendering} {literal : Text → Text}
    (draws : display.Draws rendering) (escapes : display.Escapes rendering literal)
    (script : Script) (found : List Entry) :
    display.table (table display found script.name) =
      script.drawing display rendering literal found := by
  have read := readTable?_table escapes found script.name
  rw [drawing]
  cases title : rendering.read? ("Classification: " ++ script.name) with
  | none => rfl
  | some title' =>
    rw [title] at read
    exact draws.table read

end Script

end CommandLine
end CommandScript
