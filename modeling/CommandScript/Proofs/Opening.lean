import CommandScript.Proofs.Conditions
import CommandScript.Walker

/-!
# Opening a source

Whatever a walker was doing, opening a source leaves it in one of two states: at the start of
the lines of that source, or as if it had opened nothing. Which one, and with which error, is
a matter of the source alone. Bytes that are no UTF-8 and a path with a null character are
refused without an error of the script.
-/

namespace CommandScript

/-! ### How reading a source fails -/

namespace Source

def shownName : Source → Text
  | text content => content
  | path spelling => (Path.ofText spelling).toText
  | bytes _ => bytesName
  | textStream name _ => name
  | byteStream name _ => name
  | unsupported _ => []

/-- The file that the source names has a path that can be looked up. -/
structure Seeks (source : Source) (path : Path) : Prop where
  names : source.path? = some path
  clean : '\x00' ∉ path.toText

/-- Nothing is there: no file has the path, or no text the name. -/
inductive Absent (resources : Resources) (source : Source) : Prop where
  | file {path : Path} (seeks : source.Seeks path) (missing : resources.files.find path = .missing)
  | object {name : Text} (names : source = text ('!' :: name))
      (unresolved : resources.objects.find? name = none)

/-- A file is there, but gives no text. -/
inductive Unreadable (resources : Resources) (source : Source) : ReadFault → Prop where
  | nameTooLong {path : Path} (seeks : source.Seeks path)
      (refused : resources.files.find path = .nameTooLong) :
      Unreadable resources source (.nameTooLong path.toText)
  | notUtf8 {path : Path} {bytes : List UInt8} {fault : Utf8.Fault} (seeks : source.Seeks path)
      (found : resources.files.find path = .found bytes)
      (undecodable : Utf8.decodeFile bytes = .error fault) :
      Unreadable resources source (.notUtf8 fault)

/-- What is wrong with the source is not put into words that name it. -/
inductive Unguarded (source : Source) : Error → Prop where
  | bytes {content : List UInt8} {fault : Utf8.Fault}
      (given : source = bytes content ∨ ∃ name, source = byteStream name content)
      (undecodable : Utf8.decodeMarked content = .error fault) : Unguarded source (.notUtf8 fault)
  | null {path : Path} (names : source.path? = some path) (holds : '\x00' ∈ path.toText) :
      Unguarded source .nullInPath
  | unsupported {typeName : Text} (given : source = unsupported typeName) :
      Unguarded source (.unsupportedSource typeName)

/-- All that can be wrong with a source. -/
inductive Fails (resources : Resources) (source : Source) : Error → Prop where
  | absent (h : source.Absent resources) : Fails resources source (.notFound source.shownName none)
  | unreadable {fault : ReadFault} (h : source.Unreadable resources fault) :
      Fails resources source (.unreadable source.shownName fault)
  | unguarded {e : Error} (h : source.Unguarded e) : Fails resources source e

variable {resources : Resources} {source : Source} {e : Error}

/-- A source that names a file gives what the file holds. -/
theorem read_of_path? {path : Path} (names : source.path? = some path) :
    source.read resources =
      (resources.files.read path source.shownName).map (source.shownName, ·) := by
  unfold path? at names
  split at names
  · obtain rfl := Option.some.inj names
    rfl
  · obtain rfl := Option.some.inj names
    rfl
  · cases names

/-- A path that can be looked up fails as the look-up does. -/
theorem read_of_seeks {path : Path} (seeks : source.Seeks path) :
    source.read resources =
      match resources.files.find path with
      | .missing => .error (.notFound source.shownName none)
      | .nameTooLong => .error (.unreadable source.shownName (.nameTooLong path.toText))
      | .found held =>
        match Utf8.decodeFile held with
        | .ok raw => .ok (source.shownName, universalNewlines raw)
        | .error fault => .error (.unreadable source.shownName (.notUtf8 fault)) := by
  rw [read_of_path? seeks.names, FileTree.read]
  simp only [List.contains_eq_mem, seeks.clean, decide_false, Bool.false_eq_true, if_false]
  cases resources.files.find path with
  | missing => rfl
  | nameTooLong => rfl
  | found held =>
    dsimp only
    cases Utf8.decodeFile held <;> rfl

theorem read_of_null {path : Path} (names : source.path? = some path)
    (holds : '\x00' ∈ path.toText) : source.read resources = .error .nullInPath := by
  rw [read_of_path? names, FileTree.read]
  simp only [List.contains_eq_mem, holds, decide_true, if_true]
  rfl

theorem Fails.read (h : source.Fails resources e) : source.read resources = .error e := by
  cases h with
  | absent h =>
    cases h with
    | file seeks missing => rw [read_of_seeks seeks, missing]
    | object names unresolved =>
      subst names
      simp only [Source.read, unresolved, shownName]
  | unreadable h =>
    cases h with
    | nameTooLong seeks refused => rw [read_of_seeks seeks, refused]
    | notUtf8 seeks found undecodable =>
      rw [read_of_seeks seeks, found]
      simp only [undecodable]
  | unguarded h =>
    cases h with
    | bytes given undecodable =>
      rcases given with rfl | ⟨name, rfl⟩
      · simp only [Source.read, decode, undecodable]
        rfl
      · simp only [Source.read, decode, undecodable]
        rfl
    | null names holds => exact read_of_null names holds
    | unsupported given =>
      subst given
      rfl

theorem fails_of_decode {content : List UInt8} {name : Text}
    (given : source = bytes content ∨ ∃ name, source = byteStream name content)
    (h : (decode content).map (name, ·) = .error e) : source.Fails resources e := by
  revert h
  rw [decode]
  cases undecodable : Utf8.decodeMarked content with
  | ok raw => rintro ⟨⟩
  | error fault =>
    rintro ⟨⟩
    exact .unguarded (.bytes given undecodable)

theorem fails_of_read (h : source.read resources = .error e) : source.Fails resources e := by
  cases names : source.path? with
  | some path =>
    by_cases holds : '\x00' ∈ path.toText
    · rw [read_of_null names holds] at h
      cases h
      exact .unguarded (.null names holds)
    · have seeks : source.Seeks path := ⟨names, holds⟩
      rw [read_of_seeks seeks] at h
      split at h
      · cases h
        exact .absent (.file seeks ‹_›)
      · cases h
        exact .unreadable (.nameTooLong seeks ‹_›)
      · split at h
        · cases h
        · cases h
          exact .unreadable (.notUtf8 seeks ‹_› ‹_›)
  | none =>
    cases source with
    | text content =>
      simp only [Source.read] at h
      split at h
      · cases names
      · split at h
        · cases h
        · cases h
          exact .absent (.object rfl ‹_›)
      · cases h
    | path spelling => cases names
    | bytes content => exact fails_of_decode (.inl rfl) h
    | textStream name content => cases h
    | byteStream name content => exact fails_of_decode (.inr ⟨name, rfl⟩) h
    | unsupported typeName =>
      cases h
      exact .unguarded (.unsupported rfl)

theorem name_of_map {x : Except Error Text} {name shown raw : Text}
    (h : x.map (shown, ·) = .ok (name, raw)) : name = shown := by
  cases x with
  | error e => cases h
  | ok raw =>
    cases h
    rfl

/-- A source that can be read is shown under its own name. -/
theorem shownName_of_read {name raw : Text} (h : source.read resources = .ok (name, raw)) :
    name = source.shownName := by
  cases source with
  | text content =>
    simp only [Source.read] at h
    split at h
    · exact name_of_map h
    · split at h
      · cases h
        rfl
      · cases h
    · cases h
      rfl
  | path spelling => exact name_of_map h
  | bytes content => exact name_of_map h
  | textStream name content =>
    cases h
    rfl
  | byteStream name content => exact name_of_map h
  | unsupported typeName => cases h

theorem Fails.absent_of_notFound {reference : Text} {state : Option Text}
    (h : source.Fails resources (.notFound reference state)) : source.Absent resources := by
  cases h with
  | absent h => exact h
  | unguarded h => cases h

/-- Only what is not put into words is no error of the script. -/
theorem Fails.isReportable_eq_false_iff (h : source.Fails resources e) :
    e.isReportable = false ↔ source.Unguarded e := by
  cases h with
  | absent => exact ⟨by rintro ⟨⟩, by rintro ⟨⟩⟩
  | unreadable => exact ⟨by rintro ⟨⟩, by rintro ⟨⟩⟩
  | unguarded h =>
    refine ⟨fun _ => h, fun _ => ?_⟩
    cases h <;> rfl

end Source

/-! ### How a walker is left -/

open Act

def Family.separator : Family → Option Text
  | .scanner kind .. => kind.separator
  | _ => none

namespace Walker

/-- The walker reads a source of that name and lines, if any, and has taken so many of them. It
includes no other source, and no line is marked or labelled. -/
structure Stands (w : Walker) (name : Option Text) (lines : List Line) (position : Option Nat) :
    Prop where
  named : w.cursor.name = name
  holds : w.cursor.lines = lines
  taken : w.cursor.position? = position
  ahead : w.cursor.ahead = lines
  alone : w.nesting = 0
  unechoed : w.isEchoed = false
  unreplayed : w.isReplayRequested = false
  unlabelled : w.label? = none ∨ w.label? = some {}

def restarted (w : Walker) (options : Options) (c : Cursor) : Walker :=
  match w with
  | reader _ => reader ⟨options, c⟩
  | classifier _ => classifier ⟨⟨options, c⟩, {}⟩
  | scanner sc => scanner ⟨{ sc.settings with options := options }, ⟨{ cursor := c }, []⟩⟩

section

variable {w : Walker} {options : Options}

@[simp] theorem family_restarted (c : Cursor) : (w.restarted options c).family = w.family := by
  cases w <;> rfl

@[simp] theorem options_restarted (c : Cursor) : (w.restarted options c).options = options := by
  cases w <;> rfl

theorem stands_opened (name : Text) (lines : List Line) :
    (w.restarted options (.opened name lines)).Stands (some name) lines (some 0) := by
  cases w with
  | classifier c => exact ⟨rfl, rfl, rfl, rfl, rfl, rfl, rfl, .inr rfl⟩
  | _ => exact ⟨rfl, rfl, rfl, rfl, rfl, rfl, rfl, .inl rfl⟩

theorem stands_unopened : (w.restarted options .unopened).Stands none [] none := by
  cases w with
  | classifier c => exact ⟨rfl, rfl, rfl, rfl, rfl, rfl, rfl, .inr rfl⟩
  | _ => exact ⟨rfl, rfl, rfl, rfl, rfl, rfl, rfl, .inl rfl⟩

end

end Walker

/-! ### Opening -/

namespace Run

variable {α : Type} {w : Walker} {s : Store}

/-- A condition on what the action of a walker's own family comes to. -/
theorem wp_byFamily {r : Act Reader α} {c : Act Classifier α} {sc : Scanner.Scan α}
    {ok : α → Walker × Store → Prop} {bad : Error → Walker × Store → Prop} :
    Wp (byFamily r c sc) ok bad (w, s) ↔
      match w with
      | .reader x => Wp r (fun a x => ok a (.reader x, s)) (fun e x => bad e (.reader x, s)) x
      | .classifier x =>
        Wp c (fun a x => ok a (.classifier x, s)) (fun e x => bad e (.classifier x, s)) x
      | .scanner x =>
        Wp sc (fun a st => ok a (.scanner st.1, st.2)) (fun e st => bad e (.scanner st.1, st.2))
          (x, s) := by
  cases w <;> exact Iff.rfl

/-- A walker of any family opens a source alike. -/
theorem wp_openSource (resources : Resources) (source : Source) (trim compress : Option Bool)
    {ok : Answer → Walker × Store → Prop} {bad : Error → Walker × Store → Prop} :
    Wp (perform resources (.openSource source trim compress)) ok bad (w, s) ↔
      let options := w.options.override trim compress
      match source.read resources with
      | .ok (name, raw) =>
        let lines := Line.ingest options.toCleaning w.family.separator raw
        ok .done (w.restarted options (.opened name lines), s)
      | .error e => bad e (w.restarted options .unopened, s) := by
  rw [perform, Wp.bind_iff, wp_byFamily]
  cases w with
  | reader x =>
    simp only [Reader.openSource, Wp.bind_iff, Wp.modify_iff, Wp.get_iff, wp_openCursor,
      Wp.pure_iff]
    cases source.read resources <;> exact Iff.rfl
  | classifier x =>
    have onReader : Wp (Classifier.openSource resources source trim compress)
        (fun _ c => ok .done (.classifier c, s)) (fun e c => bad e (.classifier c, s)) x ↔
        Wp (Reader.openSource resources source trim compress)
          (fun _ r => ok .done (.classifier ⟨r, {}⟩, s))
          (fun e r => bad e (.classifier ⟨r, {}⟩, s)) x.reader := by
      rw [Classifier.openSource, Wp.bind_iff]
      exact Iff.rfl
    simp only [Wp.pure_iff]
    rw [onReader]
    simp only [Reader.openSource, Wp.bind_iff, Wp.modify_iff, Wp.get_iff, wp_openCursor]
    cases source.read resources <;> exact Iff.rfl
  | scanner x =>
    simp only [Scanner.openSource, Scanner.modifyChain, Wp.bind_iff, Wp.modify_iff, Wp.get_iff,
      wp_openFrame, Wp.pure_iff]
    cases source.read resources <;> exact Iff.rfl

end Run

namespace Walker

/-- **Opening installs the source or resets.** Whatever a walker was doing, opening a source
leaves the store, and either gives what the source holds: then the walker stands before the first
line of it, under the name that the source is shown by. Or it fails, exactly with what is wrong
with the source, and the walker stands as if nothing had been opened. That something is missing is
reported exactly where nothing is there, and every other failure is an error of the script too,
except for bytes that are no UTF-8, a path with a null character and a value that is no source. -/
theorem opening_installs_or_resets (resources : Resources) (w : Walker) (s : Store)
    (source : Source) (trim compress : Option Bool) :
    let o := Run.perform resources (.openSource source trim compress) (w, s)
    let options := w.options.override trim compress
    o.state.2 = s ∧ o.state.1.family = w.family ∧ o.state.1.options = options ∧
      ((∃ raw, source.read resources = .ok (source.shownName, raw) ∧ o.result = .ok .done ∧
          o.state.1.Stands (some source.shownName)
            (Line.ingest options.toCleaning w.family.separator raw) (some 0)) ∨
        ∃ e, source.Fails resources e ∧ o.result = .error e ∧ o.state.1.Stands none [] none ∧
          (e = .notFound source.shownName none ↔ source.Absent resources) ∧
          (e.isReportable = false ↔ source.Unguarded e)) := by
  have run : Wp (Run.perform resources (.openSource source trim compress))
      (fun a st => ∃ name raw, source.read resources = .ok (name, raw) ∧ a = .done ∧
        st = (w.restarted (w.options.override trim compress) (.opened name
          (Line.ingest (w.options.override trim compress).toCleaning w.family.separator raw)), s))
      (fun e st => source.read resources = .error e ∧
        st = (w.restarted (w.options.override trim compress) .unopened, s)) (w, s) := by
    rw [Run.wp_openSource]
    cases source.read resources with
    | ok opened => exact ⟨opened.1, opened.2, rfl, rfl, rfl⟩
    | error e => exact ⟨rfl, rfl⟩
  rw [Wp] at run
  generalize Run.perform resources (.openSource source trim compress) (w, s) = o at run
  obtain ⟨result, st, events⟩ := o
  intro o options
  cases result with
  | ok a =>
    obtain ⟨name, raw, hread, rfl, rfl⟩ := run
    obtain rfl := Source.shownName_of_read hread
    exact ⟨rfl, family_restarted _, options_restarted _,
      .inl ⟨raw, hread, rfl, stands_opened ..⟩⟩
  | error e =>
    obtain ⟨hread, rfl⟩ := run
    have fails := Source.fails_of_read hread
    refine ⟨rfl, family_restarted _, options_restarted _,
      .inr ⟨e, fails, rfl, stands_unopened, ⟨?_, ?_⟩, fails.isReportable_eq_false_iff⟩⟩
    · rintro rfl
      exact fails.absent_of_notFound
    · intro absent
      have missing := (Source.Fails.absent absent).read
      exact Except.error.inj (hread.symm.trans missing)

/-- Bytes that are no UTF-8, and a path with a null character, are refused without an error of
the script. -/
theorem opening_refuses_unguarded :
    let opened (source : Source) := Run.perform {} (.openSource source none none)
      (.new {} (.scanner .basic {} false), {})
    (opened (.bytes [0xff])).result = .error (.notUtf8 (.invalidStart 0 0xff)) ∧
      Error.isReportable (.notUtf8 (.invalidStart 0 0xff)) = false ∧
      (opened (.text "@\x00".toList)).result = .error .nullInPath ∧
      Error.isReportable .nullInPath = false := by
  intro opened
  exact ⟨rfl, rfl, rfl, rfl⟩

end Walker

end CommandScript
