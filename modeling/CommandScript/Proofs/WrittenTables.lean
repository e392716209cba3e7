import Mathlib.Data.List.Forall2
import CommandScript.Proofs.LineEnds
import CommandScript.Proofs.WrittenRecords

/-!
# Written tables

A list of keys and values is written record by record, with a line feed or a semicolon between
two records. Loading such a text gives the table that inserting the expanded pairs from left to
right makes, and does nothing else: no record is lost, joined to another or taken for anything
else.
-/

namespace CommandScript

/-- The text is the pairs written as records, each two of them apart by a line feed or a
semicolon. -/
inductive Writes : List (Text × Text) → Text → Prop where
  | none : Writes [] []
  | last (pair : Text × Text) : Writes [pair] (writtenRecord pair.1 pair.2)
  | more (pair : Text × Text) {next : Text × Text} {pairs : List (Text × Text)} {t : Text}
      {c : Char} (between : c = '\n' ∨ c = ';') (rest : Writes (next :: pairs) t) :
      Writes (pair :: next :: pairs) (writtenRecord pair.1 pair.2 ++ c :: t)

def Writable (pair : Text × Text) : Prop := WritableKey pair.1 ∧ WritableValue pair.2

instance (pair : Text × Text) : Decidable (Writable pair) :=
  inferInstanceAs (Decidable (_ ∧ _))

/-! ### Records -/

section

variable {pair : Text × Text} {pairs : List (Text × Text)} {t : Text}

theorem not_mem_writtenRecord {c : Char} (h : Writable pair) (hkey : isKey c = false)
    (hvalue : c ∉ pair.2) (hother : c ∉ ['=', '"']) : c ∉ writtenRecord pair.1 pair.2 := by
  have key : c ∉ pair.1 := h.1.not_mem hkey
  simp_all [writtenRecord]

/-- The records of a written table are those that were written. -/
theorem Writes.pieces (h : Writes pairs t) (writable : ∀ pair ∈ pairs, Writable pair)
    (nonempty : pairs ≠ []) :
    (Text.splitAt '\n' t).flatMap (Text.splitAt ';') =
      pairs.map fun pair => writtenRecord pair.1 pair.2 := by
  rw [Text.flatMap_splitAt]
  have whole {pair : Text × Text} (h : Writable pair) :
      (writtenRecord pair.1 pair.2).splitOnP (fun e => e == '\n' || e == ';') =
        [writtenRecord pair.1 pair.2] := by
    refine List.splitOnP_eq_singleton fun c hc => ?_
    rw [Bool.eq_false_iff]
    intro between
    obtain rfl | rfl : c = '\n' ∨ c = ';' := by simpa using between
    · exact not_mem_writtenRecord h (by decide) h.2.noFeed (by decide) hc
    · exact not_mem_writtenRecord h (by decide) h.2.noSemicolon (by decide) hc
  induction h with
  | none => exact absurd rfl nonempty
  | last pair => exact whole (writable pair (List.mem_singleton_self pair))
  | more pair between rest ih =>
    rw [List.forall_mem_cons] at writable
    rw [List.splitOnP_append_cons, whole writable.1, ih writable.2 (by simp)]
    · rfl
    · rcases between with rfl | rfl <;> rfl

/-- A written table has no marks and no carriage returns that ingestion would take off. -/
theorem Writes.normal (h : Writes pairs t) (writable : ∀ pair ∈ pairs, Writable pair) :
    Line.normalize t = t := by
  refine Line.normalize_eq_self ?_ ?_
  · have front {pair : Text × Text} (h : Writable pair) (rest : Text) :
        (writtenRecord pair.1 pair.2 ++ rest).head? ≠ some '\uFEFF' := by
      obtain ⟨c, tail, hfront, hc⟩ := head_writtenRecord h.1 pair.2
      rw [hfront]
      simpa using ne_of_isKey hc (by decide)
    cases h with
    | none => simp
    | last pair => simpa using front (writable pair (List.mem_singleton_self pair)) []
    | more pair between rest => exact front (writable pair List.mem_cons_self) _
  · have kept {pair : Text × Text} (h : Writable pair) (rest : Text) :
        Line.joinReturns (writtenRecord pair.1 pair.2 ++ rest) =
          writtenRecord pair.1 pair.2 ++ Line.joinReturns rest := by
      refine Line.joinReturns_append ?_ ?_ rest
      · exact not_mem_writtenRecord h (by decide) h.2.noFeed (by decide)
      · rw [getLast?_writtenRecord]
        decide
    induction h with
    | none => rfl
    | last pair =>
      simpa [Line.joinReturns] using kept (writable pair (List.mem_singleton_self pair)) []
    | more pair between rest ih =>
      rw [List.forall_mem_cons] at writable
      rw [kept writable.1]
      rcases between with rfl | rfl
      · exact congrArg (fun u => _ ++ '\n' :: u) (ih writable.2)
      · exact congrArg (fun u => _ ++ ';' :: u) (ih writable.2)

/-- A written table is ingested to its records. -/
theorem Writes.texts (h : Writes pairs t) (writable : ∀ pair ∈ pairs, Writable pair) :
    (Line.ingest {} (some [';']) t).map (·.text) =
      pairs.map fun pair => writtenRecord pair.1 pair.2 := by
  have records : Line.texts {} (some [';']) =
      fun line => (Text.splitAt ';' line).filterMap (Line.clean? {}) :=
    funext fun line => by rw [Line.texts, Line.records_char]
  rw [Line.map_text_ingest, Line.rawLines, h.normal writable, records, ← List.filterMap_flatMap]
  by_cases empty : pairs = []
  · subst empty
    cases h
    rfl
  · rw [h.pieces writable empty, List.filterMap_map, ← List.filterMap_eq_map]
    exact List.filterMap_congr fun pair hpair =>
      clean?_writtenRecord (writable pair hpair).1 (writable pair hpair).2

end

/-! ### Settling -/

def Expands (expander : Expander) (registry : Registry) (pair entry : Text × Text) : Prop :=
  expander.expand registry pair.1 = .ok entry.1 ∧ expander.expand registry pair.2 = .ok entry.2

/-- Settling records defines them one after the other, and does nothing else outside the log. -/
theorem settleLines_records {resources : Resources} {settings : Settings}
    {load : Text → Act Store Table} {enter : Frame → Store → Settled}
    (kind : settings.kind = .records) (lenient : settings.expander.strict = false)
    {lines : List Line} {pairs entries : List (Text × Text)} {s : Store}
    (records : List.Forall₂ (fun line pair => IsRecord line.text pair.1 pair.2) lines pairs)
    (expanded : List.Forall₂ (Expands settings.expander s.registry) pairs entries) (f : Frame) :
    ∃ g log, Event.unlogged log = [] ∧
      settleLines resources settings load enter lines f s =
        ⟨.ok false, (⟨g, []⟩, { s with target := s.target.insertAll entries }), log⟩ := by
  induction records generalizing entries f s with
  | nil =>
    cases expanded
    exact ⟨f, [], rfl, rfl⟩
  | @cons line pair ahead pairs record records ih =>
    cases expanded with
    | @cons _ entry _ entries expands rest =>
      obtain ⟨whole, hwhole⟩ := Expander.expand_ok s.registry lenient line.text
      have recognized : settings.kind.recognizes line.text = true := by
        rw [kind]
        exact record.recognized
      obtain ⟨early, quiet, hexec⟩ := executeLine_record resources kind load
        (f.moved line ahead).cursor.state record expands.1 expands.2 hwhole
      obtain ⟨g, late, quiet', hrest⟩ := ih (s := { s with target := s.target.insert entry.1 entry.2 })
        rest (f.moved line ahead)
      refine ⟨g, early ++ late, ?_, ?_⟩
      · rw [Scanner.unlogged_append, quiet, quiet', List.append_nil]
      · simp only [settleLines, recognized, if_true, hexec, hrest, Outcome.after_mk]
        rfl

/-! ### Loading -/

theorem exists_expands {expander : Expander} (lenient : expander.strict = false)
    (registry : Registry) (pairs : List (Text × Text)) :
    ∃ entries, List.Forall₂ (Expands expander registry) pairs entries := by
  induction pairs with
  | nil => exact ⟨[], .nil⟩
  | cons pair pairs ih =>
    obtain ⟨entries, rest⟩ := ih
    obtain ⟨k, hk⟩ := Expander.expand_ok registry lenient pair.1
    obtain ⟨v, hv⟩ := Expander.expand_ok registry lenient pair.2
    exact ⟨(k, v) :: entries, .cons ⟨hk, hv⟩ rest⟩

/-- Pairs without a dollar sign are expanded to themselves. -/
theorem eq_of_expands_plain {expander : Expander} {registry : Registry}
    {pairs entries : List (Text × Text)}
    (expanded : List.Forall₂ (Expands expander registry) pairs entries)
    (plain : ∀ pair ∈ pairs, '$' ∉ pair.1 ∧ '$' ∉ pair.2) : entries = pairs := by
  induction expanded with
  | nil => rfl
  | cons expands _ ih =>
    rw [List.forall_mem_cons] at plain
    obtain ⟨⟨hk, hv⟩, others⟩ := plain
    rw [Expands, Expander.expand_plain registry hk, Expander.expand_plain registry hv] at expands
    obtain ⟨key, value⟩ := expands
    rw [ih others]
    exact congrArg (· :: _) (Prod.ext (Except.ok.inj key).symm (Except.ok.inj value).symm)

/-- To load lines is to settle them with a table of its own under construction. -/
theorem loadLines_apply (loader : PropertiesLoader) (resources : Resources) (name : Text)
    (lines : List Line) (s : Store) :
    ∃ (load : Text → Act Store Table) (enter : Frame → Store → Settled),
      loader.loadLines resources name lines s =
        (tableOf loader.settings (settleLines resources loader.settings load enter lines
          { cursor := .opened name lines } { registry := s.registry.ensure globalsLabel })).mapState
          fun after => { after with target := s.target } := by
  obtain ⟨depth, hdepth⟩ : ∃ depth, resources.depthBound = depth + 1 :=
    Nat.exists_eq_succ_of_ne_zero (by simp [Resources.depthBound])
  refine ⟨loadAt resources depth loader.settings,
    fun g s => settle resources depth loader.settings g [] s, ?_⟩
  rw [PropertiesLoader.loadLines, hdepth]
  rfl

/-- Loading records makes the table of their expanded pairs. -/
theorem loadLines_records (loader : PropertiesLoader) (lenient : loader.expander.strict = false)
    (resources : Resources) (name : Text) (s : Store) {lines : List Line}
    {pairs entries : List (Text × Text)}
    (records : List.Forall₂ (fun line pair => IsRecord line.text pair.1 pair.2) lines pairs)
    (expanded : List.Forall₂ (Expands loader.expander (s.registry.ensure globalsLabel)) pairs
      entries) :
    Act.Quietly (loader.loadLines resources name lines) s (.ofList entries)
      { s with registry := s.registry.ensure globalsLabel } := by
  obtain ⟨load, enter, apply⟩ := loadLines_apply loader resources name lines s
  let start : Frame := { cursor := .opened name lines }
  let registry := s.registry.ensure globalsLabel
  obtain ⟨g, inner, quiet, hsettle⟩ : ∃ g inner, Event.unlogged inner = [] ∧
      settleLines resources loader.settings load enter lines start { registry := registry } =
        ⟨.ok false, (⟨g, []⟩, { registry := registry, target := .ofList entries }), inner⟩ :=
    settleLines_records rfl lenient records expanded start
  obtain ⟨log, quiet', hrun⟩ : ∃ log, Event.unlogged log = [] ∧
      tableOf loader.settings (settleLines resources loader.settings load enter lines start
          { registry := registry }) =
        ⟨.ok (.ofList entries), { registry := registry, target := .ofList entries }, log⟩ := by
    rw [hsettle]
    refine ⟨_, ?_, rfl⟩
    rw [Scanner.unlogged_append, quiet]
    rfl
  refine ⟨log, quiet', ?_⟩
  rw [apply, hrun]
  rfl

/-- Loading lines that are written records makes the table of their expanded pairs. -/
theorem loadLines_written (loader : PropertiesLoader) (lenient : loader.expander.strict = false)
    (resources : Resources) (name : Text) (s : Store) {lines : List Line}
    {pairs entries : List (Text × Text)}
    (hlines : lines.map (·.text) = pairs.map fun pair => writtenRecord pair.1 pair.2)
    (writable : ∀ pair ∈ pairs, Writable pair)
    (expanded : List.Forall₂ (Expands loader.expander (s.registry.ensure globalsLabel)) pairs
      entries) :
    Act.Quietly (loader.loadLines resources name lines) s (.ofList entries)
      { s with registry := s.registry.ensure globalsLabel } := by
  refine loadLines_records loader lenient resources name s ?_ expanded
  clear expanded
  induction pairs generalizing lines with
  | nil =>
    obtain rfl := List.map_eq_nil_iff.mp hlines
    exact .nil
  | cons pair pairs ih =>
    obtain ⟨line, ahead, rfl, hline, hahead⟩ := List.map_eq_cons_iff.mp hlines
    rw [List.forall_mem_cons] at writable
    refine .cons ?_ (ih hahead writable.2)
    rw [hline]
    exact isRecord_written writable.1.1 writable.1.2

/-- **Loading undoes writing.** A table of writable pairs, written with line feeds and semicolons
in any mixture and loaded from a stream, gives the table that inserting the expanded pairs from
left to right makes, where references see the registry of before. Nothing but the log is written,
no table of the registry changes, and pairs without a dollar sign are loaded as they are. -/
theorem load_written (loader : PropertiesLoader) (lenient : loader.expander.strict = false)
    (resources : Resources) (name : Text) (s : Store) {pairs : List (Text × Text)} {t : Text}
    (h : Writes pairs t) (writable : ∀ pair ∈ pairs, Writable pair) :
    let o := loader.load resources (.textStream name t) s
    ∃ entries, List.Forall₂ (Expands loader.expander s.registry) pairs entries ∧
      o.result = .ok (.ofList entries) ∧
      o.state = { s with registry := s.registry.ensure globalsLabel } ∧
      Event.unlogged o.events = [] ∧
      ((∀ pair ∈ pairs, '$' ∉ pair.1 ∧ '$' ∉ pair.2) → entries = pairs) := by
  intro o
  let registry := s.registry.ensure globalsLabel
  have same (t : Text) : loader.expander.expand registry t = loader.expander.expand s.registry t :=
    Expander.expand_congr (fun name => Registry.lookup_ensure ..) t
  obtain ⟨entries, expanded⟩ := exists_expands lenient s.registry pairs
  have seen : List.Forall₂ (Expands loader.expander registry) pairs entries := by
    refine expanded.imp fun pair entry h => ?_
    rw [Expands, same, same]
    exact h
  obtain ⟨log, quiet, hload⟩ := loader.load_textStream resources name t s
  obtain ⟨inner, quiet', hlines⟩ := loadLines_written loader lenient resources name s
    (h.texts writable) writable seen
  have outcome : o = ⟨.ok (.ofList entries), { s with registry := registry }, log ++ inner⟩ := by
    rw [hlines] at hload
    exact hload
  refine ⟨entries, expanded, ?_⟩
  rw [outcome]
  refine ⟨rfl, rfl, ?_, fun plain => ?_⟩
  · rw [Scanner.unlogged_append, quiet, quiet']
    rfl
  · exact eq_of_expands_plain expanded plain

/-- Values with markers, quotes, a separator of keys and a last backslash; a key that comes
twice keeps its place. -/
theorem load_written_markers :
    let pairs : List (Text × Text) :=
      [("print", " # 'x' // y=z\\"), ("-/(a|b)", ""), ("print", "--'")]
    let t : Text := "print=\" # 'x' // y=z\\\";-/(a|b)=\"\"\nprint=\"--'\""
    let o := ({} : PropertiesLoader).load {} (.textStream "s" t) {}
    Writes pairs t ∧ (∀ pair ∈ pairs, Writable pair) ∧
      o.result = .ok ⟨[("print", "--'"), ("-/(a|b)", "")]⟩ ∧
      o.state.registry = .withGlobals ∧ Event.unlogged o.events = [] := by
  intro pairs t o
  have writes : Writes pairs t := .more _ (.inr rfl) (.more _ (.inl rfl) (.last _))
  have writable : ∀ pair ∈ pairs, Writable pair := by decide +kernel
  obtain ⟨entries, -, result, state, quiet, plain⟩ :=
    load_written {} rfl {} "s" {} writes writable
  rw [plain (by decide +kernel)] at result
  refine ⟨writes, writable, ?_, ?_, quiet⟩
  · rw [result]
    decide +kernel
  · rw [state]
    rfl

end CommandScript
