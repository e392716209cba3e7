import Mathlib.Data.List.Chain
import CommandScript.Proofs.Classification
import CommandScript.Proofs.PeekedLines
import CommandScript.Proofs.ScannerInvariants

/-!
# Nested sources

A scanner reads a chain of sources, each of which was opened by a line of the one before. So where
no text leads back to itself, a chain is shorter than the bound on its depth. That holds between
two operations, in the midst of a run, and in the midst of a load that the run has come to.
-/

namespace CommandScript

open Act

/-! ### Chains of opened sources -/

def Frame.Includes (resources : Resources) (settings : Settings) (f g : Frame) : Prop :=
  ∃ line ∈ f.cursor.lines, ∃ start, Opens resources settings line.text start ∧
    g.cursor.lines = start.cursor.lines

/-- Each source of the chain is opened by a line of the one before. -/
def Chain.Linked (resources : Resources) (settings : Settings) (c : Chain) : Prop :=
  (c.frame :: c.included).IsChain (Frame.Includes resources settings)

section

variable {resources : Resources} {settings : Settings} {load : Text → Act Store Table}

theorem Chain.linked_single {f : Frame} : Chain.Linked resources settings ⟨f, []⟩ :=
  .singleton f

theorem Chain.linked_cons {f g : Frame} {rest : List Frame} :
    Chain.Linked resources settings ⟨f, g :: rest⟩ ↔
      f.Includes resources settings g ∧ Chain.Linked resources settings ⟨g, rest⟩ :=
  List.isChain_cons_cons

/-- It does not matter how far a source has been read. -/
theorem Frame.Includes.congr {f f' g g' : Frame} (h : f.Includes resources settings g)
    (outer : f'.cursor.lines = f.cursor.lines) (inner : g'.cursor.lines = g.cursor.lines) :
    f'.Includes resources settings g' := by
  obtain ⟨line, mem, start, opens, same⟩ := h
  exact ⟨line, outer ▸ mem, start, opens, inner.trans same⟩

theorem Chain.Linked.congr {f f' : Frame} {included : List Frame}
    (h : Chain.Linked resources settings ⟨f, included⟩)
    (same : f'.cursor.lines = f.cursor.lines) :
    Chain.Linked resources settings ⟨f', included⟩ := by
  cases included with
  | nil => exact linked_single
  | cons g rest =>
    obtain ⟨includes, linked⟩ := linked_cons.mp h
    exact linked_cons.mpr ⟨includes.congr same rfl, linked⟩

/-! ### Settling -/

/-- What a built-in makes a scanner read next, its line has opened. -/
theorem execute_enters {line : Text} {builtin : Builtin}
    (form : settings.kind.builtin? (withoutEcho line) = some builtin) (place : Text) (s : Store) :
    Wp (execute resources settings load place builtin)
      (fun effect _ => effect.OpenedBy resources settings line) (fun _ _ => True) s := by
  by_cases inclusion : ∃ reference, builtin = .includeSource reference
  · obtain ⟨reference, rfl⟩ := inclusion
    exact (executeInclude_opens place s form).mono (fun _ _ h => h) fun _ _ _ => trivial
  · refine (execute_stays (fun reference same => inclusion ⟨reference, same⟩) place s).mono
      (fun effect _ stays => ?_) fun _ _ _ => trivial
    cases effect with
    | entered g => exact absurd rfl (stays g)
    | _ => trivial

theorem executeLine_enters (place : Text) (line : Line) (s : Store) :
    Wp (executeLine resources settings load place line)
      (fun effect _ => effect.OpenedBy resources settings line.text) (fun _ _ => True) s := by
  rw [executeLine, Wp.bind_iff, Wp.onlyIf_debug_iff, Wp.bind_iff, wp_surface]
  split
  · split
    · exact execute_enters ‹_› place s
    · trivial
  · trivial

theorem Cursor.Sound.mem_lines {c : Cursor} (h : c.Sound) {line : Line} {rest : List Line}
    (hahead : c.ahead = line :: rest) : line ∈ c.lines := by
  have mem : line ∈ c.ahead := hahead ▸ List.mem_cons_self
  rw [h.ahead] at mem
  exact List.mem_of_mem_drop mem

theorem Cursor.mem_of_current? {c : Cursor} {line : Line} (h : c.current? = some line) :
    line ∈ c.lines := by
  revert h
  rw [Cursor.current?]
  split
  · exact List.mem_of_getElem?
  · rintro ⟨⟩

/-- Settling one source links what it includes to it. -/
theorem LinesSettle.linked {enter : Frame → Store → Settled}
    (henter : ∀ g s, g.cursor.Sound → (enter g s).state.1.Linked resources settings ∧
      (enter g s).state.1.frame.cursor.lines = g.cursor.lines)
    {lines : List Line} {f : Frame} {s : Store} {o : Settled}
    (run : LinesSettle resources settings load enter lines f s o) (hahead : f.cursor.ahead = lines)
    (h : f.cursor.Sound) : o.state.1.Linked resources settings := by
  induction run with
  | ended => exact Chain.linked_single
  | ordinary => exact Chain.linked_single
  | failed => exact Chain.linked_single
  | @inside line ahead f g s t u c events inner result recognized executed entered unfinished =>
    obtain ⟨sound, -⟩ : Effect.Sound (.entered g) := (sound_executeLine _ line s).value executed
    have opens : Opens resources settings line.text g :=
      (executeLine_enters _ line s).value executed
    obtain ⟨linked, same⟩ := henter g t sound
    rw [entered] at linked same
    exact Chain.linked_cons.mpr ⟨⟨line, h.mem_lines hahead, g, opens, same⟩, linked⟩
  | passed recognized goes rest ih => exact ih goes.ahead (goes.sound hahead h)

theorem lines_settle {depth : Nat} {f : Frame} {included : List Frame} {s : Store} :
    (settle resources depth settings f included s).state.1.frame.cursor.lines = f.cursor.lines :=
  congrArg Prod.snd source_settle

theorem linked_settle {depth : Nat} {f : Frame} {included : List Frame} {s : Store}
    (sound : Chain.Sound ⟨f, included⟩) (h : Chain.Linked resources settings ⟨f, included⟩) :
    (settle resources depth settings f included s).state.1.Linked resources settings := by
  revert sound h
  refine settle_induction (motive := fun _ settings f included _ o => Chain.Sound ⟨f, included⟩ →
    Chain.Linked resources settings ⟨f, included⟩ → o.state.1.Linked resources settings)
    ?tooDeep ?own ?finished ?within depth settings f included s
  case tooDeep => exact fun _ _ _ _ _ h => h
  case own =>
    intro depth settings f s o ih run sound h
    refine run.linked (fun g s hg => ⟨ih settings g [] s (Chain.sound_single.mpr hg)
      Chain.linked_single, lines_settle⟩) rfl ?_
    rw [Frame.started_cursor]
    exact (Chain.sound_single.mp sound).started
  case finished =>
    intro depth settings f g rest s c t events settled inner own sound h
    exact own (Chain.sound_single.mpr (Chain.sound_cons.mp sound).1) Chain.linked_single
  case within =>
    intro depth settings f g rest s result c t events settled unfinished inner sound h
    obtain ⟨includes, linked⟩ := Chain.linked_cons.mp h
    have same := @lines_settle resources settings depth g rest s
    rw [settled] at same
    exact Chain.linked_cons.mpr
      ⟨includes.congr rfl same, inner (Chain.sound_cons.mp sound).2 linked⟩

theorem linked_takeNext {f : Frame} {included : List Frame} {s : Store}
    (h : Chain.Linked resources settings ⟨f, included⟩) :
    (takeNext settings f included s).state.1.Linked resources settings := by
  induction included generalizing f with
  | nil =>
    cases hahead : f.cursor.ahead with
    | nil =>
      simp only [takeNext, hahead]
      exact Chain.linked_single
    | cons line ahead =>
      simp only [takeNext, hahead]
      exact Chain.linked_single
  | cons g rest ih =>
    obtain ⟨includes, linked⟩ := Chain.linked_cons.mp h
    have same : (takeNext settings g rest s).state.1.frame.cursor.lines = g.cursor.lines :=
      congrArg Prod.snd source_takeNext
    exact Chain.linked_cons.mpr ⟨includes.congr rfl same, ih linked⟩

end

/-! ### Operations -/

theorem linesOf_nil (settings : Settings) : settings.linesOf [] = [] := by
  obtain ⟨kind, options, expander, replays⟩ := settings
  cases kind <;> cases options.compress <;>
    simp [Settings.linesOf, Line.ingest, Line.kept, Line.keptBy, Line.numbered, Line.normalize,
      Line.joinReturns, Text.splitAt, Kind.separator, Line.records, Line.splitFrom, Line.clean?,
      Text.allBlank, Text.squeeze]

namespace Scanner

/-- The scanner reads a text, or nothing yet, and the sources that the text includes. -/
structure Nests (resources : Resources) (sc : Scanner) : Prop where
  text : ∃ raw, sc.chain.frame.cursor.lines = sc.settings.linesOf raw
  linked : sc.chain.Linked resources sc.settings

variable {resources : Resources} {sc : Scanner}

theorem Nests.unopened (resources : Resources) (settings : Settings) :
    Nests resources { settings := settings } :=
  ⟨⟨[], (linesOf_nil settings).symm⟩, Chain.linked_single⟩

/-- Another chain that begins with the same source. -/
theorem Nests.chain (h : sc.Nests resources) {c : Chain} (linked : c.Linked resources sc.settings)
    (same : c.frame.cursor.lines = sc.chain.frame.cursor.lines) :
    Nests resources { sc with chain := c } := by
  obtain ⟨raw, lines⟩ := h.text
  exact ⟨⟨raw, same.trans lines⟩, linked⟩

/-- No scanner reads a source that no line has opened, also where something fails. What the current
line includes takes the place of what was included before. -/
theorem lasting_nests (resources : Resources) : Lasting resources (Nests resources) where
  unopened := .unopened resources
  opened settings name raw := ⟨⟨raw, rfl⟩, Chain.linked_single⟩
  rewound h := h.chain (h.linked.congr rfl) rfl
  settled sound h s := h.chain (linked_settle sound h.linked) lines_settle
  taken h s := h.chain (linked_takeNext h.linked) (congrArg Prod.snd source_takeNext)
  executed {sc line builtin} h taken form load place s := by
    refine (execute_enters form place s).mono (fun effect t opens => ?_) fun _ _ _ => trivial
    cases effect with
    | done => exact h
    | replayRequested => exact h.chain (h.linked.congr rfl) rfl
    | entered g =>
      have includes : sc.chain.frame.Includes resources sc.settings g :=
        ⟨line, Cursor.mem_of_current? taken, g, opens, rfl⟩
      exact h.chain (Chain.linked_cons.mpr ⟨includes, Chain.linked_single⟩) rfl

end Scanner

/-- A walker whose sources are opened one by the other. -/
def Walker.Nests (resources : Resources) : Walker → Prop
  | .scanner sc => sc.Nests resources
  | _ => True

/-- Every walker of every history reads sources that were opened one by the other. -/
theorem Session.invariant_nests (resources : Resources) :
    Invariant resources fun w => w.Sound ∧ w.Nests resources := by
  refine (Scanner.lasting_nests resources).invariant.congr fun w => and_congr_right fun _ => ?_
  cases w <;> exact Iff.rfl

/-! ### The midst of a run -/

def Frame.passed (line : Line) (rest : List Line) (replays : Bool) (f : Frame) : Frame :=
  { f.moved line rest with replayRequested := replays }

theorem Frame.lines_passed (line : Line) (rest : List Line) (replays : Bool) (f : Frame) :
    (f.passed line rest replays).cursor.lines = f.cursor.lines := rfl

def Chain.changed (change : Frame → Frame) : Frame → List Frame → Chain
  | f, [] => ⟨change f, []⟩
  | f, g :: rest =>
    let c := changed change g rest
    ⟨f, c.frame :: c.included⟩

namespace Scanner

def changed (change : Frame → Frame) (sc : Scanner) : Scanner :=
  { sc with chain := .changed change sc.chain.frame sc.chain.included }

/-- A scanner somewhere in a run: of a scanner whose settings are `outer`, or of a load that such a
scanner begins or comes to. Sources may still nest less than `depth` deep. -/
inductive Reached (resources : Resources) (outer : Settings) : Nat → Scanner → Prop where
  /-- Between two turns of a history. -/
  | between {turns : List Session.Turn} {s : Store} {i : Nat} {sc : Scanner}
      (there : (Session.history resources turns { store := s }).2.view i = some (.scanner sc))
      (settings : sc.settings = outer) : Reached resources outer resources.depthBound sc
  /-- An operation begins to load a table. -/
  | table {source : Source} {name raw : Text} (found : source.read resources = .ok (name, raw)) :
      Reached resources outer resources.depthBound
        { settings := outer.forRecords,
          chain := ⟨{ cursor := .opened name (outer.forRecords.linesOf raw) }, []⟩ }
  /-- The next line has been taken, and perhaps it has requested a replay. -/
  | behind {depth : Nat} {sc : Scanner} {line : Line} {rest : List Line} (replays : Bool)
      (before : Reached resources outer depth sc)
      (ahead : sc.chain.innermost.cursor.ahead = line :: rest) :
      Reached resources outer depth (sc.changed (.passed line rest replays))
  /-- The line taken last has opened a source. -/
  | inside {depth : Nat} {sc : Scanner} {line : Line} {g : Frame}
      (before : Reached resources outer depth sc)
      (taken : sc.chain.innermost.cursor.current? = some line)
      (opens : Opens resources sc.settings line.text g) :
      Reached resources outer depth
        { sc with chain := { sc.chain with included := sc.chain.included ++ [g] } }
  /-- The source that is being read has come to its end. -/
  | outside {depth : Nat} {sc : Scanner} (before : Reached resources outer depth sc)
      (ended : sc.chain.innermost.cursor.ahead = []) :
      Reached resources outer depth
        { sc with chain := { sc.chain with included := sc.chain.included.dropLast } }
  /-- The line taken last loads a source. -/
  | loading {depth : Nat} {sc : Scanner} {line : Line} {reference name raw : Text}
      (before : Reached resources outer depth sc)
      (taken : sc.chain.innermost.cursor.current? = some line)
      (names : Names sc.settings line.text sc.settings.forRecords reference)
      (found : (Source.text reference).read resources = .ok (name, raw)) :
      Reached resources outer (depth - sc.chain.included.length - 1)
        { settings := sc.settings.forRecords,
          chain := ⟨{ cursor := .opened name (sc.settings.forRecords.linesOf raw) }, []⟩ }

end Scanner

section

variable {resources : Resources} {settings : Settings} {f : Frame} {included : List Frame}

theorem Chain.sound_changed {change : Frame → Frame} (h : Chain.Sound ⟨f, included⟩)
    (innermost : (change (Chain.innermost ⟨f, included⟩)).cursor.Sound) :
    (Chain.changed change f included).Sound := by
  induction included generalizing f with
  | nil => exact sound_single.mpr innermost
  | cons g rest ih =>
    obtain ⟨hf, hrest⟩ := sound_cons.mp h
    rw [Chain.innermost_cons] at innermost
    exact sound_cons.mpr ⟨hf, ih hrest innermost⟩

/-- What a change keeps of one source, it keeps of the outermost one. -/
theorem Chain.kept_changed {α : Type} (view : Frame → α) {change : Frame → Frame}
    (kept : ∀ f, view (change f) = view f) (f : Frame) (included : List Frame) :
    view (Chain.changed change f included).frame = view f := by
  cases included with
  | nil => exact kept f
  | cons g rest => rfl

theorem Chain.linked_changed {change : Frame → Frame}
    (kept : ∀ f, (change f).cursor.lines = f.cursor.lines)
    (h : Chain.Linked resources settings ⟨f, included⟩) :
    (Chain.changed change f included).Linked resources settings := by
  induction included generalizing f with
  | nil => exact linked_single
  | cons g rest ih =>
    obtain ⟨includes, linked⟩ := linked_cons.mp h
    have same := kept_changed (·.cursor.lines) kept g rest
    exact linked_cons.mpr ⟨includes.congr rfl same, ih linked⟩

theorem Opens.sound {line : Text} {g : Frame} (h : Opens resources settings line g) :
    g.cursor.Sound := by
  cases h with
  | missing => exact Cursor.sound_unopened
  | opened => exact Cursor.sound_opened ..

/-- Loading a table follows the same lines. -/
theorem Acyclic.forRecords (h : Acyclic resources settings) :
    Acyclic resources settings.forRecords := by
  obtain ⟨rank, falls⟩ := h
  refine ⟨rank, fun how mem => falls how ?_⟩
  have twice : settings.forRecords.forRecords = settings.forRecords := rfl
  rw [twice] at mem
  exact List.mem_cons_of_mem _ (by simpa using mem)

/-- A source that a line opens nests less deep. -/
theorem Opens.shallow {depth : Nat} {raw : Text} (h : Shallow resources (depth + 1) settings raw)
    {line : Line} (mem : line ∈ settings.linesOf raw) {g : Frame}
    (opens : Opens resources settings line.text g) :
    ∃ raw', g.cursor.lines = settings.linesOf raw' ∧ Shallow resources depth settings raw' := by
  cases opens with
  | missing names =>
    obtain ⟨room, -⟩ := h line mem _ _ names
    obtain ⟨depth, rfl⟩ := Nat.exists_eq_add_one.mpr room
    refine ⟨[], (linesOf_nil settings).symm, fun other hother => ?_⟩
    rw [linesOf_nil] at hother
    cases hother
  | @opened _ name raw' names found =>
    obtain ⟨-, below⟩ := h line mem _ _ names
    exact ⟨raw', rfl, below name raw' found⟩

/-- Sources nest below the innermost source as deep as they may below the outermost, less the
sources between. -/
theorem Chain.Linked.shallow {depth : Nat} {raw : Text}
    (h : Chain.Linked resources settings ⟨f, included⟩)
    (lines : f.cursor.lines = settings.linesOf raw)
    (shallow : Shallow resources depth settings raw) :
    ∃ raw', (Chain.innermost ⟨f, included⟩).cursor.lines = settings.linesOf raw' ∧
      Shallow resources (depth - included.length) settings raw' := by
  induction included generalizing f raw depth with
  | nil => exact ⟨raw, lines, shallow⟩
  | cons g rest ih =>
    obtain ⟨⟨line, mem, start, opens, same⟩, linked⟩ := linked_cons.mp h
    cases depth with
    | zero => exact shallow.elim
    | succ depth =>
      obtain ⟨raw', inner, below⟩ := opens.shallow shallow (lines ▸ mem)
      rw [Chain.innermost_cons, List.length_cons, Nat.add_sub_add_right]
      exact ih linked (same.trans inner) below

end

namespace Scanner.Reached

variable {resources : Resources} {outer : Settings} {depth : Nat} {sc : Scanner}

theorem sound_nests (h : Reached resources outer depth sc) :
    sc.chain.Sound ∧ sc.Nests resources := by
  induction h with
  | between there => exact (Session.invariant_nests resources).reached there
  | @table source name raw found =>
    exact ⟨Chain.sound_single.mpr (Cursor.sound_opened ..), ⟨raw, rfl⟩, Chain.linked_single⟩
  | @behind depth sc line rest replays before ahead ih =>
    obtain ⟨sound, nests⟩ := ih
    refine ⟨Chain.sound_changed sound ?_, ?_⟩
    · exact (sound _ sc.chain.innermost_mem).moved ahead
    · have kept := Frame.lines_passed line rest replays
      exact nests.chain (Chain.linked_changed kept nests.linked)
        (Chain.kept_changed (·.cursor.lines) kept ..)
  | @inside depth sc line g before taken opens ih =>
    obtain ⟨sound, nests⟩ := ih
    refine ⟨?_, nests.chain ?_ rfl⟩
    · intro f hf
      rcases List.mem_cons.mp hf with rfl | hf
      · exact sound.frame
      · rcases List.mem_append.mp hf with hf | hf
        · exact sound f (List.mem_cons_of_mem _ hf)
        · rw [List.mem_singleton.mp hf]
          exact opens.sound
    · refine List.isChain_append.mpr ⟨nests.linked, .singleton g, ?_⟩
      intro f hf g' hg'
      have last : sc.chain.innermost = f := by
        rw [List.getLast?_cons, ← List.getLastD_eq_getLast?] at hf
        exact Option.some.inj hf
      have same : g = g' := by simpa using hg'
      subst last same
      exact ⟨line, Cursor.mem_of_current? taken, g, opens, rfl⟩
  | @outside depth sc before ended ih =>
    obtain ⟨sound, nests⟩ := ih
    refine ⟨fun f hf => ?_, nests.chain ?_ rfl⟩
    · rcases List.mem_cons.mp hf with rfl | hf
      · exact sound.frame
      · exact sound f (List.mem_cons_of_mem _ (List.dropLast_subset _ hf))
    · exact nests.linked.prefix ((List.prefix_cons_inj _).mpr (List.dropLast_prefix _))
  | @loading depth sc line reference name raw before taken names found ih =>
    exact ⟨Chain.sound_single.mpr (Cursor.sound_opened ..), ⟨raw, rfl⟩, Chain.linked_single⟩

/-- In the midst of a run, the outermost source may still nest as deep as it does. -/
theorem shallow (h : Reached resources outer depth sc) (acyclic : Acyclic resources outer) :
    ∃ raw, sc.chain.frame.cursor.lines = sc.settings.linesOf raw ∧
      Shallow resources depth sc.settings raw := by
  induction h with
  | between there settings =>
    obtain ⟨raw, lines⟩ := ((Session.invariant_nests resources).reached there).2.text
    subst settings
    exact ⟨raw, lines, shallow_of_acyclic acyclic raw⟩
  | @table source name raw found =>
    exact ⟨raw, rfl, shallow_of_acyclic acyclic.forRecords raw⟩
  | @behind depth sc line rest replays before ahead ih =>
    obtain ⟨raw, lines, shallow⟩ := ih
    have kept := Frame.lines_passed line rest replays
    exact ⟨raw, (Chain.kept_changed (·.cursor.lines) kept ..).trans lines, shallow⟩
  | inside before taken opens ih => exact ih
  | outside before ended ih => exact ih
  | @loading depth sc line reference name raw before taken names found ih =>
    obtain ⟨_, lines, shallow⟩ := ih
    obtain ⟨raw', inner, shallow⟩ := before.sound_nests.2.linked.shallow lines shallow
    refine ⟨raw, rfl, ?_⟩
    cases hdepth : depth - sc.chain.included.length with
    | zero =>
      rw [hdepth] at shallow
      exact shallow.elim
    | succ left =>
      rw [hdepth] at shallow
      have mem : line ∈ sc.settings.linesOf raw' := inner ▸ Cursor.mem_of_current? taken
      exact (shallow line mem _ _ names).2 name raw found

theorem innermost (h : Reached resources outer depth sc) (acyclic : Acyclic resources outer) :
    ∃ raw, sc.chain.innermost.cursor.lines = sc.settings.linesOf raw ∧
      Shallow resources (depth - sc.chain.included.length) sc.settings raw := by
  obtain ⟨raw, lines, shallow⟩ := h.shallow acyclic
  exact h.sound_nests.2.linked.shallow lines shallow

/-- The sources that are being read nest no deeper than they may. -/
theorem fits (h : Reached resources outer depth sc) (acyclic : Acyclic resources outer) :
    sc.chain.included.length < depth := by
  obtain ⟨raw, -, shallow⟩ := h.innermost acyclic
  by_contra deep
  rw [Nat.sub_eq_zero_of_le (Nat.le_of_not_lt deep)] at shallow
  exact shallow.elim

/-- Where a line of the innermost source names another one, that one may be read. -/
theorem room (h : Reached resources outer depth sc) (acyclic : Acyclic resources outer)
    {line : Line} (mem : line ∈ sc.chain.innermost.cursor.lines) {settings : Settings}
    {reference : Text} (names : Names sc.settings line.text settings reference) :
    sc.chain.included.length + 2 ≤ depth := by
  obtain ⟨raw, inner, shallow⟩ := h.innermost acyclic
  have fits := h.fits acyclic
  obtain ⟨left, hdepth⟩ : ∃ left, depth - sc.chain.included.length = left + 1 :=
    ⟨depth - sc.chain.included.length - 1, by omega⟩
  rw [hdepth] at shallow
  rw [inner] at mem
  obtain ⟨room, -⟩ := shallow line mem _ _ names
  omega

theorem depth_le (h : Reached resources outer depth sc) : depth ≤ resources.depthBound := by
  induction h with
  | between there => exact Nat.le_refl _
  | table found => exact Nat.le_refl _
  | behind replays before ahead ih => exact ih
  | inside before taken opens ih => exact ih
  | outside before ended ih => exact ih
  | loading before taken names found ih => omega

end Scanner.Reached

end CommandScript
