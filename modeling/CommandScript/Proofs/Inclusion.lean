import CommandScript.Proofs.Conditions
import CommandScript.Proofs.Expansion
import CommandScript.Proofs.Walk

/-!
# Sources without cycles

An `include` or `properties` line names a file or a named text, never a text itself, so
a chain of nested sources is a path through finitely many texts. Where no text leads
back to itself the path visits no text twice, and the walk stays below its bound.
-/

namespace CommandScript

def fileText? (bytes : List UInt8) : Option Text :=
  match Utf8.decodeFile bytes with
  | .ok raw => some (universalNewlines raw)
  | .error _ => none

def Resources.contents (r : Resources) : List Text :=
  (r.files.entries.filterMap fun entry =>
    match entry.2 with
    | .file bytes => fileText? bytes
    | .directory => none)
  ++ r.files.known.filterMap (fun entry => fileText? entry.2)
  ++ r.objects.entries.map (·.2)

def Settings.linesOf (settings : Settings) (raw : Text) : List Line :=
  Line.ingest settings.options.toCleaning settings.kind.separator raw

def Marked (reference : Text) : Prop := ∃ name, reference = '@' :: name ∨ reference = '!' :: name

/-- With some registry, the line names a source that is read under the given settings. -/
inductive Names (settings : Settings) (line : Text) : Settings → Text → Prop where
  | included {registry : Registry} {reference u : Text}
      (form : settings.kind.builtin? (withoutEcho line) = some (.includeSource reference))
      (expanded : settings.expander.expand registry reference = .ok u) :
      Names settings line settings (Text.splitOptional u).2
  | loaded {registry : Registry} {label reference u : Text}
      (form : settings.kind.builtin? (withoutEcho line) = some (.properties label reference))
      (expanded : settings.expander.expand registry reference = .ok u) :
      Names settings line settings.forRecords (Text.asFileReference (Text.splitOptional u).2)

/-- One text leads to another if one of its lines, with some registry, names a source
with that text. -/
def Leads (resources : Resources) (settings : Settings) (raw : Text) (settings' : Settings)
    (raw' : Text) : Prop :=
  ∃ line ∈ settings.linesOf raw, ∃ reference name,
    Names settings line.text settings' reference ∧
      (Source.text reference).read resources = .ok (name, raw')

/-- The texts of the files and named texts can be numbered such that every text leads to
smaller ones only, so none leads back to itself. -/
def Acyclic (resources : Resources) (settings : Settings) : Prop :=
  ∃ rank : Text → Nat, ∀ how ∈ [settings, settings.forRecords], ∀ raw ∈ resources.contents,
    ∀ how' raw', Leads resources how raw how' raw' → rank raw' < rank raw

/-! ### Texts that can be named -/

theorem length_contents (r : Resources) : r.contents.length + 1000 ≤ r.depthBound := by
  have entries := List.length_filterMap_le (fun entry : List Text × FileNode =>
    match entry.2 with
    | .file bytes => fileText? bytes
    | .directory => none) r.files.entries
  have known := List.length_filterMap_le (fun entry : Path × List UInt8 => fileText? entry.2)
    r.files.known
  simp only [Resources.contents, List.length_append, List.length_map, Resources.depthBound,
    Ordered.size]
  omega

namespace FileTree

variable {tree : FileTree} {bytes : List UInt8}

theorem walkOutside_ne_found (names : List Text) : walkOutside names ≠ .found bytes := by
  induction names with
  | nil => rintro ⟨⟩
  | cons name rest ih =>
    simp only [walkOutside]
    split
    · exact ih
    · split <;> rintro ⟨⟩

theorem mem_of_node? {place : List Text} (h : tree.node? place = some (.file bytes)) :
    ∃ entry ∈ tree.entries, entry.2 = .file bytes := by
  revert h
  simp only [node?]
  split
  · rintro ⟨⟩
  · split
    · exact fun h => ⟨_, List.mem_of_find?_eq_some ‹_›, Option.some.inj h⟩
    · split <;> rintro ⟨⟩

/-- A file is found in an entry of the tree only. -/
theorem mem_of_walk {place names : List Text} (h : tree.walk place names = .found bytes) :
    ∃ entry ∈ tree.entries, entry.2 = .file bytes := by
  induction names generalizing place with
  | nil =>
    revert h
    simp only [walk]
    split
    · rintro ⟨⟩
      exact mem_of_node? ‹_›
    · rintro ⟨⟩
  | cons name rest ih =>
    revert h
    simp only [walk]
    split
    · split
      · split
        · exact fun h => absurd h (walkOutside_ne_found rest)
        · exact ih
      · split
        · rintro ⟨⟩
        · exact ih
    · rintro ⟨⟩

theorem mem_of_find {path : Path} (h : tree.find path = .found bytes) :
    (∃ entry ∈ tree.entries, entry.2 = .file bytes) ∨ ∃ entry ∈ tree.known, entry.2 = bytes := by
  revert h
  simp only [find]
  split
  · rintro ⟨⟩
    exact .inr ⟨_, List.mem_of_find?_eq_some ‹_›, rfl⟩
  · intro h
    revert h
    simp only [search]
    split
    · rintro ⟨⟩
    · split
      · exact fun h => .inl (mem_of_walk h)
      · exact fun h => absurd h (walkOutside_ne_found _)

theorem find_of_read {path : Path} {reference raw : Text} (h : tree.read path reference = .ok raw) :
    ∃ bytes, tree.find path = .found bytes ∧ fileText? bytes = some raw := by
  revert h
  simp only [read]
  split
  · rintro ⟨⟩
  · split
    · rintro ⟨⟩
    · rintro ⟨⟩
    · split
      · rintro ⟨⟩
        exact ⟨_, ‹_›, by simp only [fileText?, *]⟩
      · rintro ⟨⟩

end FileTree

/-- Reading what a reference names gives the text of a file or a named text. -/
theorem mem_contents {resources : Resources} {reference name raw : Text} (h : Marked reference)
    (hread : (Source.text reference).read resources = .ok (name, raw)) :
    raw ∈ resources.contents := by
  simp only [Resources.contents, List.mem_append, List.mem_filterMap, List.mem_map]
  obtain ⟨spelling, rfl | rfl⟩ := h
  · refine .inl ?_
    simp only [Source.read] at hread
    cases hfile : resources.files.read (Path.ofText spelling) ('@' :: spelling) with
    | error e => simp [hfile, Except.map] at hread
    | ok raw' =>
      rw [hfile] at hread
      cases hread
      obtain ⟨bytes, hfind, htext⟩ := FileTree.find_of_read hfile
      rcases FileTree.mem_of_find hfind with ⟨entry, hmem, hbytes⟩ | ⟨entry, hmem, hbytes⟩
      · exact .inl ⟨entry, hmem, by simp only [hbytes, htext]⟩
      · exact .inr ⟨entry, hmem, by rw [hbytes, htext]⟩
  · refine .inr ?_
    simp only [Source.read] at hread
    cases hfind : resources.objects.find? spelling with
    | none => simp [hfind] at hread
    | some raw' =>
      simp only [hfind] at hread
      cases hread
      obtain ⟨entry, hentry, rfl⟩ := Option.map_eq_some_iff.mp hfind
      exact ⟨entry, List.mem_of_find?_eq_some hentry, rfl⟩

theorem Kind.include_of_builtin? {kind : Kind} {line reference : Text}
    (h : kind.builtin? line = some (.includeSource reference)) :
    Form.include? line = some reference := by
  have basic (h : Builtin.basic? line = some (.includeSource reference)) :
      Form.include? line = some reference := by
    revert h
    simp only [Builtin.basic?]
    cases Form.include? line <;> cases Form.print? line <;> simp
  have script : Builtin.script? line ≠ some (.includeSource reference) := by
    simp only [Builtin.script?]
    cases Form.sleep? line <;> cases Form.setProperty? line <;> cases Form.properties? line <;> simp
  have record : Builtin.record? line ≠ some (.includeSource reference) := by
    simp only [Builtin.record?]
    cases Form.record? line <;> simp
  revert h
  cases kind with
  | basic => exact basic
  | eager => exact basic
  | script =>
    simp only [Kind.builtin?]
    cases hb : Builtin.basic? line with
    | none => exact fun h => absurd (by simpa using h) script
    | some b => exact fun h => basic (by simpa [hb] using h)
  | records =>
    simp only [Kind.builtin?]
    cases hb : Builtin.basic? line with
    | none =>
      cases hs : Builtin.script? line with
      | none => exact fun h => absurd (by simpa using h) record
      | some b => exact fun h => absurd (by simpa [hs] using h) script
    | some b => exact fun h => basic (by simpa [hb] using h)

theorem marked_asFileReference (t : Text) : Marked (Text.asFileReference t) := by
  unfold Text.asFileReference
  split
  · exact ⟨_, .inl rfl⟩
  · exact ⟨_, .inr rfl⟩
  · exact ⟨_, .inl rfl⟩

/-- A reference to an object is a marker and a name, perhaps after a question mark. -/
theorem Text.marker_of_isObjectReference {t : Text} (h : t.isObjectReference = true) :
    ∃ marker name, (marker = '@' ∨ marker = '!') ∧
      (t = marker :: name ∨ t = '?' :: marker :: name) := by
  have bare : t = t.withoutMark ∨ t = '?' :: t.withoutMark := by
    unfold Text.withoutMark
    split
    · exact .inr rfl
    · exact .inl rfl
  simp only [isObjectReference] at h
  generalize t.withoutMark = u at h bare
  split at h
  · exact ⟨'@', _, .inl rfl, bare⟩
  · exact ⟨'!', _, .inr rfl, bare⟩
  · cases h

/-- What a line names has a marker in front, whatever the registry holds. -/
theorem Names.marked {settings settings' : Settings} {line reference : Text}
    (h : Names settings line settings' reference) : Marked reference := by
  cases h with
  | loaded form expanded => exact marked_asFileReference _
  | @included registry written u form expanded =>
    have object : Text.isObjectReference written = true := by
      have hform := Kind.include_of_builtin? form
      simp only [Form.include?, Option.filter_eq_some_iff] at hform
      exact hform.2
    obtain ⟨marker, name, hmarker, hwritten⟩ := Text.marker_of_isObjectReference object
    have plain : marker ≠ '$' := by rcases hmarker with rfl | rfl <;> decide
    have split (v : Text) : Marked (marker :: v) := by
      rcases hmarker with rfl | rfl
      · exact ⟨v, .inl rfl⟩
      · exact ⟨v, .inr rfl⟩
    rcases hwritten with rfl | rfl
    · obtain ⟨v, -, rfl⟩ := Expander.expand_cons_ok registry plain expanded
      have unmarked : Text.splitOptional (marker :: v) = (false, marker :: v) := by
        rcases hmarker with rfl | rfl <;> rfl
      rw [unmarked]
      exact split v
    · obtain ⟨w, hw, rfl⟩ := Expander.expand_cons_ok registry (by decide) expanded
      obtain ⟨v, -, rfl⟩ := Expander.expand_cons_ok registry plain hw
      exact split v

/-! ### Nesting -/

/-- From a text, whatever the registry, sources nest less than `depth` deep. -/
def Shallow (resources : Resources) : Nat → Settings → Text → Prop
  | 0, _, _ => False
  | depth + 1, settings, raw =>
    ∀ line ∈ settings.linesOf raw, ∀ settings' reference,
      Names settings line.text settings' reference →
        0 < depth ∧ ∀ name raw', (Source.text reference).read resources = .ok (name, raw') →
          Shallow resources depth settings' raw'

section

variable {resources : Resources} {settings : Settings}

theorem Shallow.mono {depth more : Nat} {raw : Text} (h : Shallow resources depth settings raw)
    (hle : depth ≤ more) : Shallow resources more settings raw := by
  induction depth generalizing more settings raw with
  | zero => exact h.elim
  | succ depth ih =>
    obtain ⟨more, rfl⟩ := Nat.exists_eq_add_of_lt hle
    intro line hline settings' reference hnames
    obtain ⟨hpos, hread⟩ := h line hline settings' reference hnames
    exact ⟨by omega, fun name raw' hraw => ih (hread name raw' hraw) (by omega)⟩

/-- How many texts are smaller. -/
def height (resources : Resources) (rank : Text → Nat) (raw : Text) : Nat :=
  (resources.contents.filter (rank · < rank raw)).length

theorem height_lt {rank : Text → Nat} {raw raw' : Text} (hmem : raw' ∈ resources.contents)
    (h : rank raw' < rank raw) : height resources rank raw' < height resources rank raw := by
  have inner : resources.contents.filter (rank · < rank raw') =
      (resources.contents.filter (rank · < rank raw)).filter (rank · < rank raw') := by
    rw [List.filter_filter]
    refine List.filter_congr fun t _ => ?_
    have below : rank t < rank raw' → rank t < rank raw := fun ht => Nat.lt_trans ht h
    simpa using below
  rw [height, inner, height, List.length_filter_lt_length_iff_exists]
  exact ⟨raw', by simp [hmem, h], by simp⟩

theorem Names.settings_mem {settings' : Settings} {line reference : Text} {how : Settings}
    (hhow : how ∈ [settings, settings.forRecords]) (h : Names how line settings' reference) :
    settings' ∈ [settings, settings.forRecords] := by
  have pair (s : Settings) : s ∈ [settings, settings.forRecords] ↔
      s = settings ∨ s = settings.forRecords := by simp
  rw [pair] at hhow ⊢
  cases h with
  | included => exact hhow
  | loaded => rcases hhow with rfl | rfl <;> exact .inr rfl

theorem shallow_content {rank : Text → Nat}
    (hrank : ∀ how ∈ [settings, settings.forRecords], ∀ raw ∈ resources.contents,
      ∀ how' raw', Leads resources how raw how' raw' → rank raw' < rank raw)
    {how : Settings} (hhow : how ∈ [settings, settings.forRecords]) {raw : Text}
    (hraw : raw ∈ resources.contents) :
    Shallow resources (height resources rank raw + 2) how raw := by
  induction hn : height resources rank raw using Nat.strongRecOn generalizing how raw with
  | ind n ih =>
    intro line hline settings' reference hnames
    refine ⟨Nat.succ_pos n, fun name raw' hread => ?_⟩
    have hmem : raw' ∈ resources.contents := mem_contents hnames.marked hread
    have lower : height resources rank raw' < n :=
      hn ▸ height_lt hmem (hrank how hhow raw hraw settings' raw'
        ⟨line, hline, reference, name, hnames, hread⟩)
    exact (ih _ lower (hnames.settings_mem hhow) hmem rfl).mono (by omega)

/-- Without cycles, sources nest no deeper than there are texts. -/
theorem shallow_of_acyclic (h : Acyclic resources settings) (raw : Text) :
    Shallow resources resources.depthBound settings raw := by
  obtain ⟨rank, hrank⟩ := h
  have bound := length_contents resources
  have top : Shallow resources (resources.contents.length + 3) settings raw := by
    intro line hline settings' reference hnames
    refine ⟨Nat.succ_pos _, fun name raw' hread => ?_⟩
    have hmem : raw' ∈ resources.contents := mem_contents hnames.marked hread
    have low : height resources rank raw' ≤ resources.contents.length :=
      List.length_filter_le _ _
    exact (shallow_content hrank (hnames.settings_mem List.mem_cons_self) hmem).mono (by omega)
  exact top.mono (by omega)

/-! ### Walks that stay below the bound -/

open Act

/-- What can be wrong with a text as a source. -/
inductive Source.Fault (t : Text) : Error → Prop where
  | missing : Fault t (.notFound t none)
  | unreadable {fault : ReadFault} : Fault t (.unreadable t fault)
  | null {name : Text} (file : t = '@' :: name) (holds : '\x00' ∈ (Path.ofText name).toText) :
      Fault t .nullInPath

theorem FileTree.read_fault {files : FileTree} {name : Text} {e : Error}
    (h : files.read (.ofText name) ('@' :: name) = .error e) : Source.Fault ('@' :: name) e := by
  revert h
  rw [FileTree.read]
  split
  · rename_i holds
    rintro ⟨⟩
    exact .null rfl (by simpa using holds)
  · split
    · rintro ⟨⟩
      exact .missing
    · rintro ⟨⟩
      exact .unreadable
    · split
      · rintro ⟨⟩
      · rintro ⟨⟩
        exact .unreadable

theorem Source.read_fault {t : Text} {e : Error}
    (h : (Source.text t).read resources = .error e) : Source.Fault t e := by
  revert h
  simp only [Source.read]
  split
  · rename_i name
    cases hfile : resources.files.read (.ofText name) ('@' :: name) with
    | ok raw => rintro ⟨⟩
    | error e' =>
      rintro ⟨⟩
      exact FileTree.read_fault hfile
  · split
    · rintro ⟨⟩
    · rintro ⟨⟩
      exact .missing
  · rintro ⟨⟩

theorem read_error {t : Text} {e : Error} (h : (Source.text t).read resources = .error e) :
    e ≠ .tooDeep := by
  rintro rfl
  cases Source.read_fault h

/-- Expansion nests nothing. -/
theorem expansion_error {expander : Expander} {registry : Registry} {t : Text} {e : Error}
    (h : expander.expand registry t = .error e) : e ≠ .tooDeep := by
  obtain ⟨reference, rfl⟩ := Expander.expand_error registry h
  rintro ⟨⟩

/-- The line opens the source of the frame, or none where it may be missing. -/
inductive Opens (resources : Resources) (settings : Settings) (line : Text) : Frame → Prop where
  | missing {reference : Text} (hnames : Names settings line settings reference) :
      Opens resources settings line {}
  | opened {reference name raw : Text} (hnames : Names settings line settings reference)
      (hread : (Source.text reference).read resources = .ok (name, raw)) :
      Opens resources settings line { cursor := .opened name (settings.linesOf raw) }

/-- What the effect enters, if anything, is opened by the line. -/
def Effect.OpenedBy (resources : Resources) (settings : Settings) (line : Text) :
    Effect → Prop
  | .entered g => Opens resources settings line g
  | _ => True

theorem executeInclude_opens {line reference : Text} (place : Text) (s : Store)
    (form : settings.kind.builtin? (withoutEcho line) = some (.includeSource reference)) :
    Wp (executeInclude resources settings place reference)
      (fun effect _ => effect.OpenedBy resources settings line) (fun e _ => e ≠ .tooDeep) s := by
  simp only [wp_executeInclude]
  split
  · exact expansion_error ‹_›
  · rename_i u hu
    have named : Names settings line settings (Text.splitOptional u).2 := .included form hu
    split
    · exact Opens.opened named ‹_›
    · split
      · exact Opens.missing named
      · rintro ⟨⟩
    · exact read_error ‹_›

theorem executeProperties_bounded {load : Text → Act Store Table} {line label reference : Text}
    (hload : ∀ reference, Names settings line settings.forRecords reference →
      ∀ t, (load reference t).result ≠ .error .tooDeep)
    (form : settings.kind.builtin? (withoutEcho line) = some (.properties label reference))
    (place : Text) (s : Store) :
    Wp (executeProperties settings load place label reference)
      (fun effect _ => effect.OpenedBy resources settings line) (fun e _ => e ≠ .tooDeep) s := by
  have loaded {reference : Text} (h : ∀ t, (load reference t).result ≠ .error .tooDeep)
      (t : Store) : Wp (load reference) (fun _ _ => True) (fun e _ => e ≠ .tooDeep) t := by
    have deep := h t
    rw [Wp]
    generalize (load reference t).result = result at deep ⊢
    cases result with
    | ok values => trivial
    | error e => exact fun same => deep (congrArg _ same)
  have merged (label : Text) (values : Table) (t : Store) :
      Wp (Store.merge label values)
        (fun _ _ => Effect.OpenedBy resources settings line .done) (fun e _ => e ≠ .tooDeep) t :=
    (wp_merge label values).mono (fun _ _ _ => trivial) fun _ _ => False.elim
  simp only [wp_executeProperties]
  split
  · exact expansion_error ‹_›
  · split
    · exact expansion_error ‹_›
    · rename_i u hu
      refine (loaded (hload _ (.loaded form hu)) s).mono (fun values t _ => merged ..)
        fun e t he => ?_
      split
      · split
        · rintro ⟨⟩
        · split
          · exact merged ..
          · rintro ⟨⟩
      · exact he

/-- Executing does not nest too deep if the loads that it may ask for do not. -/
theorem execute_opens {load : Text → Act Store Table} {line : Text} {builtin : Builtin}
    (hload : ∀ reference, Names settings line settings.forRecords reference →
      ∀ t, (load reference t).result ≠ .error .tooDeep)
    (form : settings.kind.builtin? (withoutEcho line) = some builtin) (place : Text) (s : Store) :
    Wp (execute resources settings load place builtin)
      (fun effect _ => effect.OpenedBy resources settings line) (fun e _ => e ≠ .tooDeep) s := by
  cases builtin with
  | includeSource reference => exact executeInclude_opens place s form
  | print expression =>
    simp only [execute, wp_executePrint]
    split
    · exact expansion_error ‹_›
    · split <;> trivial
  | sleep digits =>
    rw [execute, wp_executeSleep]
    split
    · rintro ⟨⟩
    · split
      · trivial
      · rintro ⟨⟩
  | setProperty key value =>
    simp only [execute, executeSetProperty, expandPayload, debugIfVerbose, Wp.bind_iff,
      wp_expand, Wp.onlyIf_debug_iff]
    split
    · split
      · exact (wp_setGlobal ..).mono (fun _ _ _ => trivial) fun _ _ => False.elim
      · exact expansion_error ‹_›
    · exact expansion_error ‹_›
  | properties label reference => exact executeProperties_bounded hload form place s
  | record key value =>
    simp only [execute, executeRecord, expandPayload, debugIfVerbose, Wp.bind_iff,
      wp_expand, Wp.onlyIf_debug_iff]
    split
    · split
      · trivial
      · exact expansion_error ‹_›
    · exact expansion_error ‹_›

theorem surface_bounded (place : Text) (line : Line) (s : Store) :
    Wp (surface settings place line) (fun _ _ => True) (fun e _ => e ≠ .tooDeep) s := by
  rw [wp_surface]
  split
  · trivial
  · exact expansion_error ‹_›

theorem executeLine_opens {load : Text → Act Store Table} {line : Line}
    (hload : ∀ reference, Names settings line.text settings.forRecords reference →
      ∀ t, (load reference t).result ≠ .error .tooDeep) (place : Text) (s : Store) :
    Wp (executeLine resources settings load place line)
      (fun effect _ => effect.OpenedBy resources settings line.text) (fun e _ => e ≠ .tooDeep)
      s := by
  rw [executeLine, Wp.bind_iff, Wp.onlyIf_debug_iff, Wp.bind_iff, wp_surface]
  split
  · split
    · exact execute_opens hload ‹_› place _
    · rintro ⟨⟩
  · exact expansion_error ‹_›

/-- Loading does not nest too deep if the walk over what is loaded does not. -/
theorem loadByWalk_bounded {reference : Text} {visit : Frame → Store → Walked}
    (hvisit : ∀ name raw, (Source.text reference).read resources = .ok (name, raw) → ∀ s,
      (visit { cursor := .opened name (settings.forRecords.linesOf raw) } s).fault ≠ some .tooDeep)
    (s : Store) : (loadByWalk resources settings visit reference s).result ≠ .error .tooDeep := by
  have opened : Wp (openFrame resources settings.forRecords (.text reference))
      (fun f _ => ∀ s, (visit f s).fault ≠ some .tooDeep) (fun e _ => e ≠ .tooDeep)
      { s with target := ∅ } := by
    rw [wp_openFrame]
    split
    · exact hvisit _ _ ‹_›
    · exact read_error ‹_›
  rw [Wp] at opened
  simp only [loadByWalk, withOwnTarget]
  generalize openFrame resources settings.forRecords (.text reference)
    { s with target := ∅ } = o at opened ⊢
  obtain ⟨e | f, t, events⟩ := o
  · exact fun deep => opened (by cases deep; rfl)
  · have hf := opened t
    dsimp only
    generalize visit f t = w at hf ⊢
    obtain ⟨lines, _ | e, t', more⟩ := w
    · rintro ⟨⟩
    · exact fun deep => hf (by cases deep; rfl)

theorem andThen_bounded {w : Walked} {next : Store → Walked} (hw : w.fault ≠ some .tooDeep)
    (hnext : ∀ s, (next s).fault ≠ some .tooDeep) : (w.andThen next).fault ≠ some .tooDeep := by
  obtain ⟨lines, _ | e, s, events⟩ := w
  · exact hnext s
  · exact hw

theorem walkLines_bounded {site : Site} {load : Text → Act Store Table}
    {visit : Text → Frame → Store → Walked} {name : Text} {lines : List Line}
    (h : ∀ line ∈ lines, ∀ s,
      (walkLine resources site load visit name line s).fault ≠ some .tooDeep) (s : Store) :
    (walkLines resources site load visit name lines s).fault ≠ some .tooDeep := by
  induction lines generalizing s with
  | nil => rintro ⟨⟩
  | cons line rest ih =>
    exact andThen_bounded (h line List.mem_cons_self s)
      (ih fun line hline => h line (List.mem_cons_of_mem _ hline))

/-- Walking over a line does not nest too deep if what it loads and enters does not. -/
theorem walkLine_bounded {site : Site} {load : Text → Act Store Table}
    {visit : Text → Frame → Store → Walked} {line : Line}
    (hload : ∀ reference, Names site.settings line.text site.settings.forRecords reference →
      ∀ t, (load reference t).result ≠ .error .tooDeep)
    (hvisit : ∀ place g t, Opens resources site.settings line.text g →
      (visit place g t).fault ≠ some .tooDeep) (name : Text) (s : Store) :
    (walkLine resources site load visit name line s).fault ≠ some .tooDeep := by
  simp only [walkLine]
  split
  · have executed := @executeLine_opens resources site.settings load line hload (line.place name) s
    rcases hexec : executeLine resources site.settings load (line.place name) line s with
      ⟨e | effect, t, events⟩
    · have he := executed.fault hexec
      exact fun deep => he (by cases deep; rfl)
    · have opened := executed.value hexec
      cases effect with
      | entered g => exact hvisit (line.place name) g t opened
      | _ => rintro ⟨⟩
  · have surfaced := @surface_bounded site.settings (line.place name) line s
    rcases hsurf : surface site.settings (line.place name) line s with ⟨e | text, t, events⟩
    · have he := surfaced.fault hsurf
      exact fun deep => he (by cases deep; rfl)
    · dsimp only
      split <;> rintro ⟨⟩

/-- A walk over lines of a text does not nest too deep if nothing that the text leads to does. -/
theorem walk_of_subset {depth : Nat} {site : Site} {raw : Text} {lines : List Line}
    (h : Shallow resources depth site.settings raw)
    (sub : ∀ line ∈ lines, line ∈ site.settings.linesOf raw) (name : Text) (s : Store) :
    (walk resources depth site name lines s).fault ≠ some .tooDeep := by
  induction depth generalizing site raw lines name s with
  | zero => exact h.elim
  | succ depth ih =>
    refine walkLines_bounded (fun line hline s => ?_) s
    refine walkLine_bounded (fun reference hnames => ?_) (fun place g t hopens => ?_) name s
    · exact loadByWalk_bounded fun name' raw' hread s =>
        ih ((h line (sub line hline) _ reference hnames).2 name' raw' hread) (fun _ mem => mem)
          name' s
    · cases hopens with
      | missing hnames =>
        obtain ⟨hpos, -⟩ := h line (sub line hline) _ _ hnames
        cases depth with
        | zero => exact absurd hpos (Nat.lt_irrefl 0)
        | succ depth => rintro ⟨⟩
      | @opened _ name' raw' hnames hread =>
        obtain ⟨-, hshallow⟩ := h line (sub line hline) _ _ hnames
        exact @ih (site.within place) raw' _ (hshallow name' raw' hread) (fun _ mem => mem) name' t

theorem walk_shallow {depth : Nat} {site : Site} {raw : Text}
    (h : Shallow resources depth site.settings raw) (name : Text) (s : Store) :
    (walk resources depth site name (site.settings.linesOf raw) s).fault ≠ some .tooDeep :=
  walk_of_subset h (fun _ mem => mem) name s

/-- Without cycles no walk nests too deep. -/
theorem walk_acyclic {site : Site} (h : Acyclic resources site.settings) (name raw : Text)
    (s : Store) :
    (walk resources resources.depthBound site name (site.settings.linesOf raw) s).fault ≠
      some .tooDeep :=
  walk_shallow (shallow_of_acyclic h raw) name s

end

end CommandScript
