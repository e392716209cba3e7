import CommandScript.Proofs.Draining
import CommandScript.Proofs.Faults
import CommandScript.Proofs.Splitting

/-!
# Errors that a script author can act on

A drain ends with an error that tells the author what is missing, unreadable, unknown or left
over. Three things escape that: the number of a pause is read with a limit on its digits, no clock
keeps a pause of any length, and a path is refused if it holds a null character, which a reference
may bring in. These are the only errors of another kind, and a drain that executes such a line
always ends with one.
-/

namespace CommandScript

/-! ### Paths with a null character -/

namespace Path

theorem mem_anchorOf {c : Char} {t : Text} (h : c ∈ anchorOf t) : c = '/' := by
  revert h
  unfold anchorOf
  split <;> simp

/-- A path holds the characters of its spelling, slashes and dots apart. -/
theorem mem_toText_iff {c : Char} (slash : c ≠ '/') (dot : c ≠ '.') (t : Text) :
    c ∈ (ofText t).toText ↔ c ∈ t := by
  have spelled : c ∈ (ofText t).toText ↔
      c ∈ (ofText t).anchor ++ Text.joinWith ['/'] (ofText t).names := by
    unfold toText
    split
    · rename_i empty
      simp [empty, dot]
    · rfl
  have anchored : c ∉ (ofText t).anchor := fun mem => slash (mem_anchorOf mem)
  rw [spelled, List.mem_append, or_iff_right anchored, Text.mem_joinWith (by simpa using slash),
    Text.mem_iff_splitAt slash]
  constructor
  · rintro ⟨name, mem, hc⟩
    exact ⟨name, (List.mem_filter.mp mem).1, hc⟩
  · rintro ⟨name, mem, hc⟩
    refine ⟨name, List.mem_filter.mpr ⟨mem, ?_⟩, hc⟩
    have nonempty : name ≠ [] := List.ne_nil_of_mem hc
    have other : name ≠ ['.'] := by
      rintro rfl
      exact dot (List.mem_singleton.mp hc)
    simp [nonempty, other]

end Path

/-- A path with a null character is refused before it is looked up. -/
theorem Source.read_null {resources : Resources} {file : Text} (null : '\x00' ∈ file) :
    (Source.text ('@' :: file)).read resources = .error .nullInPath := by
  have held : (Path.ofText file).toText.contains '\x00' = true := by
    simpa using (Path.mem_toText_iff (by decide) (by decide) file).mpr null
  simp only [read, FileTree.read, held, if_true]
  rfl

/-! ### Two kinds of errors -/

/-- A source is missing or unreadable, a reference unknown, or a line left over in a properties
source. -/
def Error.isOfScript : Error → Bool
  | .notFound .. | .unreadable .. | .undefinedReference .. | .notARecord .. => true
  | _ => false

theorem Error.isReportable_of_isOfScript {e : Error} (h : e.isOfScript = true) :
    e.isReportable = true := by
  cases e <;> first | rfl | cases h

namespace ExecutedLine

variable {resources : Resources} {x : ExecutedLine} {e : Error}

/-- The line asks for a pause with too many digits or one that the clock cannot keep, or opens a
file whose path holds a null character. -/
inductive Refused (resources : Resources) (x : ExecutedLine) : Error → Prop where
  | numeral {digits : Text} (form : x.builtin = .sleep digits) (long : digitLimit < digits.length) :
      Refused resources x (.numeralTooLong (.digits digits.length))
  | pause {digits : Text} (form : x.builtin = .sleep digits) (short : digits.length ≤ digitLimit)
      (unkept : resources.keeps (Text.decimalValue digits) = false) :
      Refused resources x (.numeralTooLong .seconds)
  | path {name file : Text} (opens : x.Opens name ('@' :: file)) (null : '\x00' ∈ file) :
      Refused resources x .nullInPath

theorem Refused.not_reportable (h : x.Refused resources e) :
    e.isReportable = false ∧ e.isDefect = false := by
  cases h <;> exact ⟨rfl, rfl⟩

theorem Refused.fails (h : x.Refused resources e) : x.Fails resources e := by
  cases h with
  | numeral form long => exact .sleep form long
  | pause form short unkept => exact .pause form short unkept
  | path opens null => exact .unread opens (Source.read_null null) (by rintro _ _ ⟨⟩)

theorem Fails.of_script_or_refused (h : x.Fails resources e) :
    e.isOfScript = true ∨ x.Refused resources e := by
  cases h with
  | sleep form long => exact .inr (.numeral form long)
  | pause form short unkept => exact .inr (.pause form short unkept)
  | missing opens hread => exact .inl rfl
  | unread opens hread found =>
    cases Source.read_fault hread with
    | missing => exact absurd rfl (found _ none)
    | unreadable => exact .inl rfl
    | null file holds =>
      subst file
      exact .inr (.path opens ((Path.mem_toText_iff (by decide) (by decide) _).mp holds))

end ExecutedLine

theorem Error.Arises.of_script_or_refused {resources : Resources} {executed : ExecutedLine → Prop}
    {e : Error} (h : e.Arises resources executed) (shallow : e ≠ .tooDeep) :
    e.isOfScript = true ∨ ∃ x, executed x ∧ x.Refused resources e := by
  cases h with
  | line hx fails => exact fails.of_script_or_refused.imp_right fun refused => ⟨_, hx, refused⟩
  | undefined => exact .inl rfl
  | leftOver => exact .inl rfl
  | tooDeep => exact absurd rfl shallow

/-! ### Whole drains -/

open Scanner in
/-- A drain executes the line when it asks for a next line, the first one or a later one. -/
inductive DrainExecutes (resources : Resources) : Scanner × Store → ExecutedLine → Prop where
  | asked {sc : Scanner} {s : Store} {x : ExecutedLine}
      (performs : sc.Performs resources s .hasNext x) : DrainExecutes resources (sc, s) x
  | later {sc mid sc' : Scanner} {s s' s'' : Store} {events made : List Event} {text : Text}
      {x : ExecutedLine}
      (asked : hasNext resources (sc, s) = ⟨.ok true, (mid, s'), events⟩)
      (taken : next resources (mid, s') = ⟨.ok text, (sc', s''), made⟩)
      (more : DrainExecutes resources (sc', s'') x) : DrainExecutes resources (sc, s) x

namespace Scanner

variable {resources : Resources} {sc mid sc' : Scanner} {s s' s'' : Store}
variable {events made : List Event}

/-- Where an ordinary line follows, the scanner keeps its settings and is ready to take it. -/
theorem ready_of_hasNext (asked : hasNext resources (sc, s) = ⟨.ok true, (mid, s'), events⟩) :
    mid.settings = sc.settings ∧
      Ready mid.settings resources.depthBound mid.chain.frame mid.chain.included := by
  have rest := @settle_atRest resources sc.settings resources.depthBound sc.chain.frame
    sc.chain.included s true
  simp only [hasNext] at asked
  generalize
    settle resources resources.depthBound sc.settings sc.chain.frame sc.chain.included s = o
    at asked rest
  obtain ⟨result, ⟨c, t⟩, more⟩ := o
  cases asked
  exact ⟨rfl, rest rfl⟩

/-- Where an ordinary line is next, taking it fails on an unknown reference only. -/
theorem next_error {e : Error}
    (ready : Ready sc.settings resources.depthBound sc.chain.frame sc.chain.included)
    (taken : next resources (sc, s) = ⟨.error e, (sc', s'), events⟩) :
    ∃ undefined, e = .undefinedReference undefined := by
  have some := takeNext_of_ready ready s
  have fails := @takeNext_error sc.settings sc.chain.frame sc.chain.included s
  rw [next_of_ready ready] at taken
  generalize takeNext sc.settings sc.chain.frame sc.chain.included s = o at some fails taken
  obtain ⟨e' | _ | text, ⟨c, t⟩, more⟩ := o
  · cases taken
    exact fails rfl
  · exact absurd rfl some
  · cases taken

theorem settings_next {text : Text}
    (ready : Ready sc.settings resources.depthBound sc.chain.frame sc.chain.included)
    (taken : next resources (sc, s) = ⟨.ok text, (sc', s'), events⟩) :
    sc'.settings = sc.settings := by
  rw [next_of_ready ready] at taken
  generalize takeNext sc.settings sc.chain.frame sc.chain.included s = o at taken
  obtain ⟨e' | _ | text, ⟨c, t⟩, more⟩ := o
  · cases taken
  · cases taken
  · cases taken
    rfl

/-- Asking for a next line fails at a line that is executed. -/
theorem arises_hasNext {e : Error} (hkind : sc.settings.kind ≠ .eager)
    (asked : hasNext resources (sc, s) = ⟨.error e, (sc', s'), events⟩) :
    e.Arises resources (sc.Performs resources s .hasNext) := by
  have failed : (settle resources resources.depthBound sc.settings sc.chain.frame
      sc.chain.included s).result = .error e := congrArg Outcome.result asked
  exact (arises_settle hkind _ _ _ s failed).mono fun x => .settling (by simp)

/-- An error of a drain is of the script, or that of a line that was refused. -/
theorem drain_fault {st : Scanner × Store} {w : Walked} (hkind : st.1.settings.kind ≠ .eager)
    (h : Drains resources st w) {e : Error} (he : w.fault = some e) (shallow : e ≠ .tooDeep) :
    e.isOfScript = true ∨ ∃ x, DrainExecutes resources st x ∧ x.Refused resources e := by
  induction h with
  | ended asked => cases he
  | failed asked =>
    cases he
    refine ((arises_hasNext hkind asked).of_script_or_refused shallow).imp_right ?_
    rintro ⟨x, performs, refused⟩
    exact ⟨x, .asked performs, refused⟩
  | refused asked taken =>
    cases he
    obtain ⟨undefined, rfl⟩ := next_error (ready_of_hasNext asked).2 taken
    exact .inl rfl
  | took asked taken more ih =>
    obtain ⟨kept, ready⟩ := ready_of_hasNext asked
    have same := (settings_next ready taken).trans kept
    refine (ih (same ▸ hkind) he).imp_right ?_
    rintro ⟨x, executes, refused⟩
    exact ⟨x, .later asked taken executes, refused⟩

/-- A drain that executes a line which is refused ends there. -/
theorem drain_refused {st : Scanner × Store} {w : Walked} {x : ExecutedLine} {e : Error}
    (h : Drains resources st w) (executes : DrainExecutes resources st x)
    (refused : x.Refused resources e) : w.fault = some e := by
  have found (missing : Text) (state : Option Text) : e ≠ .notFound missing state := by
    rintro rfl
    cases refused
  induction executes generalizing w with
  | @asked sc s x performs =>
    cases performs with
    | settling _ executes =>
      have failed : (hasNext resources (sc, s)).result = .error e :=
        fails_settle found refused.fails executes
      cases h with
      | ended asked => rw [asked] at failed; cases failed
      | failed asked => rw [asked] at failed; cases failed; rfl
      | refused asked => rw [asked] at failed; cases failed
      | took asked => rw [asked] at failed; cases failed
  | later asked taken executes ih =>
    cases h with
    | ended asked' => cases asked.symm.trans asked'
    | failed asked' => cases asked.symm.trans asked'
    | refused asked' taken' =>
      cases asked.symm.trans asked'
      cases taken.symm.trans taken'
    | took asked' taken' more =>
      cases asked.symm.trans asked'
      cases taken.symm.trans taken'
      have ends := ih more refused
      exact ends

/-- Without cycles among the texts, a drain from the start of a source nests not too deep. -/
theorem drain_shallow {source : Source} {trim compress : Option Bool} {w : Walked}
    (opened : openSource resources source trim compress (sc, s) = ⟨.ok (), (sc', s'), events⟩)
    (acyclic : Acyclic resources sc'.settings) (h : Drains resources (sc', s') w) :
    w.fault ≠ some .tooDeep := by
  obtain ⟨-, name, raw, -, hchain⟩ := openSource_ok opened
  have sound : sc'.chain.Sound := by
    rw [hchain]
    exact Chain.sound_single.mpr (Cursor.sound_opened ..)
  rw [(drains_iff sound).mp h, remaining, hchain, walkChain_single]
  exact walk_acyclic acyclic name raw s'

/-- **What a drain fails with.** Without cycles among the texts, a drain from the start of a
source ends with an error of the script, except where it executes a line with too long a numeral,
with a pause that the clock cannot keep or with a null character in a path. There it always ends
with that error, which no author is told of. -/
theorem drain_fails_reportably {source : Source} {trim compress : Option Bool} {w : Walked}
    (opened : openSource resources source trim compress (sc, s) = ⟨.ok (), (sc', s'), events⟩)
    (hkind : sc'.settings.kind ≠ .eager) (acyclic : Acyclic resources sc'.settings)
    (h : Drains resources (sc', s') w) :
    (∀ e, w.fault = some e → (e.isOfScript = true ∧ e.isReportable = true) ∨
        ∃ x, DrainExecutes resources (sc', s') x ∧ x.Refused resources e) ∧
      ∀ x e, DrainExecutes resources (sc', s') x → x.Refused resources e →
        w.fault = some e ∧ e.isReportable = false ∧ e.isDefect = false := by
  constructor
  · intro e he
    have shallow : e ≠ .tooDeep := by
      rintro rfl
      exact drain_shallow opened acyclic h he
    refine (drain_fault hkind h he shallow).imp_left fun ofScript => ?_
    exact ⟨ofScript, Error.isReportable_of_isOfScript ofScript⟩
  · intro x e executes refused
    exact ⟨drain_refused h executes refused, refused.not_reportable⟩

def nullRecord : Text := "x=\"\x00\"".toList

/-- A named text that defines a null character, and a clock. -/
def nullResources : Resources where
  objects := .ofList [("o".toList, nullRecord)]
  longestPause := some Resources.clockLimit

theorem nullResources_acyclic : Acyclic nullResources { kind := .script } := by
  have contents : ∀ raw ∈ nullResources.contents, raw = nullRecord := by decide +kernel
  have forms : ∀ how ∈ [{ kind := .script }, Settings.forRecords { kind := .script }],
      ∀ line ∈ how.linesOf nullRecord, how.kind.builtin? (withoutEcho line.text) ∈
        [none, some (.record "x".toList (.doubleQuoted "\x00".toList))] := by
    decide +kernel
  refine ⟨fun _ => 0, ?_⟩
  rintro how hhow raw hraw how' raw' ⟨line, hline, reference, name, hnames, hread⟩
  obtain rfl := contents raw hraw
  have forms := forms how hhow line hline
  cases hnames with
  | included form expanded =>
    rw [form] at forms
    simp at forms
  | loaded form expanded =>
    rw [form] at forms
    simp at forms

def atStart (script : Text) : Outcome (Scanner × Store) Unit :=
  openSource nullResources (.text script) none none
    (new { kind := .script }, { registry := .withGlobals })

example :
    let start := (atStart "print a\nsleep 9223372036\nsleep 9223372037".toList).state
    let w := remaining nullResources start.1 start.2
    Event.pauses w.events = [9223372036] ∧ w.fault = some (.numeralTooLong .seconds) := by
  decide +kernel

/-- A drain that ends at a path with a null character executes the line that was refused. -/
theorem drain_fails_reportably_refused :
    let start := atStart "print a\nproperties L=!o\ninclude @$\x7bx\x7d".toList
    start.result = .ok () ∧ Acyclic nullResources start.state.1.settings ∧
      ∃ w, Drains nullResources start.state w ∧ Event.written w.events = "a ".toList ∧
        w.fault = some .nullInPath ∧
        ∃ x, DrainExecutes nullResources start.state x ∧ x.Refused nullResources .nullInPath := by
  intro start
  have opened : openSource nullResources
      (.text "print a\nproperties L=!o\ninclude @$\x7bx\x7d".toList) none none
      (new { kind := .script }, { registry := .withGlobals }) =
        ⟨.ok (), (start.state.1, start.state.2), start.events⟩ := rfl
  have sound : start.state.1.chain.Sound := Chain.sound_single.mpr (Cursor.sound_opened ..)
  have drains := @drains_remaining nullResources start.state.1 sound start.state.2
  have fault : (remaining nullResources start.state.1 start.state.2).fault = some .nullInPath := by
    decide +kernel
  obtain ⟨faults, -⟩ := drain_fails_reportably opened (by rintro ⟨⟩) nullResources_acyclic drains
  have refused := (faults _ fault).resolve_left (by rintro ⟨⟨⟩, -⟩)
  exact ⟨rfl, nullResources_acyclic, _, drains, by decide +kernel, fault, refused⟩

/-- The null character comes from a loaded table, and what the drain ends with is no error of a
script. -/
theorem drain_fails_unreportably :
    let start := atStart "properties L=!o\ninclude @$\x7bx\x7d".toList
    start.result = .ok () ∧ Acyclic nullResources start.state.1.settings ∧
      ∃ w, Drains nullResources start.state w ∧ w.fault = some .nullInPath ∧
        Error.isReportable .nullInPath = false := by
  intro start
  have sound : start.state.1.chain.Sound := Chain.sound_single.mpr (Cursor.sound_opened ..)
  exact ⟨rfl, nullResources_acyclic, _, @drains_remaining nullResources _ sound _,
    by decide +kernel, rfl⟩

end Scanner

end CommandScript
