import CommandScript.Proofs.CursorProtocol
import CommandScript.Proofs.LineCounts
import CommandScript.Proofs.Reportable

/-!
# Executing a script and showing its lines

A command drains a script and shows each line that it surfaces. Its bound on their number is never
reached, so it comes to what a drain comes to, with what is shown of each line put in behind it.
-/

namespace CommandScript

open CommandLine

/-! ### Showing the lines of a drain -/

/-- The events of a scan with what is shown of each of its lines put in, in order. `taken` lines
went before. -/
inductive Shown (shows : Nat → Text → Bool → List Event) :
    Nat → List (Text × Bool) → List Event → List Event → Prop where
  | rest (taken : Nat) (events : List Event) : Shown shows taken [] events events
  | line {taken : Nat} {text : Text} {echoed : Bool} {lines : List (Text × Bool)}
      {early late all : List Event} (more : Shown shows (taken + 1) lines late all) :
      Shown shows taken ((text, echoed) :: lines) (early ++ late)
        (early ++ shows (taken + 1) text echoed ++ all)

namespace Shown

variable {shows : Nat → Text → Bool → List Event} {taken : Nat} {lines : List (Text × Bool)}
variable {events all : List Event}

theorem after (early : List Event) (h : Shown shows taken lines events all) :
    Shown shows taken lines (early ++ events) (early ++ all) := by
  cases h with
  | rest => exact .rest taken (early ++ events)
  | line more =>
    simp only [← List.append_assoc]
    exact .line more

/-- Where nothing is shown of a line, nothing is put in. -/
theorem eq_of_silent (silent : ∀ number text echoed, shows number text echoed = [])
    (h : Shown shows taken lines events all) : all = events := by
  induction h with
  | rest taken events => rfl
  | line more ih => rw [silent, List.append_nil, ih]

end Shown

namespace Scanner

variable {resources : Resources} {sc sc' : Scanner} {s s' : Store} {events : List Event}

theorem name?_hasNext {answer : Bool}
    (h : hasNext resources (sc, s) = ⟨.ok answer, (sc', s'), events⟩) : sc'.name? = sc.name? := by
  have onward : sc.Onward (sc', s') := onward_hasNext.value h
  exact congrArg Prod.fst onward.further.1

theorem name?_next {text : Text}
    (h : next resources (sc, s) = ⟨.ok text, (sc', s'), events⟩) : sc'.name? = sc.name? := by
  have onward : sc.Onward (sc', s') := onward_next.value h
  exact congrArg Prod.fst onward.further.1

/-- Draining with room for all lines comes to what a drain comes to. -/
theorem drain_of_drains {handle : Nat → Text → Bool → Scan Unit}
    {shows : Nat → Text → Bool → List Event}
    (handles : ∀ number text echoed st,
      handle number text echoed st = ⟨.ok (), st, shows number text echoed⟩)
    {st : Scanner × Store} {w : Walked} (h : Drains resources st w) {limit : Nat}
    (room : w.lines.length < limit) (taken : Nat) :
    ∃ sc' all, drain resources handle limit taken st =
        ⟨match w.fault with
          | none => .ok (taken + w.lines.length)
          | some e => .error e, (sc', w.store), all⟩ ∧
      (w.fault = none → sc'.name? = st.1.name?) ∧ Shown shows taken w.lines w.events all := by
  induction h generalizing limit taken with
  | @ended sc sc' s s' events asked =>
    obtain ⟨limit, rfl⟩ := Nat.exists_eq_succ_of_ne_zero (Nat.ne_of_gt room)
    refine ⟨sc', events, ?_, fun _ => name?_hasNext asked, .rest taken events⟩
    simp [drain, Act.bind_apply, asked]
  | @failed sc sc' s s' events e asked =>
    obtain ⟨limit, rfl⟩ := Nat.exists_eq_succ_of_ne_zero (Nat.ne_of_gt room)
    refine ⟨sc', events, ?_, (fun fine => by cases fine), .rest taken events⟩
    simp [drain, Act.bind_apply, asked]
  | @refused sc mid sc' s s' s'' events made e asked given =>
    obtain ⟨limit, rfl⟩ := Nat.exists_eq_succ_of_ne_zero (Nat.ne_of_gt room)
    refine ⟨sc', events ++ made, ?_, (fun fine => by cases fine), .rest taken _⟩
    simp [drain, Act.bind_apply, asked, given]
  | @took sc mid sc' s s' s'' events made text w asked given more ih =>
    have some : 0 < limit := Nat.lt_of_le_of_lt (Nat.zero_le _) room
    obtain ⟨limit, rfl⟩ := Nat.exists_eq_succ_of_ne_zero (Nat.ne_of_gt some)
    obtain ⟨last, all, run, name, shown⟩ := ih (Nat.lt_of_succ_lt_succ room) (taken + 1)
    refine ⟨last, events ++ made ++ shows (taken + 1) text sc'.isEchoed ++ all, ?_, ?_, .line shown⟩
    · simp only [drain, Act.bind_apply, asked, if_true, given, Act.get_apply, handles, run,
        Outcome.after_mk, List.nil_append, Walked.following, Walked.after, List.length_cons,
        List.append_assoc]
      rw [Nat.add_right_comm, Nat.add_assoc]
    · intro fine
      exact (name fine).trans ((name?_next given).trans (name?_hasNext asked))

end Scanner

/-- A source of text is named by the text. -/
theorem Source.name_of_read {resources : Resources} {t name raw : Text}
    (h : (Source.text t).read resources = .ok (name, raw)) : name = t := by
  simp only [Source.read] at h
  split at h
  · cases hfile : resources.files.read (.ofText _) _ with
    | error e => rw [hfile] at h; cases h
    | ok raw => rw [hfile] at h; cases h; rfl
  · split at h <;> cases h
    rfl
  · cases h
    rfl

namespace CommandLine

variable {resources : Resources}

/-! ### Starting -/

def Script.name (script : Script) : Text :=
  if script.inline then script.text else '@' :: script.text

/-- Setting script variables fails at a definition without a key. -/
theorem wp_defineAll (definitions : List Text) (s : Store) :
    Act.Wp (defineAll definitions) (fun _ _ => True)
      (fun e _ => ∃ definition ∈ definitions, e = .badDefinition definition) s := by
  induction definitions generalizing s with
  | nil => trivial
  | cons definition rest ih =>
    rw [defineAll, Act.Wp.bind_iff, define]
    split
    · exact ⟨definition, List.mem_cons_self, rfl⟩
    · exact ⟨definition, List.mem_cons_self, rfl⟩
    · rw [Act.Wp.bind_iff]
      refine (wp_setGlobal ..).mono (fun _ t _ => ?_) fun _ _ => False.elim
      rw [Act.Wp.pure_iff]
      refine (ih t).mono (fun _ _ _ => trivial) fun e _ he => ?_
      obtain ⟨bad, mem, rfl⟩ := he
      exact ⟨bad, List.mem_cons_of_mem _ mem, rfl⟩

namespace Execution

variable {e : Execution} {sc : Scanner} {s : Store} {events : List Event}

/-- A script that is opened is at its start. Otherwise a definition has no key, or the script
cannot be read. -/
theorem wp_start (resources : Resources) (e : Execution) :
    Act.Wp (e.start resources)
      (fun _ st => st.1.settings = e.settings ∧ ∃ raw,
        e.script.source.read resources = .ok (e.script.name, raw) ∧
          st.1.chain = ⟨{ cursor := .opened e.script.name (e.settings.linesOf raw) }, []⟩)
      (fun err _ => (∃ definition ∈ e.definitions, err = .badDefinition definition) ∨
        e.script.source.read resources = .error err) e.initial := by
  rw [start, Act.Wp.bind_iff, Scanner.onStore, Act.Wp.onSnd_iff]
  refine (wp_defineAll e.definitions _).mono (fun _ t _ => ?_) fun err _ bad => .inl bad
  rw [Act.Wp.bind_iff, Act.Wp.modify_iff]
  simp only [Scanner.openSource, Scanner.modifyChain, Act.Wp.bind_iff, Act.Wp.modify_iff,
    Act.Wp.get_iff, wp_openFrame]
  split
  · rename_i name raw hread
    obtain rfl : name = e.script.name := Source.name_of_read hread
    exact ⟨rfl, raw, hread, rfl⟩
  · exact .inr ‹_›

/-- Draining a script from its start is walking over its lines. -/
theorem drains_start_iff (started : e.start resources e.initial = ⟨.ok (), (sc, s), events⟩) :
    sc.settings = e.settings ∧ sc.name? = some e.script.name ∧ ∃ raw,
      e.script.source.read resources = .ok (e.script.name, raw) ∧
      ∀ w, Drains resources (sc, s) w ↔
        w = walk resources resources.depthBound { settings := e.settings } e.script.name
          (e.settings.linesOf raw) s := by
  obtain ⟨settings, raw, hread, hchain⟩ := (wp_start resources e).value started
  have sound : sc.chain.Sound := by
    rw [hchain]
    exact Chain.sound_single.mpr (Cursor.sound_opened ..)
  refine ⟨settings, by rw [Scanner.name?, hchain]; rfl, raw, hread, fun w => ?_⟩
  rw [Scanner.drains_iff sound, Scanner.remaining, hchain, walkChain_single, settings]
  rfl

/-! ### Scans -/

/-- What executing the script comes to: it cannot be started, or it is drained from its start. -/
inductive Scans (resources : Resources) (e : Execution) : Walked → Prop where
  | unstarted {err : Error} {st : Scanner × Store} {events : List Event}
      (started : e.start resources e.initial = ⟨.error err, st, events⟩) :
      Scans resources e ⟨[], some err, st.2, events⟩
  | drained {st : Scanner × Store} {events : List Event} {w : Walked}
      (started : e.start resources e.initial = ⟨.ok (), st, events⟩)
      (drains : Drains resources st w) : Scans resources e (w.after events)

theorem exists_scans (resources : Resources) (e : Execution) : ∃ w, e.Scans resources w := by
  rcases started : e.start resources e.initial with ⟨err | u, ⟨sc, s⟩, events⟩
  · exact ⟨_, .unstarted started⟩
  · obtain ⟨-, -, raw, -, drains⟩ := drains_start_iff started
    exact ⟨_, .drained started ((drains _).mpr rfl)⟩

/-- A scan comes to one end only. -/
theorem Scans.unique {w w' : Walked} (h : e.Scans resources w) (h' : e.Scans resources w') :
    w = w' := by
  cases h with
  | unstarted started =>
    cases h' with
    | unstarted started' =>
      cases started.symm.trans started'
      rfl
    | drained started' => cases started.symm.trans started'
  | drained started drains =>
    cases h' with
    | unstarted started' => cases started.symm.trans started'
    | drained started' drains' =>
      cases started.symm.trans started'
      exact congrArg (Walked.after _) (drains.unique drains')

/-- Executing a script and showing its lines comes to what its scan comes to. -/
theorem surface_of_scans (acyclic : Acyclic resources e.settings)
    {handle : Nat → Text → Bool → Scanner.Scan Unit} {shows : Nat → Text → Bool → List Event}
    (handles : ∀ number text echoed st,
      handle number text echoed st = ⟨.ok (), st, shows number text echoed⟩)
    {w : Walked} (h : e.Scans resources w) :
    ∃ sc all, e.surface resources handle e.initial =
        ⟨match w.fault with
          | none => .ok w.lines.length
          | some err => .error err, (sc, w.store), all⟩ ∧
      (w.fault = none → sc.name? = some e.script.name) ∧ Shown shows 0 w.lines w.events all := by
  cases h with
  | @unstarted err st events started =>
    refine ⟨st.1, events, ?_, (fun fine => by cases fine), .rest 0 events⟩
    simp [surface, Act.bind_apply, started]
  | @drained st events w started drains =>
    obtain ⟨sc, s⟩ := st
    obtain ⟨-, named, raw, hread, walks⟩ := drains_start_iff started
    have room : w.lines.length < e.script.lineBound resources := by
      rw [(walks w).mp drains]
      exact length_walk_lt acyclic hread s
    obtain ⟨sc', all, run, kept, shown⟩ := Scanner.drain_of_drains handles drains room 0
    refine ⟨sc', events ++ all, ?_, fun fine => (kept fine).trans named, shown.after events⟩
    simp only [surface, Act.bind_apply, started, run, Outcome.after_mk, Walked.after,
      Nat.zero_add]

/-! ### How a scan ends -/

/-- Errors of a scan that no author of a script is told of: the path of the script holds a null
character, or a line is executed that pauses for a number with too many digits or that opens a
path with a null character. -/
inductive Escapes (resources : Resources) (e : Execution) : Error → Prop where
  | path {file : Text} {st : Scanner × Store} {events : List Event}
      (started : e.start resources e.initial = ⟨.error .nullInPath, st, events⟩)
      (source : e.script.source = .text ('@' :: file)) (null : '\x00' ∈ file) :
      Escapes resources e .nullInPath
  | line {st : Scanner × Store} {events : List Event} {x : ExecutedLine} {err : Error}
      (started : e.start resources e.initial = ⟨.ok (), st, events⟩)
      (executes : DrainExecutes resources st x) (refused : x.Refused resources err) :
      Escapes resources e err

theorem Escapes.unreportable {err : Error} (h : e.Escapes resources err) :
    err.isReportable = false ∧ err.isDefect = false := by
  cases h with
  | path => exact ⟨rfl, rfl⟩
  | line _ _ refused => cases refused <;> exact ⟨rfl, rfl⟩

/-- What escapes is what ends the scan. -/
theorem Escapes.fault {w : Walked} {err : Error} (h : e.Escapes resources err)
    (scans : e.Scans resources w) : w.fault = some err := by
  cases h with
  | path started =>
    obtain rfl := scans.unique (.unstarted started)
    rfl
  | line started executes refused =>
    cases scans with
    | unstarted started' => cases started.symm.trans started'
    | drained started' drains =>
      cases started.symm.trans started'
      have ends := Scanner.drain_refused drains executes refused
      exact ends

/-- An error that ends a scan is reportable, or it escapes. -/
theorem Scans.fault {w : Walked} (h : e.Scans resources w)
    (acyclic : Acyclic resources e.settings) {err : Error} (failed : w.fault = some err) :
    (err.isReportable = true ∧ err.isDefect = false) ∨ e.Escapes resources err := by
  cases h with
  | @unstarted err' st events started =>
    obtain rfl : err' = err := Option.some.inj failed
    rcases (wp_start resources e).fault started with ⟨definition, -, rfl⟩ | unread
    · exact .inl ⟨rfl, rfl⟩
    · cases Source.read_fault unread with
      | missing => exact .inl ⟨rfl, rfl⟩
      | unreadable => exact .inl ⟨rfl, rfl⟩
      | null file holds =>
        refine .inr (.path started (congrArg Source.text file) ?_)
        exact (Path.mem_toText_iff (by decide) (by decide) _).mp holds
  | @drained st events w started drains =>
    obtain ⟨sc, s⟩ := st
    obtain ⟨settings, -, raw, -, walks⟩ := drains_start_iff started
    have failed : w.fault = some err := failed
    have shallow : err ≠ .tooDeep := by
      rintro rfl
      rw [(walks w).mp drains] at failed
      exact walk_acyclic acyclic e.script.name raw s failed
    have script : sc.settings.kind ≠ .eager := by
      rw [settings]
      rintro ⟨⟩
    rcases Scanner.drain_fault script drains failed shallow with ofScript | ⟨x, executes, refused⟩
    · exact .inl ⟨Error.isReportable_of_isOfScript ofScript, by
        cases err <;> first | rfl | cases ofScript⟩
    · exact .inr (.line started executes refused)

end Execution

end CommandLine

end CommandScript
