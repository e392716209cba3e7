import CommandScript.Proofs.Reportable
import CommandScript.Proofs.ScannerInvariants

/-!
# Replay requests

A line that prints a dash requests the last output again. The request stands with the source of
the line until the next line of that source is taken, and a scanner shows the request of the
source that it reads. So what a scanner shows is decided by the line that it executed last: it
shows a request exactly if that line made one and stands in the source that is read now. With the
end of an included source its request is lost.
-/

namespace CommandScript

open Act

/-! ### What a line requests -/

def ExecutedLine.RequestsReplay (x : ExecutedLine) : Prop :=
  ∃ expression, x.builtin = .print expression ∧
    x.settings.expander.expand x.store.registry expression = .ok ['-']

/-- A dash as it is written requests a replay, whatever the registry holds. -/
theorem ExecutedLine.requestsReplay_dash {x : ExecutedLine} (h : x.builtin = .print ['-']) :
    x.RequestsReplay :=
  ⟨['-'], h, Expander.expand_plain _ (by decide)⟩

section

variable {resources : Resources} {settings : Settings} {load : Text → Act Store Table}

theorem Effect.Of.requestsReplay_iff {builtin : Builtin} {s : Store} {effect : Effect}
    (h : effect.Of settings builtin s) :
    ExecutedLine.RequestsReplay ⟨settings, builtin, s⟩ ↔ effect = .replayRequested := by
  cases h with
  | done stays other =>
    refine iff_of_false ?_ (by simp)
    rintro ⟨expression, print, dash⟩
    exact other expression print dash
  | replayRequested print dash => exact iff_of_true ⟨_, print, dash⟩ rfl
  | missing inclusion | opened inclusion =>
    refine iff_of_false ?_ (by simp)
    rintro ⟨expression, print, -⟩
    cases inclusion.symm.trans print

/-- Only an inclusion makes a scanner read another source, which requests nothing yet. -/
theorem Effect.Of.entered {builtin : Builtin} {s : Store} {g : Frame}
    (h : Effect.Of settings builtin s (.entered g)) :
    (∃ reference, builtin = .includeSource reference) ∧ g.replayRequested = false := by
  cases h with
  | missing inclusion | opened inclusion => exact ⟨⟨_, inclusion⟩, rfl⟩

/-- The line as it is executed, none if it cannot be surfaced or is nothing to execute. -/
def Settings.executed? (settings : Settings) (line : Line) (s : Store) : Option ExecutedLine :=
  match settings.expander.expand s.registry (withoutEcho line.text) with
  | .ok _ => (settings.kind.builtin? (withoutEcho line.text)).map (⟨settings, ·, s⟩)
  | .error _ => none

theorem executed_of_ok {place : Text} {line : Line} {s s' : Store} {effect : Effect}
    {events : List Event}
    (h : executeLine resources settings load place line s = ⟨.ok effect, s', events⟩) :
    ∃ builtin, settings.executed? line s = some ⟨settings, builtin, s⟩ ∧
      settings.kind.builtin? (withoutEcho line.text) = some builtin ∧
      effect.Of settings builtin s := by
  have gives : Wp (executeLine resources settings load place line)
      (fun effect _ => ∃ builtin, settings.executed? line s = some ⟨settings, builtin, s⟩ ∧
        settings.kind.builtin? (withoutEcho line.text) = some builtin ∧
        effect.Of settings builtin s)
      (fun _ _ => True) s := by
    rw [executeLine, Wp.bind_iff, Wp.onlyIf_debug_iff, Wp.bind_iff, wp_surface]
    split
    · rename_i u expanded
      split
      · rename_i builtin form
        refine (effect_execute place builtin s).mono (fun effect _ of => ?_) fun _ _ _ => trivial
        exact ⟨builtin, by simp [Settings.executed?, expanded, form], form, of⟩
      · trivial
    · trivial
  exact gives.value h

/-! ### The lines in their order -/

def deeper (lines : List (Nat × ExecutedLine)) : List (Nat × ExecutedLine) :=
  lines.map fun (level, x) => (level + 1, x)

/-- The lines that settling one source executes, in order, each with the number of sources that
are read around its own; `inside` gives those of an included source. -/
def executedLines (resources : Resources) (settings : Settings) (load : Text → Act Store Table)
    (enter : Frame → Store → Settled) (inside : Frame → Store → List (Nat × ExecutedLine)) :
    List Line → Frame → Store → List (Nat × ExecutedLine)
  | [], _, _ => []
  | line :: ahead, f, s =>
    if settings.kind.recognizes line.text then
      let f := f.moved line ahead
      let here := (settings.executed? line s).toList.map (0, ·)
      match executeLine resources settings load f.cursor.state line s with
      | ⟨.error _, _, _⟩ => here
      | ⟨.ok .done, s, _⟩ =>
        here ++ executedLines resources settings load enter inside ahead f s
      | ⟨.ok .replayRequested, s, _⟩ =>
        here ++ executedLines resources settings load enter inside ahead
          { f with replayRequested := true } s
      | ⟨.ok (.entered g), s, _⟩ =>
        here ++ deeper (inside g s) ++
          match enter g s with
          | ⟨.ok false, (_, s), _⟩ =>
            executedLines resources settings load enter inside ahead f s
          | _ => []
    else []

def executedAt (resources : Resources) :
    Nat → Settings → Frame → List Frame → Store → List (Nat × ExecutedLine)
  | 0, _, _, _, _ => []
  | depth + 1, settings, f, included, s =>
    let own (s : Store) : List (Nat × ExecutedLine) :=
      executedLines resources settings (loadAt resources depth settings)
        (fun g s => settle resources depth settings g [] s)
        (fun g s => executedAt resources depth settings g [] s) f.started.cursor.ahead f.started s
    match included with
    | [] => own s
    | g :: rest =>
      deeper (executedAt resources depth settings g rest s) ++
        match settle resources depth settings g rest s with
        | ⟨.ok false, (_, s), _⟩ => own s
        | _ => []

theorem executes_of_executed? {loads : Text → Store → ExecutedLine → Prop} {line : Line}
    {s : Store} {x : ExecutedLine} (h : settings.executed? line s = some x) :
    line.Executes settings loads s x := by
  rw [Settings.executed?] at h
  split at h
  · rename_i t expanded
    obtain ⟨builtin, form, rfl⟩ := Option.map_eq_some_iff.mp h
    exact .surfaced expanded form .itself
  · cases h

/-- Settling one source executes these lines. -/
theorem linesExecute_of_mem {enter : Frame → Store → Settled}
    {inside : Frame → Store → List (Nat × ExecutedLine)}
    {loads : Text → Store → ExecutedLine → Prop} {enters : Frame → Store → ExecutedLine → Prop}
    (hinside : ∀ g s, ∀ p ∈ inside g s, enters g s p.2) {lines : List Line} {f : Frame} {s : Store}
    {p : Nat × ExecutedLine}
    (h : p ∈ executedLines resources settings load enter inside lines f s) :
    LinesExecute resources settings load enter loads enters lines f s p.2 := by
  induction lines generalizing f s with
  | nil => cases h
  | cons line ahead ih =>
    rw [executedLines] at h
    split at h
    · rename_i recognized
      have here (mem : p ∈ (settings.executed? line s).toList.map (0, ·)) :
          LinesExecute resources settings load enter loads enters (line :: ahead) f s p.2 := by
        obtain ⟨x, executed, rfl⟩ := List.mem_map.mp mem
        exact .here recognized (executes_of_executed? (Option.mem_toList.mp executed))
      rcases run : executeLine resources settings load (f.moved line ahead).cursor.state line s
        with ⟨e | effect, t, more⟩
      · simp only [run] at h
        exact here h
      · simp only [run] at h
        cases effect with
        | done =>
          rcases List.mem_append.mp h with mem | mem
          · exact here mem
          · exact .later recognized run (ih mem)
        | replayRequested =>
          rcases List.mem_append.mp h with mem | mem
          · exact here mem
          · exact .replayed recognized run (ih mem)
        | entered g =>
          rcases List.mem_append.mp h with mem | mem
          · rcases List.mem_append.mp mem with mem | mem
            · exact here mem
            · obtain ⟨q, inner, rfl⟩ := List.mem_map.mp mem
              exact .inside recognized run (hinside g t q inner)
          · split at mem
            · exact .behind recognized run ‹_› (ih mem)
            · cases mem
    · cases h

/-- Settling a chain executes these lines. -/
theorem executes_of_mem {depth : Nat} {f : Frame} {included : List Frame} {s : Store}
    {p : Nat × ExecutedLine} (h : p ∈ executedAt resources depth settings f included s) :
    Executes resources depth settings f included s p.2 := by
  induction depth generalizing f included s p with
  | zero => cases h
  | succ depth ih =>
    have own {s : Store} (h : p ∈ executedAt resources (depth + 1) settings f [] s) :
        Executes resources (depth + 1) settings f [] s p.2 :=
      linesExecute_of_mem (fun g s p mem => ih mem) h
    cases included with
    | nil => exact own h
    | cons g rest =>
      rw [executedAt] at h
      rw [Executes]
      rcases List.mem_append.mp h with mem | mem
      · obtain ⟨q, inner, rfl⟩ := List.mem_map.mp mem
        exact .inl (ih (p := q) inner)
      · split at mem
        · exact .inr ⟨_, _, _, ‹_›, own mem⟩
        · cases mem

/-! ### What the chain shows -/

/-- A chain shows what the line executed last requests, if that line stands in the source that is
read now; the source of a line that requests a replay was read no further out. -/
structure Chain.Shows (c : Chain) (level : Nat) (x : ExecutedLine) : Prop where
  shown : c.innermost.replayRequested ↔ x.RequestsReplay ∧ level = c.included.length
  within : x.RequestsReplay → c.included.length ≤ level

/-- The source that is read now shows the request of its own line. -/
theorem Chain.Shows.here {f : Frame} {builtin : Builtin} {s : Store} {effect : Effect}
    (of : effect.Of settings builtin s) (h : f.replayRequested ↔ effect = .replayRequested) :
    Chain.Shows ⟨f, []⟩ 0 ⟨settings, builtin, s⟩ :=
  ⟨(h.trans of.requestsReplay_iff.symm).trans (and_iff_left rfl).symm, fun _ => Nat.le_refl 0⟩

theorem Chain.Shows.inward {c : Chain} {f : Frame} {level : Nat} {x : ExecutedLine}
    (h : c.Shows level x) : Chain.Shows ⟨f, c.frame :: c.included⟩ (level + 1) x := by
  obtain ⟨shown, within⟩ := h
  refine ⟨?_, fun requests => Nat.succ_le_succ (within requests)⟩
  rw [Chain.innermost_cons, shown, List.length_cons, Nat.add_right_cancel_iff]

/-- Behind the end of an included source nothing is shown. -/
theorem Chain.Shows.outside {f : Frame} (quiet : f.replayRequested = false) (level : Nat)
    (x : ExecutedLine) : Chain.Shows ⟨f, []⟩ (level + 1) x := by
  refine ⟨?_, fun _ => Nat.zero_le _⟩
  simp [innermost, quiet]

theorem getLast?_deeper {lines : List (Nat × ExecutedLine)} {level : Nat} {x : ExecutedLine}
    (h : (deeper lines).getLast? = some (level, x)) :
    ∃ n, level = n + 1 ∧ lines.getLast? = some (n, x) := by
  rw [deeper, List.getLast?_map, Option.map_eq_some_iff] at h
  obtain ⟨⟨n, y⟩, last, same⟩ := h
  obtain ⟨rfl, rfl⟩ := Prod.mk.inj same
  exact ⟨n, rfl, last⟩

/-- The last of two rows of lines. -/
theorem getLast?_append_cases {a b : List (Nat × ExecutedLine)} {p : Nat × ExecutedLine}
    (h : (a ++ b).getLast? = some p) : b.getLast? = some p ∨ b = [] ∧ a.getLast? = some p := by
  rw [List.getLast?_append] at h
  cases last : b.getLast? with
  | none =>
    rw [last] at h
    exact .inr ⟨List.getLast?_eq_none_iff.mp last, h⟩
  | some q =>
    rw [last] at h
    exact .inl h

section

variable {enter : Frame → Store → Settled} {inside : Frame → Store → List (Nat × ExecutedLine)}
  {lines : List Line} {f : Frame} {s : Store} {level : Nat} {x : ExecutedLine}

/-- What the first line executes stands in front of what follows it. -/
theorem executedLines_cons (enter : Frame → Store → Settled)
    (inside : Frame → Store → List (Nat × ExecutedLine)) {line : Line} {ahead : List Line}
    {s' : Store} {effect : Effect} {events : List Event}
    (recognized : settings.kind.recognizes line.text = true)
    (run : executeLine resources settings load (f.moved line ahead).cursor.state line s =
      ⟨.ok effect, s', events⟩) :
    ∃ builtin, effect.Of settings builtin s ∧
      executedLines resources settings load enter inside (line :: ahead) f s =
        [(0, ⟨settings, builtin, s⟩)] ++ match effect with
          | .done =>
            executedLines resources settings load enter inside ahead (f.moved line ahead) s'
          | .replayRequested =>
            executedLines resources settings load enter inside ahead
              { f.moved line ahead with replayRequested := true } s'
          | .entered g =>
            deeper (inside g s') ++
              match enter g s' with
              | ⟨.ok false, (_, s), _⟩ =>
                executedLines resources settings load enter inside ahead (f.moved line ahead) s
              | _ => [] := by
  obtain ⟨builtin, executed, -, of⟩ := executed_of_ok run
  refine ⟨builtin, of, ?_⟩
  rw [executedLines, if_pos recognized]
  cases effect <;> simp [run, executed]

/-- A source of which no line is executed stays as it is. -/
theorem LinesSettle.idle {o : Settled}
    (run : LinesSettle resources settings load enter lines f s o) (settled : o.result = .ok true)
    (idle : executedLines resources settings load enter inside lines f s = []) :
    o.state.1 = ⟨f, []⟩ := by
  have busy {line : Line} {ahead : List Line} {effect : Effect} {t : Store} {events : List Event}
      (recognized : settings.kind.recognizes line.text = true)
      (executed : executeLine resources settings load (f.moved line ahead).cursor.state line s =
        ⟨.ok effect, t, events⟩) :
      executedLines resources settings load enter inside (line :: ahead) f s ≠ [] := by
    obtain ⟨builtin, -, front⟩ := executedLines_cons enter inside recognized executed
    rw [front]
    exact List.cons_ne_nil _ _
  cases run with
  | ended => cases settled
  | ordinary other => rfl
  | failed => cases settled
  | inside recognized executed => exact absurd idle (busy recognized executed)
  | passed recognized goes rest =>
    cases goes with
    | done executed => exact absurd idle (busy recognized executed)
    | replayed executed => exact absurd idle (busy recognized executed)
    | behind executed ended => exact absurd idle (busy recognized executed)

/-- Settling one source shows what its last executed line requests, if that holds of the sources
that it includes. -/
theorem LinesSettle.shows {o : Settled}
    (run : LinesSettle resources settings load enter lines f s o)
    (hidle : ∀ g s, (enter g s).result = .ok true → inside g s = [] → g.replayRequested = false →
      (enter g s).state.1.innermost.replayRequested = false)
    (henter : ∀ g s level x, (enter g s).result = .ok true → g.replayRequested = false →
      (inside g s).getLast? = some (level, x) → (enter g s).state.1.Shows level x)
    (settled : o.result = .ok true)
    (last : (executedLines resources settings load enter inside lines f s).getLast? =
      some (level, x)) : o.state.1.Shows level x := by
  induction run with
  | ended => cases settled
  | ordinary other =>
    rw [executedLines, other, if_neg Bool.false_ne_true] at last
    cases last
  | failed => cases settled
  | @inside line ahead f g s t u c events inner result recognized executed entered unfinished =>
    obtain ⟨builtin, of, front⟩ := executedLines_cons enter inside recognized executed
    obtain ⟨-, fresh⟩ := of.entered
    obtain rfl : result = .ok true := settled
    simp only [entered, List.append_nil] at front
    -- The last line stands in the included source, unless that executes none.
    have ready : (enter g t).result = .ok true := by rw [entered]
    have quiet := hidle g t ready
    have shows := fun n => henter g t n x ready fresh
    rw [entered] at quiet shows
    rw [front] at last
    rcases getLast?_append_cases last with ended | ⟨idle, here⟩
    · obtain ⟨n, rfl, within⟩ := getLast?_deeper ended
      exact (shows n within).inward
    · obtain ⟨rfl, rfl⟩ := Prod.mk.inj (Option.some.inj here)
      have silent := of.requestsReplay_iff.not.mpr (by simp)
      refine ⟨iff_of_false ?_ fun h => silent h.1, fun h => absurd h silent⟩
      rw [Chain.innermost_cons]
      exact Bool.eq_false_iff.mp (quiet (List.map_eq_nil_iff.mp idle) fresh)
  | @passed line ahead f f' s t o events recognized goes rest ih =>
    have still : executedLines resources settings load enter inside ahead f' t = [] →
        o.state.1 = ⟨f', []⟩ := rest.idle settled
    rw [Outcome.state_after]
    cases goes with
    | done executed =>
      obtain ⟨builtin, of, front⟩ := executedLines_cons enter inside recognized executed
      rw [front] at last
      rcases getLast?_append_cases last with later | ⟨idle, here⟩
      · exact ih settled later
      · obtain ⟨rfl, rfl⟩ := Prod.mk.inj (Option.some.inj here)
        rw [still idle]
        exact .here of (iff_of_false Bool.false_ne_true (by simp))
    | replayed executed =>
      obtain ⟨builtin, of, front⟩ := executedLines_cons enter inside recognized executed
      rw [front] at last
      rcases getLast?_append_cases last with later | ⟨idle, here⟩
      · exact ih settled later
      · obtain ⟨rfl, rfl⟩ := Prod.mk.inj (Option.some.inj here)
        rw [still idle]
        exact .here of (iff_of_true rfl rfl)
    | behind executed ended =>
      obtain ⟨builtin, of, front⟩ := executedLines_cons enter inside recognized executed
      simp only [ended] at front
      rw [front] at last
      rcases getLast?_append_cases last with later | ⟨idle, here⟩
      · rcases getLast?_append_cases later with later | ⟨idle, finished⟩
        · exact ih settled later
        · obtain ⟨n, rfl, -⟩ := getLast?_deeper finished
          rw [still idle]
          exact .outside rfl n x
      · obtain ⟨rfl, rfl⟩ := Prod.mk.inj (Option.some.inj here)
        rw [still (List.append_eq_nil_iff.mp idle).2]
        exact .here of (iff_of_false Bool.false_ne_true (by simp))

end

variable {f : Frame} {included : List Frame} {s : Store}

/-! ### Where requests stand -/

def Frame.AtPrint (settings : Settings) (f : Frame) : Prop :=
  ∃ line expression, f.cursor.current? = some line ∧
    settings.kind.builtin? (withoutEcho line.text) = some (.print expression)

/-- The source requests nothing, and the line taken last from it, if any, includes. -/
structure Frame.Waits (settings : Settings) (f : Frame) : Prop where
  quiet : f.replayRequested = false
  including : ∀ line, f.cursor.current? = some line →
    ∃ reference, settings.kind.builtin? (withoutEcho line.text) = some (.includeSource reference)

/-- The sources around the innermost one wait for it, and only a line that prints has requested
anything there. -/
def Attributed (settings : Settings) : Frame → List Frame → Prop
  | f, [] => f.replayRequested → f.AtPrint settings
  | f, g :: rest => f.Waits settings ∧ Attributed settings g rest

theorem Frame.replayRequested_started (quiet : f.replayRequested = false) :
    f.started.replayRequested = false := by
  rw [started]
  split
  · rfl
  · exact quiet

/-- A source that requests nothing may be read next. -/
theorem attributed_quiet (quiet : f.replayRequested = false) : Attributed settings f [] :=
  fun requested => absurd (quiet.symm.trans requested) Bool.false_ne_true

theorem LinesSettle.attributed {enter : Frame → Store → Settled}
    (henter : ∀ g s, g.cursor.Sound → g.replayRequested = false →
      Attributed settings (enter g s).state.1.frame (enter g s).state.1.included)
    {lines : List Line} {o : Settled}
    (run : LinesSettle resources settings load enter lines f s o)
    (hahead : f.cursor.ahead = lines) (sound : f.cursor.Sound) (h : Attributed settings f []) :
    Attributed settings o.state.1.frame o.state.1.included := by
  induction run with
  | ended => exact h
  | ordinary => exact h
  | failed => exact attributed_quiet rfl
  | @inside line ahead f g s t u c events inner result recognized executed entered unfinished =>
    obtain ⟨builtin, -, form, of⟩ := executed_of_ok executed
    obtain ⟨⟨reference, rfl⟩, fresh⟩ := of.entered
    obtain ⟨opened, -⟩ : Effect.Sound (.entered g) := (sound_executeLine _ line s).value executed
    have inside := henter g t opened fresh
    rw [entered] at inside
    refine ⟨⟨rfl, fun taken hcurrent => ⟨reference, ?_⟩⟩, inside⟩
    obtain rfl : line = taken :=
      Option.some.inj ((sound.current?_moved hahead).symm.trans hcurrent)
    exact form
  | @passed line ahead f f' s t o events recognized goes rest ih =>
    refine ih goes.ahead (goes.sound hahead sound) ?_
    cases goes with
    | done => exact attributed_quiet rfl
    | replayed executed =>
      obtain ⟨builtin, -, form, of⟩ := executed_of_ok executed
      obtain ⟨expression, rfl, -⟩ := of.requestsReplay_iff.mpr rfl
      exact fun _ => ⟨line, expression, sound.current?_moved hahead, form⟩
    | behind => exact attributed_quiet rfl

/-- A source behind a line that includes requests nothing. -/
theorem Attributed.quiet {line : Line} {reference : Text} (h : Attributed settings f included)
    (taken : f.cursor.current? = some line)
    (form : settings.kind.builtin? (withoutEcho line.text) = some (.includeSource reference)) :
    f.replayRequested = false := by
  cases included with
  | cons g rest => exact h.1.quiet
  | nil =>
    by_contra requested
    obtain ⟨line', expression, taken', form'⟩ := h (by simpa using requested)
    obtain rfl : line = line' := Option.some.inj (taken.symm.trans taken')
    cases form.symm.trans form'

theorem attributed_started (h : Attributed settings f []) : Attributed settings f.started [] := by
  rw [Frame.started]
  split
  · exact attributed_quiet rfl
  · exact h

theorem attributed_settle {depth : Nat} (sound : Chain.Sound ⟨f, included⟩)
    (h : Attributed settings f included) :
    let after := (settle resources depth settings f included s).state.1
    Attributed settings after.frame after.included := by
  revert sound h
  refine settle_induction (motive := fun _ settings f included _ o => Chain.Sound ⟨f, included⟩ →
    Attributed settings f included →
      Attributed settings o.state.1.frame o.state.1.included)
    ?tooDeep ?own ?finished ?within depth settings f included s
  case tooDeep => exact fun _ _ _ _ _ h => h
  case own =>
    intro depth settings f s o ih run sound h
    refine run.attributed (fun g s opened fresh => ?_) rfl ?_ (attributed_started h)
    · exact ih settings g [] s (Chain.sound_single.mpr opened) (attributed_quiet fresh)
    · rw [Frame.started_cursor]
      exact (Chain.sound_single.mp sound).started
  case finished =>
    intro depth settings f g rest s c t events settled inner own sound h
    exact own (Chain.sound_single.mpr (Chain.sound_cons.mp sound).1) (attributed_quiet h.1.quiet)
  case within =>
    intro depth settings f g rest s result c t events settled unfinished inner sound h
    exact ⟨h.1, inner (Chain.sound_cons.mp sound).2 h.2⟩

theorem attributed_takeNext (h : Attributed settings f included) :
    let after := (takeNext settings f included s).state.1
    Attributed settings after.frame after.included := by
  induction included generalizing f with
  | nil =>
    cases hahead : f.cursor.ahead with
    | nil =>
      simp only [takeNext, hahead]
      exact h
    | cons line ahead =>
      simp only [takeNext, hahead]
      exact attributed_quiet rfl
  | cons g rest ih =>
    obtain ⟨waits, inner⟩ := h
    exact ⟨⟨rfl, waits.including⟩, ih inner⟩

/-! ### What settling shows -/

theorem idle_settle {depth : Nat}
    (settled : (settle resources depth settings f [] s).result = .ok true)
    (idle : executedAt resources depth settings f [] s = []) :
    (settle resources depth settings f [] s).state.1 = ⟨f.started, []⟩ := by
  cases depth with
  | zero => cases settled
  | succ depth => exact (settle_single resources depth settings f s).idle settled idle

/-- Settling shows what the line executed last requests. -/
theorem shows_settle {depth level : Nat} {x : ExecutedLine}
    (attributed : Attributed settings f included)
    (settled : (settle resources depth settings f included s).result = .ok true)
    (last : (executedAt resources depth settings f included s).getLast? = some (level, x)) :
    (settle resources depth settings f included s).state.1.Shows level x := by
  induction depth generalizing f included s level x with
  | zero => cases settled
  | succ depth ih =>
    have own {s : Store} {level : Nat} {x : ExecutedLine}
        (settled : (settle resources (depth + 1) settings f [] s).result = .ok true)
        (last : (executedAt resources (depth + 1) settings f [] s).getLast? = some (level, x)) :
        (settle resources (depth + 1) settings f [] s).state.1.Shows level x := by
      refine (settle_single resources depth settings f s).shows (fun g s ready idle fresh => ?_)
        (fun g s level x ready fresh => ?_) settled last
      · rw [idle_settle ready idle]
        exact g.replayRequested_started fresh
      · exact ih (fun requested => absurd (fresh.symm.trans requested) Bool.false_ne_true) ready
    cases included with
    | nil => exact own settled last
    | cons g rest =>
      obtain ⟨waits, inner⟩ := attributed
      have shows := @ih g rest s
      rw [settle] at settled ⊢
      rw [executedAt] at last
      generalize settle resources depth settings g rest s = o at settled last shows ⊢
      obtain ⟨e | _ | _, ⟨c, s'⟩, events⟩ := o
      · cases settled
      · rcases getLast?_append_cases last with later | ⟨idle, ended⟩
        · exact own settled later
        · obtain ⟨n, rfl, -⟩ := getLast?_deeper ended
          have still : (settle resources (depth + 1) settings f [] s').state.1 = ⟨f.started, []⟩ :=
            idle_settle settled idle
          have outside := Chain.Shows.outside (f.replayRequested_started waits.quiet) n x
          rw [← still] at outside
          exact outside
      · obtain ⟨n, rfl, within⟩ := getLast?_deeper (by simpa using last)
        exact (shows inner rfl within).inward

end

namespace Scanner

/-- The lines that a scanner executes, in order, before it says whether an ordinary line follows,
each with the number of sources that are read around its own. -/
def executedLines (resources : Resources) (sc : Scanner) (s : Store) : List (Nat × ExecutedLine) :=
  executedAt resources resources.depthBound sc.settings sc.chain.frame sc.chain.included s

/-- In every source, requests stand where their lines do. -/
def Attributed (sc : Scanner) : Prop :=
  CommandScript.Attributed sc.settings sc.chain.frame sc.chain.included

/-- Requests stand where their lines do in every scanner, whatever is done with it. -/
theorem lasting_attributed (resources : Resources) : Lasting resources Attributed where
  unopened settings := attributed_quiet rfl
  opened settings name raw := attributed_quiet rfl
  rewound {sc} h := by
    obtain ⟨settings, f, included⟩ := sc
    cases included with
    | nil => exact attributed_quiet rfl
    | cons g rest =>
      refine ⟨⟨rfl, fun line taken => ?_⟩, h.2⟩
      cases taken
  settled sound h s := attributed_settle sound h
  taken h s := attributed_takeNext h
  executed {sc line builtin} h taken form load place s := by
    refine (effect_execute place builtin s).mono (fun effect t of => ?_) fun _ _ _ => trivial
    cases effect with
    | done => exact h
    | replayRequested =>
      obtain ⟨expression, rfl, -⟩ := of.requestsReplay_iff.mpr rfl
      obtain ⟨settings, f, included⟩ := sc
      cases included with
      | nil => exact fun _ => ⟨line, expression, taken, form⟩
      | cons g rest =>
        obtain ⟨reference, inclusion⟩ := h.1.including line taken
        cases form.symm.trans inclusion
    | entered g =>
      obtain ⟨⟨reference, rfl⟩, fresh⟩ := of.entered
      refine ⟨⟨h.quiet taken form, fun line' taken' => ⟨reference, ?_⟩⟩, attributed_quiet fresh⟩
      obtain rfl : line = line' := Option.some.inj (taken.symm.trans taken')
      exact form

variable {resources : Resources} {sc sc' : Scanner} {s s' : Store} {events : List Event}

theorem shows_hasNext {level : Nat} {x : ExecutedLine} (attributed : sc.Attributed)
    (asked : hasNext resources (sc, s) = ⟨.ok true, (sc', s'), events⟩)
    (last : (sc.executedLines resources s).getLast? = some (level, x)) :
    sc'.chain.Shows level x := by
  have shows := @shows_settle resources sc.settings sc.chain.frame sc.chain.included s
    resources.depthBound level x attributed
  simp only [hasNext] at asked
  rw [executedLines] at last
  generalize settle resources resources.depthBound sc.settings sc.chain.frame sc.chain.included s =
    o at asked shows
  obtain ⟨result, ⟨c, t⟩, more⟩ := o
  cases asked
  exact shows rfl last

/-- Where an ordinary line follows, to ask again leaves the scanner as it is. -/
theorem rests_hasNext (asked : hasNext resources (sc, s) = ⟨.ok true, (sc', s'), events⟩)
    (t : Store) : Leaves (hasNext resources) (·.1 = sc') (sc', t) :=
  leaves_iff.mpr (by rw [hasNext_still asked t])

end Scanner

namespace Session

/-- **Replay requests.** Whatever has happened to walkers that share a store, let a scanner say
that an ordinary line follows, and let some line be the last one that it executes for that, among
the lines of the sources that it includes. Then it shows a request exactly if this line prints a
dash and stands in the source that is read now, and not in one that has come to its end. Whatever
is asked of the scanner afterwards, and whatever happens to others, it shows the same until
another line is taken or the scanner is told to begin anew or to execute a line again. -/
theorem replay_request_shown_iff {resources : Resources} {s₀ s' : Store} {turns : List Turn}
    {i level : Nat} {sc sc' : Scanner} {events : List Event} {x : ExecutedLine} :
    let se := (history resources turns { store := s₀ }).2
    se.view i = some (.scanner sc) →
    Scanner.hasNext resources (sc, se.store) = ⟨.ok true, (sc', s'), events⟩ →
    (sc.executedLines resources se.store).getLast? = some (level, x) →
      sc.Performs resources se.store .hasNext x ∧
      (sc'.isReplayRequested ↔ x.RequestsReplay ∧ level = sc'.nesting) ∧
      (x.RequestsReplay → sc'.nesting ≤ level) ∧
      (x.builtin = .print ['-'] → x.RequestsReplay) ∧
      ∀ later, (∀ turn ∈ later, ∀ op, turn.Does i op → op.Asks) →
        (history resources (.step (.perform i .hasNext) :: later) se).2.view i =
          some (.scanner sc') := by
  intro se there asked last
  obtain ⟨-, attributed⟩ := (Scanner.lasting_attributed resources).invariant.reached there
  have separate : se.Separate := separate_history resources (separate_empty s₀) turns
  have shows : sc'.chain.Shows level x := Scanner.shows_hasNext attributed asked last
  refine ⟨?_, shows.shown, shows.within, x.requestsReplay_dash, fun later asks => ?_⟩
  · exact .settling (by simp) (executes_of_mem (List.mem_of_getLast? last))
  · have became := (acts_onWalker separate there (Run.perform resources .hasNext)).became
    have stands :
        (Run.perform resources .hasNext (.scanner sc, se.store)).state.1 = .scanner sc' := by
      simp [Run.perform, Act.bind_apply, Run.byFamily, asked]
    have rests (w : Walker) (s : Store) (op : Operation) (asks : op.Asks) :
        w = .scanner sc' → (Run.perform resources op (w, s)).state.1 = .scanner sc' := by
      rintro rfl
      exact leaves_iff.mp (Run.rests_perform sc' s asks fun _ => Scanner.rests_hasNext asked s)
    rw [stands] at became
    obtain ⟨w, view, still⟩ := view_history (fun w w' => w = .scanner sc' → w' = .scanner sc')
      (fun _ => id) (fun first second => second ∘ first) Operation.Asks rests became.separate
      became.view asks
    exact view.trans (congrArg some (still rfl))

/-- The line that a scanner of a session executes last before it says that a line follows, what it
shows then, and how many sources it is reading inside the outermost one. -/
def shownAfter (resources : Resources) (se : Session) (i : Nat) :
    Option (Nat × Builtin × Bool × Nat) :=
  match se.view i with
  | some (.scanner sc) =>
    match Scanner.hasNext resources (sc, se.store) with
    | ⟨.ok true, (sc', _), _⟩ =>
      (sc.executedLines resources se.store).getLast?.map fun (level, x) =>
        (level, x.builtin, sc'.isReplayRequested, sc'.nesting)
    | _ => none
  | _ => none

theorem exists_of_shownAfter {resources : Resources} {se : Session} {i level nesting : Nat}
    {builtin : Builtin} {shown : Bool}
    (h : shownAfter resources se i = some (level, builtin, shown, nesting)) :
    ∃ sc sc' s' events x, se.view i = some (.scanner sc) ∧
      Scanner.hasNext resources (sc, se.store) = ⟨.ok true, (sc', s'), events⟩ ∧
      (sc.executedLines resources se.store).getLast? = some (level, x) ∧ x.builtin = builtin ∧
      sc'.isReplayRequested = shown ∧ sc'.nesting = nesting := by
  rw [shownAfter] at h
  split at h
  · rename_i sc there
    split at h
    · rename_i sc' s' events asked
      obtain ⟨⟨n, x⟩, last, same⟩ := Option.map_eq_some_iff.mp h
      simp only [Prod.mk.injEq] at same
      obtain ⟨rfl, form, seen, deep⟩ := same
      exact ⟨sc, sc', s', events, x, there, asked, last, form, seen, deep⟩
    · cases h
  · cases h

def requesting : Resources where
  objects := .ofList [("ends".toList, "print -".toList), ("goes".toList, "print -\nx".toList)]

def including (name : Text) : List Turn :=
  [.make (.scanner .basic {} false) {} false,
    .step (.perform 0 (.openSource (.text ("include !" ++ name ++ "\nafter")) none none))]

/-- Inside a source that goes on, the request is shown, and it is still shown after questions. -/
theorem replay_request_shown_iff_inside :
    let se := (history requesting (including "goes") {}).2
    ∃ sc sc' s' events x, se.view 0 = some (.scanner sc) ∧
      Scanner.hasNext requesting (sc, se.store) = ⟨.ok true, (sc', s'), events⟩ ∧
      (sc.executedLines requesting se.store).getLast? = some (1, x) ∧
      x.builtin = .print ['-'] ∧ sc'.isReplayRequested = true ∧
      (history requesting [.step (.perform 0 .hasNext), .step (.perform 0 .current),
        .step (.perform 0 .hasNext)] se).2.view 0 = some (.scanner sc') := by
  intro se
  have seen : shownAfter requesting se 0 = some (1, .print ['-'], true, 1) := by decide +kernel
  obtain ⟨sc, sc', s', events, x, there, asked, last, form, -, deep⟩ := exists_of_shownAfter seen
  obtain ⟨-, shown, -, dash, stays⟩ := replay_request_shown_iff there asked last
  refine ⟨sc, sc', s', events, x, there, asked, last, form, shown.mpr ⟨dash form, deep.symm⟩, ?_⟩
  refine stays _ fun turn mem op does => ?_
  subst does
  simp only [List.mem_cons, Turn.step.injEq, Step.perform.injEq, List.not_mem_nil, or_false,
    true_and] at mem
  rcases mem with rfl | rfl
  · trivial
  · trivial

/-- Behind a source that ends with the request, a line follows and no request is shown. -/
theorem replay_request_lost :
    let se := (history requesting (including "ends") {}).2
    ∃ sc sc' s' events x, se.view 0 = some (.scanner sc) ∧
      Scanner.hasNext requesting (sc, se.store) = ⟨.ok true, (sc', s'), events⟩ ∧
      (sc.executedLines requesting se.store).getLast? = some (1, x) ∧
      x.builtin = .print ['-'] ∧ sc'.isReplayRequested = false ∧ sc'.nesting = 0 := by
  intro se
  have seen : shownAfter requesting se 0 = some (1, .print ['-'], false, 0) := by decide +kernel
  exact exists_of_shownAfter seen

end Session

end CommandScript
