import CommandScript.Proofs.Duplication
import CommandScript.Proofs.Expansion

/-!
# Where a missing source is reported

A line that includes a missing source fails in the source that holds it, and the error
says where that source stands. The sources around it, whose lines led there, are named in
the state of the scanner only. So the error tells the state of the scanner exactly where
nothing is included.
-/

namespace CommandScript

/-! ### The state of a chain -/

namespace Chain

theorem innermost_cons (f g : Frame) (rest : List Frame) :
    Chain.innermost ⟨f, g :: rest⟩ = Chain.innermost ⟨g, rest⟩ := List.getLastD_cons ..

/-- Inside an included source the place of the outer one comes first. -/
theorem state_cons (f g : Frame) (rest : List Frame) :
    Chain.state ⟨f, g :: rest⟩ =
      f.cursor.state ++ " .. --> .. ".toList ++ Chain.state ⟨g, rest⟩ := rfl

theorem length_innermost_le (f : Frame) (included : List Frame) :
    (Chain.innermost ⟨f, included⟩).cursor.state.length ≤ (Chain.state ⟨f, included⟩).length := by
  induction included generalizing f with
  | nil => exact Nat.le_refl _
  | cons g rest ih =>
    have inner := ih g
    rw [innermost_cons, state_cons, List.length_append]
    omega

/-- The state of a chain is the state of its innermost source only where that is the
outermost one too. -/
theorem state_eq_innermost_iff (c : Chain) :
    c.state = c.innermost.cursor.state ↔ c.included = [] := by
  obtain ⟨f, included⟩ := c
  constructor
  · intro same
    cases included with
    | nil => rfl
    | cons g rest =>
      have inner := length_innermost_le g rest
      have between : 0 < " .. --> .. ".toList.length := by decide
      have lengths := congrArg List.length same
      rw [innermost_cons, state_cons, List.length_append, List.length_append] at lengths
      omega
  · rintro (rfl : included = [])
    rfl

end Chain

/-! ### The line that failed -/

section

open Act

variable {resources : Resources} {settings : Settings} {load : Text → Act Store Table}

/-- The line that the innermost source took last was executed there, which came to the
error and left the store as it is. -/
def FailsAt (resources : Resources) (settings : Settings) (e : Error) (c : Chain) (s : Store) :
    Prop :=
  ∃ load line t made, c.innermost.cursor.current? = some line ∧
    executeLine resources settings load c.innermost.cursor.state line t = ⟨.error e, s, made⟩

theorem failsAt_cons {e : Error} {f g : Frame} {rest : List Frame} {s : Store}
    (h : FailsAt resources settings e ⟨g, rest⟩ s) :
    FailsAt resources settings e ⟨f, g :: rest⟩ s := by
  rw [FailsAt, Chain.innermost_cons]
  exact h

/-- Settling one source fails at the line that it took last, or inside what that line
includes. -/
theorem LinesSettle.failsAt {enter : Frame → Store → Settled} {e : Error}
    (henter : ∀ g s, g.cursor.Sound → (enter g s).result = .error e →
      FailsAt resources settings e (enter g s).state.1 (enter g s).state.2)
    {lines : List Line} {f : Frame} {s : Store} {o : Settled}
    (run : LinesSettle resources settings load enter lines f s o) (hahead : f.cursor.ahead = lines)
    (sound : f.cursor.Sound) (h : o.result = .error e) :
    FailsAt resources settings e o.state.1 o.state.2 := by
  induction run with
  | ended => cases h
  | ordinary => cases h
  | @failed line ahead f s t e events recognized executed =>
    cases h
    exact ⟨load, line, s, events, sound.current?_moved hahead, executed⟩
  | @inside line ahead f g s t u c events inner result recognized executed entered unfinished =>
    obtain ⟨hg, -⟩ : Effect.Sound (.entered g) := (sound_executeLine _ line s).value executed
    have inside := henter g t hg
    rw [entered] at inside
    exact failsAt_cons (inside h)
  | passed recognized goes rest ih => exact ih goes.ahead (goes.sound hahead sound) h

/-- Settling fails at a line, unless it nests too deep. -/
theorem failsAt_settle {e : Error} (he : e ≠ .tooDeep) {depth : Nat} {f : Frame}
    {included : List Frame} {s : Store} (sound : Chain.Sound ⟨f, included⟩)
    (h : (settle resources depth settings f included s).result = .error e) :
    FailsAt resources settings e (settle resources depth settings f included s).state.1
      (settle resources depth settings f included s).state.2 := by
  revert sound h
  refine settle_induction (motive := fun _ settings f included _ o =>
    Chain.Sound ⟨f, included⟩ → o.result = .error e →
      FailsAt resources settings e o.state.1 o.state.2)
    ?tooDeep ?own ?finished ?within depth settings f included s
  case tooDeep => exact fun _ _ _ _ _ h => absurd (Except.error.inj h).symm he
  case own =>
    intro depth settings f s o ih run sound h
    refine run.failsAt (fun g s hg => ih settings g [] s (Chain.sound_single.mpr hg)) rfl ?_ h
    rw [Frame.started_cursor]
    exact (Chain.sound_single.mp sound).started
  case finished =>
    intro depth settings f g rest s c t events settled inner own sound h
    exact own (Chain.sound_single.mpr (Chain.sound_cons.mp sound).1) h
  case within =>
    intro depth settings f g rest s result c t events settled unfinished inner sound h
    exact failsAt_cons (inner (Chain.sound_cons.mp sound).2 h)

/-- With the store as it is, what is written names a source that must be there and is
missing. -/
def NamesMissing (resources : Resources) (settings : Settings) (s : Store)
    (written reference : Text) : Prop :=
  ∃ expanded missing state, settings.expander.expand s.registry written = .ok expanded ∧
    Text.splitOptional expanded = (false, reference) ∧
    (Source.text reference).read resources = .error (.notFound missing state)

/-- Surfacing a line fails on an unknown reference only. -/
theorem surface_error (place : Text) (line : Line) (s : Store) :
    Wp (surface settings place line) (fun _ _ => True)
      (fun e _ => ∃ undefined, e = .undefinedReference undefined) s := by
  rw [wp_surface]
  split
  · trivial
  · exact Expander.expand_error s.registry ‹_›

theorem takeNext_error {f : Frame} {included : List Frame} {s : Store} {e : Error}
    (h : (takeNext settings f included s).result = .error e) :
    ∃ undefined, e = .undefinedReference undefined := by
  induction included generalizing f with
  | nil =>
    cases hahead : f.cursor.ahead with
    | nil => simp [takeNext, hahead] at h
    | cons line ahead =>
      have surfaced := @surface_error settings (f.cursor.moved ahead).state line s
      simp only [takeNext, hahead, Frame.cursor_moved] at h
      rcases hsurf : surface settings (f.cursor.moved ahead).state line s with
        ⟨e' | text, t, events⟩
      · rw [hsurf] at h
        obtain rfl : e' = e := by simpa [Except.map] using h
        exact surfaced.fault hsurf
      · simp [hsurf, Except.map] at h
  | cons g rest ih => exact ih h

/-- A line that includes a source and finds nothing has named a missing one, and reports
the place at which it is executed. -/
theorem reports_executeLine {line : Line} {written : Text}
    (form : settings.kind.builtin? (withoutEcho line.text) = some (.includeSource written))
    (place : Text) (s : Store) :
    Wp (executeLine resources settings load place line) (fun _ _ => True)
      (fun e t => ∀ reference reported, e = .notFound reference reported →
        NamesMissing resources settings t written reference ∧ reported = some place) s := by
  rw [executeLine, Wp.bind_iff, Wp.onlyIf_debug_iff, Wp.bind_iff, wp_surface]
  split
  · rw [form]
    simp only [execute, wp_executeInclude]
    split
    · obtain ⟨undefined, rfl⟩ := Expander.expand_error s.registry ‹_›
      rintro reference reported ⟨⟩
    · rename_i expanded hexpanded
      split
      · trivial
      · rename_i missing state hread
        split
        · trivial
        · rename_i hmandatory
          rintro reference reported ⟨⟩
          have unmarked : (Text.splitOptional expanded).1 = false := by simpa using hmandatory
          exact ⟨⟨expanded, missing, state, hexpanded, Prod.ext unmarked rfl, hread⟩, rfl⟩
      · rename_i e hother hread
        rintro reference reported rfl
        exact absurd rfl (hother reference reported)
  · obtain ⟨undefined, rfl⟩ := Expander.expand_error s.registry ‹_›
    rintro reference reported ⟨⟩

/-- Where a chain fails for want of a source that its current line includes, that line has
named it, and the error reports the innermost source only. -/
theorem FailsAt.reports {c : Chain} {s : Store} {reference : Text} {reported : Option Text}
    (h : FailsAt resources settings (.notFound reference reported) c s) {line : Line}
    {written : Text} (hline : c.innermost.cursor.current? = some line)
    (form : settings.kind.builtin? (withoutEcho line.text) = some (.includeSource written)) :
    NamesMissing resources settings s written reference ∧
      reported = some c.innermost.cursor.state := by
  obtain ⟨load, taken, t, made, htaken, hexec⟩ := h
  obtain rfl : taken = line := Option.some.inj (htaken.symm.trans hline)
  exact (reports_executeLine form _ t).fault hexec reference reported rfl

end

/-! ### Scanners in a session -/

namespace Scanner

variable {resources : Resources} {sc : Scanner} {s : Store} {reference : Text}
variable {reported : Option Text}

/-- The scanner has failed for want of a source, at the line that its innermost source took
last. -/
def Wants (resources : Resources) (reference : Text) (reported : Option Text)
    (after : Scanner × Store) : Prop :=
  FailsAt resources after.1.settings (.notFound reference reported) after.1.chain after.2

theorem wants_hasNext (sound : sc.chain.Sound)
    (h : (hasNext resources (sc, s)).result = .error (.notFound reference reported)) :
    Wants resources reference reported (hasNext resources (sc, s)).state :=
  failsAt_settle (by rintro ⟨⟩) sound h

theorem wants_next? (sound : sc.chain.Sound)
    (h : (next? resources (sc, s)).result = .error (.notFound reference reported)) :
    Wants resources reference reported (next? resources (sc, s)).state := by
  have failed (h : (settle resources resources.depthBound sc.settings sc.chain.frame
      sc.chain.included s).result = .error (.notFound reference reported)) :=
    failsAt_settle (by rintro ⟨⟩) sound h
  simp only [next?, Wants, Outcome.mapState, nextLine_eq] at h ⊢
  generalize settle resources resources.depthBound sc.settings sc.chain.frame sc.chain.included s =
    o at failed h ⊢
  obtain ⟨_ | _ | _, ⟨c, s'⟩, events⟩ := o
  · cases h
    exact failed rfl
  · cases h
  · obtain ⟨undefined, same⟩ := takeNext_error h
    cases same

theorem wants_next (sound : sc.chain.Sound)
    (h : (next resources (sc, s)).result = .error (.notFound reference reported)) :
    Wants resources reference reported (next resources (sc, s)).state := by
  have failed := @wants_next? resources sc s reference reported sound
  simp only [next, Act.bind_apply] at h ⊢
  generalize next? resources (sc, s) = o at failed h ⊢
  obtain ⟨e | _ | text, after, events⟩ := o
  · cases h
    exact failed rfl
  · cases h
  · cases h

/-- An operation fails as the scanner does by itself, and leaves what that leaves. -/
theorem byFamily_error {α : Type} {r : Act Reader α} {c : Act Classifier α} {x : Scan α}
    {answer : α → Answer} {e : Error}
    (h : ((do return answer (← Run.byFamily r c x) : Run Answer) (.scanner sc, s)).result =
      .error e) :
    (x (sc, s)).result = .error e ∧
      ((do return answer (← Run.byFamily r c x) : Run Answer) (.scanner sc, s)).state =
        (.scanner (x (sc, s)).state.1, (x (sc, s)).state.2) := by
  simp only [Run.byFamily, Act.bind_apply] at h ⊢
  generalize x (sc, s) = o at h ⊢
  obtain ⟨_ | a, after, events⟩ := o
  · cases h
    exact ⟨rfl, rfl⟩
  · cases h

/-- Whichever way a next line is asked for. -/
theorem wants_perform (sound : sc.chain.Sound) {op : Operation}
    (hop : op ∈ [Operation.hasNext, .next, .next?])
    (h : (Run.perform resources op (.scanner sc, s)).result =
      .error (.notFound reference reported)) :
    ∃ after : Scanner × Store, Wants resources reference reported after ∧
      (Run.perform resources op (.scanner sc, s)).state = (.scanner after.1, after.2) := by
  simp only [List.mem_cons, List.not_mem_nil, or_false] at hop
  rcases hop with rfl | rfl | rfl
  · obtain ⟨herror, hstate⟩ := byFamily_error h
    exact ⟨_, wants_hasNext sound herror, hstate⟩
  · obtain ⟨herror, hstate⟩ := byFamily_error h
    exact ⟨_, wants_next sound herror, hstate⟩
  · obtain ⟨herror, hstate⟩ := byFamily_error h
    exact ⟨_, wants_next? sound herror, hstate⟩

end Scanner

namespace Session

/-- **A missing source is reported from where it was included.** A session begins with a
scanner that has opened nothing, and anything may have happened since. A scanner of it is
asked for a next line and fails for want of a source, at a line that includes one. Then the
error names the missing source, which that line says must be there, and reports where the
innermost source stands. This is the state of the scanner exactly if nothing is included
in anything at the moment. -/
theorem missing_source_reported (resources : Resources) (kind : Kind) (expander : Expander)
    (replays : Bool) (options : Options) (s : Store) (before : List Step) (i : Nat)
    (op : Operation) :
    let se := (run resources before (start (.scanner kind expander replays) options s)).2
    let o := step resources (.perform i op) se
    op ∈ [Operation.hasNext, .next, .next?] → ∀ reference reported,
      o.result = .error (.notFound reference reported) →
      ∃ sc, o.state.view i = some (.scanner sc) ∧ ∀ line written,
        sc.chain.innermost.cursor.current? = some line →
        sc.settings.kind.builtin? (withoutEcho line.text) = some (.includeSource written) →
          NamesMissing resources sc.settings o.state.store written reference ∧
            reported = some sc.chain.innermost.cursor.state ∧
            (reported = some sc.state ↔ sc.nesting = 0) := by
  intro se o hop reference reported herror
  have sound : Sound (.scanner kind expander replays) se :=
    (sound_start _ options s).run resources before
  cases hw : se.view i with
  | none =>
    have failed : o = ⟨.error (.defect "no such walker"), se, []⟩ := onWalker_none hw _
    rw [failed] at herror
    cases herror
  | some w =>
    obtain ⟨sc, rfl⟩ : ∃ sc, w = .scanner sc := by
      have family := sound.family hw
      cases w with
      | scanner sc => exact ⟨sc, rfl⟩
      | reader r => cases family
      | classifier c => cases family
    have acts : Acts se i (Run.perform resources op (.scanner sc, se.store)) o :=
      acts_onWalker sound.separate hw (Run.perform resources op)
    obtain ⟨after, wants, hstate⟩ :=
      Scanner.wants_perform (sound.sound hw) hop (acts.result.symm.trans herror)
    have view : o.state.view i = some (.scanner after.1) := by
      rw [acts.became.view, hstate]
    have store : o.state.store = after.2 := by
      rw [acts.store, hstate]
    refine ⟨after.1, view, fun line written hline form => ?_⟩
    obtain ⟨names, rfl⟩ := FailsAt.reports wants hline form
    refine ⟨store ▸ names, rfl, ?_⟩
    rw [Option.some.injEq, eq_comm, Scanner.state, Chain.state_eq_innermost_iff, Scanner.nesting,
      List.length_eq_zero_iff]

def leadingNowhere : Resources where
  objects := .ofList
    [("one".toList, "include !two".toList), ("two".toList, "first\ninclude @gone".toList)]

def beforeGone (t : Text) : Session :=
  (run leadingNowhere [.perform 0 (.openSource (.text t) none none), .perform 0 .next]
    (start (.scanner .script {} false) {} {})).2

def standing : Walker → Option (Nat × Option Line × Kind)
  | .scanner sc =>
    some (sc.nesting, sc.chain.innermost.cursor.current?, sc.settings.kind)
  | _ => none

/-- The file is missing two sources deep, and the innermost source alone is reported. -/
theorem missing_source_reported_deep :
    let o := step leadingNowhere (.perform 0 .next) (beforeGone "include !one")
    let reported : Text := "ConfigFile=[!two] @ line# 2 = [include @gone]"
    o.result = .error (.notFound "@gone" (some reported)) ∧
      ∃ sc, o.state.view 0 = some (.scanner sc) ∧ sc.nesting = 2 ∧
        NamesMissing leadingNowhere sc.settings o.state.store "@gone" "@gone" ∧
        reported = sc.chain.innermost.cursor.state ∧ reported ≠ sc.state := by
  intro o reported
  have failed : o.result = .error (.notFound "@gone" (some reported)) := by decide +kernel
  obtain ⟨sc, hview, reports⟩ := missing_source_reported leadingNowhere .script {} false {} {}
    [.perform 0 (.openSource (.text "include !one") none none), .perform 0 .next] 0 .next
    (by decide) _ _ failed
  have hview : o.state.view 0 = some (.scanner sc) := hview
  have seen : (o.state.view 0).bind standing =
      some (2, some ⟨2, "include @gone"⟩, .script) := by
    decide +kernel
  rw [hview] at seen
  simp only [Option.bind_some, standing, Option.some.injEq, Prod.mk.injEq] at seen
  obtain ⟨nested, current, kind⟩ := seen
  have form : sc.settings.kind.builtin? (withoutEcho "include @gone") =
      some (.includeSource "@gone") := by
    rw [kind]
    decide +kernel
  obtain ⟨names, inner, whole⟩ := reports _ _ current form
  have outer : sc.nesting ≠ 0 := by
    rw [nested]
    decide
  exact ⟨failed, sc, hview, nested, names, Option.some.inj inner,
    fun same => outer (whole.mp (congrArg some same))⟩

/-- Already one source deep the error leaves out the line that led there. -/
theorem missing_source_reported_without_chain :
    let o := step leadingNowhere (.perform 0 .hasNext) (beforeGone "include !two")
    o.result = .error (.notFound "@gone" (some "ConfigFile=[!two] @ line# 2 = [include @gone]")) ∧
      (o.state.view 0).map (·.state) =
        some ("ConfigFile=[include !two] @ line# 1 = [include !two] .. --> .. " ++
          "ConfigFile=[!two] @ line# 2 = [include @gone]").toList := by
  constructor
  · decide +kernel
  · decide +kernel

end Session

end CommandScript
