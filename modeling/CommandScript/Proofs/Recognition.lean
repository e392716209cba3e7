import CommandScript.Proofs.Reportable
import CommandScript.Proofs.StoredLines

/-!
# Recognition

A scanner looks at a line before it takes it, to see whether it is built-in, and again when it
executes the line that was taken. Both times the same forms are tried on the same text, so what is
recognized is executed, and no other line is. Hence the error for a line that was recognized and
does not match is never met: what fails is the work of some built-in line.
-/

namespace CommandScript

open Act

/-! ### Errors of the work itself -/

/-- No line that is executed fails for a fault of the scanner. -/
theorem Error.Arises.not_defect {resources : Resources} {executed : ExecutedLine → Prop}
    {e : Error} (h : e.Arises resources executed) : e.isDefect = false := by
  by_cases deep : e = .tooDeep
  · rw [deep]
    rfl
  · rcases h.of_script_or_refused deep with script | ⟨x, -, refused⟩
    · cases e <;> first | rfl | cases script
    · cases refused <;> rfl

namespace Scanner

variable {resources : Resources} {sc : Scanner} {s : Store}

/-- Taking the next line fails where settling does, or on an unknown reference. -/
theorem next?_not_defect (hkind : sc.settings.kind ≠ .eager) (s : Store) :
    Wp (next? resources) (fun _ _ => True) (fun e _ => e.isDefect = false) (sc, s) := by
  have settled := @arises_settle resources sc.settings hkind resources.depthBound sc.chain.frame
    sc.chain.included s
  rw [Wp, next?, nextLine_eq]
  generalize settle resources resources.depthBound sc.settings sc.chain.frame sc.chain.included s =
    o at settled ⊢
  obtain ⟨e | _ | _, ⟨c, t⟩, events⟩ := o
  · exact (settled rfl).not_defect
  · trivial
  · have refused := @takeNext_error sc.settings c.frame c.included t
    simp only [Outcome.mapState, Outcome.result_after]
    generalize (takeNext sc.settings c.frame c.included t).result = result at refused ⊢
    cases result with
    | error e =>
      obtain ⟨undefined, rfl⟩ := refused rfl
      rfl
    | ok text => trivial

theorem next_not_defect (hkind : sc.settings.kind ≠ .eager) (s : Store) :
    Wp (next resources) (fun _ _ => True) (fun e _ => e.isDefect = false) (sc, s) := by
  rw [next, Wp.bind_iff]
  refine (next?_not_defect hkind s).mono (fun text st _ => ?_) fun _ _ fault => fault
  cases text with
  | none => rfl
  | some text => trivial

theorem hasNext_not_defect (hkind : sc.settings.kind ≠ .eager) (s : Store) :
    Wp (hasNext resources) (fun _ _ => True) (fun e _ => e.isDefect = false) (sc, s) := by
  have settled := @arises_settle resources sc.settings hkind resources.depthBound sc.chain.frame
    sc.chain.included s
  simp only [Wp, hasNext, Outcome.mapState]
  generalize (settle resources resources.depthBound sc.settings sc.chain.frame sc.chain.included
    s).result = result at settled ⊢
  cases result with
  | error e => exact (settled rfl).not_defect
  | ok more => trivial

/-! ### Executing the current line -/

/-- What executing the current line comes to, where it is not blank. -/
theorem executeCurrent_result {line : Line} (taken : sc.chain.frame.cursor.current? = some line)
    (written : Text.allBlank (withoutEcho line.text) = false) (s : Store) :
    (executeCurrent resources (sc, s)).result =
      match sc.settings.kind.builtin? (withoutEcho line.text) with
      | none => .ok false
      | some builtin => (execute resources sc.settings (loadAt resources resources.depthBound
          sc.settings) sc.state builtin s).result.map fun _ => true := by
  simp only [executeCurrent, bind_apply, get_apply, taken, written, if_false, Bool.false_eq_true,
    Outcome.result_after]
  cases sc.settings.kind.builtin? (withoutEcho line.text) with
  | none => rfl
  | some builtin =>
    show ((onStore (execute resources sc.settings (loadAt resources resources.depthBound
      sc.settings) sc.state builtin) >>= fun effect =>
        modifyChain (applyEffect effect) >>= fun _ => pure true) (sc, s)).result = _
    rw [bind_apply, onStore, onSnd]
    dsimp only
    generalize execute resources sc.settings (loadAt resources resources.depthBound sc.settings)
      sc.state builtin s = o
    obtain ⟨e | effect, t, events⟩ := o <;> rfl

/-- What executing the current line fails with, is no fault of the scanner. -/
theorem execute_not_defect (builtin : Builtin) (s : Store) :
    Wp (execute resources sc.settings (loadAt resources resources.depthBound sc.settings) sc.state
      builtin) (fun _ _ => True) (fun e _ => e.isDefect = false) s := by
  have loads := @arises_readRecords resources sc.settings.forRecords
    (fun g s => settle resources resources.depthBound sc.settings.forRecords g [] s) _
    fun g s e => @arises_settle resources sc.settings.forRecords (by rintro ⟨⟩) _ g [] s e
  exact (arises_execute loads sc.state builtin s).mono (fun _ _ _ => trivial)
    fun _ _ arises => arises.not_defect

/-- What is recognized is executed: the scanner looks at its lines as it executes them. -/
structure Recognition (resources : Resources) (sc : Scanner) (s : Store) : Prop where
  /-- A current line is executed, with or without success, just where it is recognized. -/
  recognized : ∀ line, sc.chain.frame.cursor.current? = some line →
    (sc.isBuiltin (some line.text) = true ↔
      (executeCurrent resources (sc, s)).result = .ok true ∨
        ∃ e, (executeCurrent resources (sc, s)).result = .error e)
  /-- Of any other line it is said that nothing was executed. -/
  passed : ∀ line, sc.chain.frame.cursor.current? = some line →
    (sc.isBuiltin (some line.text) = false ↔
      (executeCurrent resources (sc, s)).result = .ok false)
  /-- What fails is the work of the built-in line. -/
  work : ∀ line e, sc.chain.frame.cursor.current? = some line →
    (executeCurrent resources (sc, s)).result = .error e → e.isDefect = false ∧
      ∃ builtin, sc.settings.kind.builtin? (withoutEcho line.text) = some builtin ∧
        (execute resources sc.settings (loadAt resources resources.depthBound sc.settings)
          sc.state builtin s).result = .error e
  /-- No line that is recognized on the way to the next one fails to match. -/
  settles : ∀ op ∈ [Operation.hasNext, .next, .next?], ∀ e,
    (Run.perform resources op (.scanner sc, s)).result = .error e → e.isDefect = false

theorem isBuiltin_eq_false_iff (hkind : sc.settings.kind ≠ .eager) {line : Line}
    (taken : sc.chain.frame.cursor.current? = some line)
    (written : Text.allBlank (withoutEcho line.text) = false) (s : Store) :
    sc.isBuiltin (some line.text) = false ↔
      (executeCurrent resources (sc, s)).result = .ok false := by
  have looked : sc.isBuiltin (some line.text) =
      (sc.settings.kind.builtin? (withoutEcho line.text)).isSome :=
    (Kind.isSome_builtin? hkind line.text).symm
  rw [looked, executeCurrent_result taken written]
  cases sc.settings.kind.builtin? (withoutEcho line.text) with
  | none => simp
  | some builtin =>
    dsimp only
    generalize (execute resources sc.settings (loadAt resources resources.depthBound sc.settings)
      sc.state builtin s).result = result
    cases result <;> simp [Except.map]

/-- A line that was executed belongs to a built-in, whose work it fails with. -/
theorem work_of_error {line : Line} (taken : sc.chain.frame.cursor.current? = some line)
    (written : Text.allBlank (withoutEcho line.text) = false) {e : Error}
    (failed : (executeCurrent resources (sc, s)).result = .error e) :
    ∃ builtin, sc.settings.kind.builtin? (withoutEcho line.text) = some builtin ∧
      (execute resources sc.settings (loadAt resources resources.depthBound sc.settings)
        sc.state builtin s).result = .error e := by
  rw [executeCurrent_result taken written] at failed
  cases form : sc.settings.kind.builtin? (withoutEcho line.text) with
  | none => simp [form] at failed
  | some builtin =>
    refine ⟨builtin, rfl, ?_⟩
    rw [form] at failed
    dsimp only at failed
    generalize (execute resources sc.settings (loadAt resources resources.depthBound sc.settings)
      sc.state builtin s).result = result at failed ⊢
    cases result with
    | error e' => simpa [Except.map] using failed
    | ok effect => simp [Except.map] at failed

/-- To ask for the next line is no fault of the scanner, in any of the three ways. -/
theorem perform_not_defect (hkind : sc.settings.kind ≠ .eager) {op : Operation}
    (asks : op ∈ [Operation.hasNext, .next, .next?]) (s : Store) :
    Wp (Run.perform resources op) (fun _ _ => True) (fun e _ => e.isDefect = false)
      (.scanner sc, s) := by
  simp only [List.mem_cons, List.not_mem_nil, or_false] at asks
  rcases asks with rfl | rfl | rfl
  · rw [Run.perform, Wp.bind_iff]
    exact hasNext_not_defect hkind s
  · rw [Run.perform, Wp.bind_iff]
    exact next_not_defect hkind s
  · rw [Run.perform, Wp.bind_iff]
    exact next?_not_defect hkind s

/-- Where the current line is not blank, what is recognized is executed. -/
theorem recognition (hkind : sc.settings.kind ≠ .eager)
    (written : ∀ line, sc.chain.frame.cursor.current? = some line →
      Text.allBlank (withoutEcho line.text) = false) (s : Store) : Recognition resources sc s := by
  have passed (line : Line) (taken : sc.chain.frame.cursor.current? = some line) :
      sc.isBuiltin (some line.text) = false ↔
        (executeCurrent resources (sc, s)).result = .ok false :=
    isBuiltin_eq_false_iff hkind taken (written line taken) s
  refine ⟨fun line taken => ?_, passed, fun line e taken failed => ?_, fun op asks e failed => ?_⟩
  · rw [← Bool.not_eq_false, passed line taken]
    rcases (executeCurrent resources (sc, s)).result with e | _ | _ <;> simp
  · obtain ⟨builtin, form, work⟩ := work_of_error taken (written line taken) failed
    have fault := @execute_not_defect resources sc builtin s
    rw [Wp, work] at fault
    exact ⟨fault, builtin, form, work⟩
  · have fault := @perform_not_defect resources sc hkind op asks s
    rw [Wp, failed] at fault
    exact fault

namespace Reached

variable {outer : Settings} {depth : Nat}

/-- Nothing that a scanner does makes one that takes every line for built-in. -/
theorem kind_ne (h : Reached resources outer depth sc) (hkind : outer.kind ≠ .eager) :
    sc.settings.kind ≠ .eager := by
  induction h with
  | between there same => rwa [same]
  | table found => rintro ⟨⟩
  | behind replays before ahead ih => exact ih
  | inside before taken opens ih => exact ih
  | outside before ended ih => exact ih
  | loading before taken names found ih => rintro ⟨⟩

end Reached

/-- **What is recognized is executed.** In the midst of any run, and between two turns of any
history: a scanner, each that is nested in it, and each that loads a properties source, executes
its current line just where it recognizes it. So no run meets a line that was recognized and does
not match, whatever the sources are, and whether they name each other in circles or not. -/
theorem recognized_is_executed {outer : Settings} {depth : Nat}
    (reached : Reached resources outer depth sc) (hkind : outer.kind ≠ .eager)
    {before inner : List Frame} {f : Frame}
    (nested : sc.chain.frame :: sc.chain.included = before ++ f :: inner) (s : Store) :
    Recognition resources { sc with chain := ⟨f, inner⟩ } s := by
  have mem : f ∈ sc.chain.frame :: sc.chain.included := by
    rw [nested]
    exact List.mem_append_right before List.mem_cons_self
  have stored := reached.sound_nests.2.stored f mem
  refine @recognition resources { sc with chain := ⟨f, inner⟩ } (reached.kind_ne hkind)
    (fun line taken => ?_) s
  have here : f.cursor.current? = some line := taken
  exact (stored.current? here).bare_written

def greeting : Resources where
  objects := .ofList [("inner".toList, "print hello\nfirst".toList)]

def greeted : List Session.Turn :=
  [.make (.scanner .script {} false) {} false,
    .step (.perform 0 (.openSource (.text "include !inner\nlast".toList) none none)),
    .step (.perform 0 .next)]

def standing : Walker → Option (Kind × List (Option Text))
  | .scanner sc => some (sc.settings.kind,
      (sc.chain.frame :: sc.chain.included).map fun f => f.cursor.current?.map (·.text))
  | _ => none

/-- The outer line would be executed again, the inner one is not. -/
theorem recognized_is_executed_inside :
    ∃ sc g, (Session.history greeting greeted {}).2.view 0 = some (.scanner sc) ∧
      sc.settings.kind ≠ .eager ∧ sc.chain.frame :: sc.chain.included = [sc.chain.frame] ++ [g] ∧
      g.cursor.current?.map (·.text) = some "first".toList ∧
      ∀ s, Recognition greeting { sc with chain := ⟨g, []⟩ } s := by
  have seen : ((Session.history greeting greeted {}).2.view 0).bind standing =
      some (.script, [some "include !inner".toList, some "first".toList]) := by
    decide +kernel
  obtain ⟨w, there, said⟩ := Option.bind_eq_some_iff.mp seen
  cases w with
  | scanner sc =>
    obtain ⟨kind, texts⟩ := Prod.mk.inj (Option.some.inj said)
    have hkind : sc.settings.kind ≠ .eager := by
      rw [kind]
      decide
    obtain ⟨g, rest, included, first, behind⟩ := List.map_eq_cons_iff.mp (List.cons.inj texts).2
    obtain rfl := List.map_eq_nil_iff.mp behind
    have nested : sc.chain.frame :: sc.chain.included = [sc.chain.frame] ++ [g] := by
      rw [included]
      rfl
    exact ⟨sc, g, there, hkind, nested, first, fun s =>
      recognized_is_executed (.between there rfl) hkind nested s⟩
  | reader | classifier => cases said

end Scanner

end CommandScript
