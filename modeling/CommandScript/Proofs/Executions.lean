import CommandScript.Proofs.Loading
import CommandScript.Walker

/-!
# What is executed

Settling a chain executes built-in lines: those of its own source in their order, and in
place of a line that includes or loads another source the lines of that one. Which lines
are executed, and what store each of them finds, follows the same recursion as settling.
-/

namespace CommandScript

/-- A scanner that takes only some lines for built-in executes all of these. -/
theorem Kind.isSome_builtin? {kind : Kind} (h : kind ≠ .eager) (line : Text) :
    (kind.builtin? (withoutEcho line)).isSome = kind.recognizes line := by
  cases kind with
  | basic => simp [recognizes, isBasic, builtin?, Builtin.basic?, Bool.or_comm]
  | script =>
    simp [recognizes, isBasic, isScript, builtin?, Builtin.basic?, Builtin.script?, Bool.or_comm,
      Bool.or_assoc]
  | records =>
    simp [recognizes, isBasic, isScript, builtin?, Builtin.basic?, Builtin.script?,
      Builtin.record?, Bool.or_comm, Bool.or_assoc, Bool.or_left_comm]
  | eager => exact absurd rfl h

/-- A built-in line that is executed: how its scanner works, and the store that it finds. -/
structure ExecutedLine where
  settings : Settings
  builtin : Builtin
  store : Store

/-- Executing a built-in executes also what the source that it loads executes, if it loads
one; `loads` says what that is. -/
inductive Builtin.Executes (settings : Settings) (loads : Text → Store → ExecutedLine → Prop)
    (builtin : Builtin) (s : Store) : ExecutedLine → Prop where
  | itself : Executes settings loads builtin s ⟨settings, builtin, s⟩
  | loaded {label reference l u : Text} {e : ExecutedLine}
      (form : builtin = .properties label reference)
      (labelled : settings.expander.expand s.registry label = .ok l)
      (named : settings.expander.expand s.registry reference = .ok u)
      (inside : loads (Text.asFileReference (Text.splitOptional u).2) s e) :
      Executes settings loads builtin s e

/-- A line is surfaced before it is executed. -/
inductive Line.Executes (settings : Settings) (loads : Text → Store → ExecutedLine → Prop)
    (line : Line) (s : Store) (e : ExecutedLine) : Prop where
  | surfaced {t : Text} {builtin : Builtin}
      (expanded : settings.expander.expand s.registry (withoutEcho line.text) = .ok t)
      (form : settings.kind.builtin? (withoutEcho line.text) = some builtin)
      (executes : builtin.Executes settings loads s e)

section

variable (resources : Resources)

/-- What loading a source executes: what settling its lines does, with a table of their own. -/
def LoadExecutes (settings : Settings) (enters : Frame → Store → ExecutedLine → Prop)
    (source : Source) (s : Store) (e : ExecutedLine) : Prop :=
  ∃ name raw, source.read resources = .ok (name, raw) ∧
    enters { cursor := .opened name (settings.linesOf raw) } { s with target := ∅ } e

variable (settings : Settings) (load : Text → Act Store Table) (enter : Frame → Store → Settled)
variable (loads : Text → Store → ExecutedLine → Prop) (enters : Frame → Store → ExecutedLine → Prop)

inductive LinesExecute : List Line → Frame → Store → ExecutedLine → Prop where
  /-- The first line is built-in. -/
  | here {line : Line} {ahead : List Line} {f : Frame} {s : Store} {e : ExecutedLine}
      (recognized : settings.kind.recognizes line.text = true)
      (executes : line.Executes settings loads s e) : LinesExecute (line :: ahead) f s e
  /-- The first line was executed, and the others follow. -/
  | later {line : Line} {ahead : List Line} {f : Frame} {s s' : Store} {events : List Event}
      {e : ExecutedLine} (recognized : settings.kind.recognizes line.text = true)
      (done : executeLine resources settings load (f.moved line ahead).cursor.state line s =
        ⟨.ok .done, s', events⟩)
      (rest : LinesExecute ahead (f.moved line ahead) s' e) : LinesExecute (line :: ahead) f s e
  | replayed {line : Line} {ahead : List Line} {f : Frame} {s s' : Store} {events : List Event}
      {e : ExecutedLine} (recognized : settings.kind.recognizes line.text = true)
      (done : executeLine resources settings load (f.moved line ahead).cursor.state line s =
        ⟨.ok .replayRequested, s', events⟩)
      (rest : LinesExecute ahead { f.moved line ahead with replayRequested := true } s' e) :
      LinesExecute (line :: ahead) f s e
  /-- The first line includes a source. -/
  | inside {line : Line} {ahead : List Line} {f g : Frame} {s s' : Store} {events : List Event}
      {e : ExecutedLine} (recognized : settings.kind.recognizes line.text = true)
      (entered : executeLine resources settings load (f.moved line ahead).cursor.state line s =
        ⟨.ok (.entered g), s', events⟩)
      (inner : enters g s' e) : LinesExecute (line :: ahead) f s e
  /-- The source that the first line includes has come to its end. -/
  | behind {line : Line} {ahead : List Line} {f g : Frame} {c : Chain} {s s' s'' : Store}
      {events more : List Event} {e : ExecutedLine}
      (recognized : settings.kind.recognizes line.text = true)
      (entered : executeLine resources settings load (f.moved line ahead).cursor.state line s =
        ⟨.ok (.entered g), s', events⟩)
      (ended : enter g s' = ⟨.ok false, (c, s''), more⟩)
      (rest : LinesExecute ahead (f.moved line ahead) s'' e) : LinesExecute (line :: ahead) f s e

/-- What settling a chain of at most `depth` nested sources executes. -/
def Executes (resources : Resources) :
    Nat → Settings → Frame → List Frame → Store → ExecutedLine → Prop
  | 0, _, _, _, _, _ => False
  | depth + 1, settings, f, included, s, e =>
    let own (s : Store) : Prop :=
      LinesExecute resources settings (loadAt resources depth settings)
        (fun g s => settle resources depth settings g [] s)
        (fun reference => LoadExecutes resources settings.forRecords
          (fun g s => Executes resources depth settings.forRecords g [] s) (.text reference))
        (fun g s => Executes resources depth settings g [] s) f.started.cursor.ahead f.started s e
    match included with
    | [] => own s
    | g :: rest =>
      Executes resources depth settings g rest s e ∨
        ∃ c s' events, settle resources depth settings g rest s = ⟨.ok false, (c, s'), events⟩ ∧
          own s'

def LoadsAt (depth : Nat) (settings : Settings) (source : Source) : Store → ExecutedLine → Prop :=
  LoadExecutes resources settings.forRecords
    (fun g s => Executes resources depth settings.forRecords g [] s) source

end

namespace Scanner

inductive Performs (resources : Resources) (sc : Scanner) (s : Store) :
    Operation → ExecutedLine → Prop where
  | settling {op : Operation} {e : ExecutedLine} (asks : op ∈ [.hasNext, .next, .next?])
      (executes : Executes resources resources.depthBound sc.settings sc.chain.frame
        sc.chain.included s e) : Performs resources sc s op e
  | current {line : Line} {builtin : Builtin} {e : ExecutedLine}
      (taken : sc.chain.frame.cursor.current? = some line)
      (written : Text.allBlank (withoutEcho line.text) = false)
      (form : sc.settings.kind.builtin? (withoutEcho line.text) = some builtin)
      (executes : builtin.Executes sc.settings
        (fun reference => LoadsAt resources resources.depthBound sc.settings (.text reference))
        s e) : Performs resources sc s .executeCurrent e
  | table {reference : Text} {e : ExecutedLine} (loads : sc.settings.kind.loadsTables = true)
      (executes : LoadsAt resources resources.depthBound sc.settings
        (.text (Text.asFileReference reference)) s e) :
      Performs resources sc s (.loadTable reference) e

end Scanner

def Walker.Performs (resources : Resources) (w : Walker) (s : Store) (op : Operation)
    (e : ExecutedLine) : Prop :=
  match w with
  | .scanner sc => sc.Performs resources s op e
  | _ => False

end CommandScript
