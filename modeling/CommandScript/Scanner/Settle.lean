import CommandScript.Scanner.Execution

/-!
# Settling on the next ordinary line

Before a scanner can surface a line it executes the built-in lines in front of
it. Settling does that: it ends before an ordinary line, in whatever included
source that line stands, or at the end of the outermost source, and an included
source without further lines is left. A source is read at the place where it is
included, so the walk is depth first in file order.

Sources nest to a given depth only, which makes the walk end also where a source
includes itself.
-/

namespace CommandScript

/-- A chain and the store, after settling: whether an ordinary line follows. -/
abbrev Settled := Outcome (Chain × Store) Bool

/-- Takes the line that follows, in the innermost source, and surfaces it. -/
def takeNext (settings : Settings) : Frame → List Frame → Store →
    Outcome (Chain × Store) (Option Text)
  | f, [], s =>
    match f.cursor.ahead with
    | [] => ⟨.ok none, (⟨f, []⟩, s), []⟩
    | line :: ahead =>
      let f := f.moved line ahead
      let o := surface settings f.cursor.state line s
      ⟨o.result.map some, (⟨f, []⟩, o.state), o.events⟩
  | f, g :: rest, s =>
    (takeNext settings g rest s).mapState fun (c, s) =>
      (⟨f.cleared, c.frame :: c.included⟩, s)

section

variable (resources : Resources) (settings : Settings)

/-- Logs, takes and executes a line that the scanner takes for a built-in. `place`
is where the line stands, in words. -/
def executeLine (load : Text → Act Store Table) (place : Text) (line : Line) :
    Act Store Effect := do
  Act.onlyIf settings.options.verbose
    (Act.debug .builtins ("has_next_line(): quietly executing [" ++ line.text ++ "]"))
  let _ ← surface settings place line
  match settings.kind.builtin? (withoutEcho line.text) with
  | some builtin => execute resources settings load place builtin
  | none => Act.fail (.mismatch place)

/-- Settles one source whose remaining lines are given; `enter` settles a source
that it includes. -/
def settleLines (load : Text → Act Store Table) (enter : Frame → Store → Settled) :
    List Line → Frame → Store → Settled
  | [], f, s => ⟨.ok false, (⟨f, []⟩, s), []⟩
  | line :: ahead, f, s =>
    if settings.kind.recognizes line.text then
      let f := f.moved line ahead
      match executeLine resources settings load f.cursor.state line s with
      | ⟨.error e, s, events⟩ => ⟨.error e, (⟨f, []⟩, s), events⟩
      | ⟨.ok .done, s, events⟩ => (settleLines load enter ahead f s).after events
      | ⟨.ok .replayRequested, s, events⟩ =>
        (settleLines load enter ahead { f with replayRequested := true } s).after events
      | ⟨.ok (.entered g), s, events⟩ =>
        match enter g s with
        | ⟨.ok false, (_, s), inner⟩ =>
          (settleLines load enter ahead f s).after (events ++ inner)
        | ⟨result, (c, s), inner⟩ =>
          ⟨result, (⟨f, c.frame :: c.included⟩, s), events ++ inner⟩
    else ⟨.ok true, (⟨f, []⟩, s), []⟩

end

/-- The settings under which a properties source is read. -/
def Settings.forRecords (settings : Settings) : Settings where
  kind := .records
  options := { verbose := settings.options.verbose }
  expander := settings.expander

/-- Reads a properties source to its end, given how to settle it. A line that is
left over is an error. -/
def readRecords (resources : Resources) (settings : Settings)
    (settle : Frame → Store → Settled) (source : Source) : Act Store Table := fun s =>
  match openFrame resources settings source s with
  | ⟨.error e, s, events⟩ => ⟨.error e, s, events⟩
  | ⟨.ok frame, s, events⟩ =>
    match settle frame s with
    | ⟨.error e, (_, s), inner⟩ => ⟨.error e, s, events ++ inner⟩
    | ⟨.ok false, (c, s), inner⟩ =>
      ⟨.ok s.target, s, events ++ inner ++
        [.logged ⟨.debug, .properties, "Loaded " ++ Text.ofNat s.target.size ++
          " entries from [" ++ c.frame.cursor.name.getD [] ++ "]"⟩]⟩
    | ⟨.ok true, (c, s), inner⟩ =>
      match takeNext settings c.frame c.included s with
      | ⟨.error e, (_, s), last⟩ => ⟨.error e, s, events ++ inner ++ last⟩
      | ⟨.ok _, (c, s), last⟩ => ⟨.error (.notARecord c.state), s, events ++ inner ++ last⟩

/-- Runs a load with a table of its own, and puts the table under construction
back. -/
def withOwnTarget (load : Act Store Table) : Act Store Table := fun s =>
  (load { s with target := ∅ }).mapState fun after => { after with target := s.target }

/-- Settles a chain of at most `depth` nested sources. -/
def settle (resources : Resources) : Nat → Settings → Frame → List Frame → Store → Settled
  | 0, _, f, included, s => ⟨.error .tooDeep, (⟨f, included⟩, s), []⟩
  | depth + 1, settings, f, included, s =>
    let load (reference : Text) : Act Store Table :=
      withOwnTarget (readRecords resources settings.forRecords
        (fun g s => settle resources depth settings.forRecords g [] s) (.text reference))
    let settleOwn (s : Store) : Settled :=
      let f := f.started
      settleLines resources settings load (fun g s => settle resources depth settings g [] s)
        f.cursor.ahead f s
    match included with
    | [] => settleOwn s
    | g :: rest =>
      match settle resources depth settings g rest s with
      | ⟨.ok false, (_, s), events⟩ => (settleOwn s).after events
      | ⟨result, (c, s), events⟩ => ⟨result, (⟨f, c.frame :: c.included⟩, s), events⟩

/-- The next ordinary line of a chain, none when no more follows. Every source
settles before it hands on to the one that it includes. -/
def nextLine (resources : Resources) : Nat → Settings → Frame → List Frame → Store →
    Outcome (Chain × Store) (Option Text)
  | 0, _, f, included, s => ⟨.error .tooDeep, (⟨f, included⟩, s), []⟩
  | depth + 1, settings, f, included, s =>
    match settle resources (depth + 1) settings f included s with
    | ⟨.error e, cs, events⟩ => ⟨.error e, cs, events⟩
    | ⟨.ok false, cs, events⟩ => ⟨.ok none, cs, events⟩
    | ⟨.ok true, (⟨f, []⟩, s), events⟩ => (takeNext settings f [] s).after events
    | ⟨.ok true, (⟨f, g :: rest⟩, s), events⟩ =>
      ((nextLine resources depth settings g rest s).mapState fun (c, s) =>
        (⟨f.cleared, c.frame :: c.included⟩, s)).after events

end CommandScript
