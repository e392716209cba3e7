import CommandScript.Classifier
import CommandScript.Scanner.Basic

/-!
# Walkers

Readers, classifiers and scanners are handled alike: they answer the same questions and
take the same operations. Only scanners use the store.
-/

namespace CommandScript

/-- What a walker is, apart from its options and the place where it stands. -/
inductive Family where
  | reader
  | classifier
  | scanner (kind : Kind) (expander : Expander) (replays : Bool)
  deriving DecidableEq, Repr

/-- A reader, a classifier or a scanner. -/
inductive Walker where
  | reader (r : Reader)
  | classifier (c : Classifier)
  | scanner (sc : Scanner)

namespace Walker

def new (options : Options) : Family → Walker
  | .reader => reader { options := options }
  | .classifier => classifier { reader := { options := options } }
  | .scanner kind expander replays => scanner (.new ⟨kind, options, expander, replays⟩)

def family : Walker → Family
  | reader _ => .reader
  | classifier _ => .classifier
  | scanner sc => .scanner sc.settings.kind sc.settings.expander sc.settings.replays

/-! ### Looking -/

def cursor : Walker → Cursor
  | reader r => r.cursor
  | classifier c => c.reader.cursor
  | scanner sc => sc.chain.frame.cursor

def options : Walker → Options
  | reader r => r.options
  | classifier c => c.reader.options
  | scanner sc => sc.settings.options

def state : Walker → Text
  | scanner sc => sc.state
  | w => w.cursor.state

def peek? : Walker → Option Text
  | scanner sc => sc.peek?
  | w => w.cursor.peek?

def isEchoed : Walker → Bool
  | reader _ => false
  | classifier c => c.label.echoed
  | scanner sc => sc.isEchoed

def isReplayRequested : Walker → Bool
  | scanner sc => sc.isReplayRequested
  | _ => false

def label? : Walker → Option Label
  | classifier c => some c.label
  | _ => none

def nesting : Walker → Nat
  | scanner sc => sc.nesting
  | _ => 0

/-- A walker at the same place, which goes its own way. -/
def duplicate : Walker → Walker
  | reader r => .reader r.duplicate
  | classifier c => .classifier c.duplicate
  | scanner sc => .scanner sc.duplicate

/-- A walker of the same family that has opened nothing. -/
def spawn : Walker → Walker
  | reader r => .reader { options := r.options }
  | classifier c => .classifier { reader := { options := c.reader.options } }
  | scanner sc => .scanner sc.spawn

end Walker

abbrev Run (α : Type) : Type := Act (Walker × Store) α

inductive Query where
  | peek
  | state
  | position
  | name
  | count
  | lineNumber
  | echoed
  | replayRequested
  | label
  | nesting
  | options
  | isBuiltin (line : Option Text)
  deriving DecidableEq, Repr

inductive Operation where
  | openSource (source : Source) (trim compress : Option Bool)
  | reset
  | rewind
  | hasNext
  | next
  | next?
  | current
  | current?
  | ask (q : Query)
  /-- Executes the line taken last, if it is built-in. -/
  | executeCurrent
  /-- Expands the references of a text. -/
  | expand (t : Text)
  /-- Loads a properties source into a table of its own. -/
  | loadTable (reference : Text)
  /-- Labels a text as if it were a line. -/
  | determine (line : Text)
  deriving DecidableEq, Repr

inductive Answer where
  | done
  | truth (b : Bool)
  | text (t : Text)
  | maybe (t : Option Text)
  | count (n : Nat)
  | place (n : Option Nat)
  | label (l : Option Label)
  | options (o : Options)
  | table (t : Table)
  deriving DecidableEq, Repr

namespace Walker

def answer (w : Walker) : Query → Answer
  | .peek => .maybe w.peek?
  | .state => .text w.state
  | .position => .place w.cursor.position?
  | .name => .maybe w.cursor.name
  | .count => .count w.cursor.lines.length
  | .lineNumber => .place (w.cursor.current?.map (·.number))
  | .echoed => .truth w.isEchoed
  | .replayRequested => .truth w.isReplayRequested
  | .label => .label w.label?
  | .nesting => .count w.nesting
  | .options => .options w.options
  | .isBuiltin line =>
    match w with
    | scanner sc => .truth (sc.isBuiltin line)
    | _ => .truth false

end Walker

namespace Run

variable {α : Type}

/-- Runs the action of the walker's own family. -/
def byFamily (r : Act Reader α) (c : Act Classifier α) (sc : Scanner.Scan α) : Run α :=
  fun (w, s) =>
    match w with
    | .reader x => (r x).mapState (.reader ·, s)
    | .classifier x => (c x).mapState (.classifier ·, s)
    | .scanner x => (sc (x, s)).mapState fun (x, s) => (.scanner x, s)

def missing {σ : Type} : Act σ α := Act.fail (.defect "no such operation")

def perform (resources : Resources) : Operation → Run Answer
  | .openSource source trim compress => do
    byFamily (Reader.openSource resources source trim compress)
      (Classifier.openSource resources source trim compress)
      (Scanner.openSource resources source trim compress)
    return .done
  | .reset => do
    byFamily Reader.reset Classifier.reset Scanner.reset
    return .done
  | .rewind => do
    byFamily Reader.rewind Classifier.rewind Scanner.rewind
    return .done
  | .hasNext => do
    return .truth (← byFamily Reader.hasNext Classifier.hasNext (Scanner.hasNext resources))
  | .next => do
    return .text (← byFamily Reader.next Classifier.next (Scanner.next resources))
  | .next? => do
    return .maybe (← byFamily Reader.next? Classifier.next? (Scanner.next? resources))
  | .current => do
    return .text (← byFamily Reader.current Classifier.current Scanner.current)
  | .current? => do
    return .maybe (← byFamily Reader.current? (return (← Act.get).current?) Scanner.current?)
  | .ask q => do
    let (w, _) ← Act.get
    return w.answer q
  | .executeCurrent => do
    return .truth (← byFamily missing missing (Scanner.executeCurrent resources))
  | .expand t => do
    return .text (← byFamily missing missing (Scanner.expand t))
  | .loadTable reference => do
    return .table (← byFamily missing missing do
      let (sc, _) ← Act.get
      if sc.settings.kind.loadsTables then Scanner.loadTable resources reference else missing)
  | .determine line => do
    byFamily missing (Classifier.determine line) missing
    return .done

end Run

end CommandScript
