import CommandScript.Cursor
import CommandScript.Store

/-!
# Plain readers

A reader is a cursor that opens sources: it ingests a source with its options and
surfaces every line of it as it is.
-/

namespace CommandScript

/-- How sources are ingested, and whether every step is logged. -/
structure Options extends Cleaning where
  verbose : Bool := false
  deriving DecidableEq, Repr

namespace Options

/-- The options with the given flags in place of their own. -/
def override (o : Options) (trim compress : Option Bool) : Options :=
  { o with trim := trim.getD o.trim, compress := compress.getD o.compress }

end Options

def openCursor {σ : Type} (resources : Resources) (source : Source) (options : Options)
    (separator : Option Text) : Act σ Cursor := do
  let (name, lines) ←
    openLines resources source options.toCleaning separator options.verbose
  return .opened name lines

def logAdvance {σ : Type} (verbose : Bool) (place : Text) : Act σ Unit :=
  Act.onlyIf verbose (Act.debug .cursor ("next_line(): " ++ place))

structure Reader where
  options : Options := {}
  cursor : Cursor := .unopened

namespace Reader

/-- Opens a source; where that fails, the reader is as before its first source. -/
def openSource (resources : Resources) (source : Source) (trim compress : Option Bool) :
    Act Reader Unit := do
  Act.modify fun r => ⟨r.options.override trim compress, .unopened⟩
  let r ← Act.get
  let cursor ← openCursor resources source r.options none
  Act.modify fun r => { r with cursor := cursor }

def reset : Act Reader Unit := Act.modify fun r => { r with cursor := .unopened }

def rewind : Act Reader Unit := Act.modify fun r => { r with cursor := r.cursor.rewind }

def hasNext : Act Reader Bool := do
  Act.modify fun r => { r with cursor := r.cursor.started }
  let r ← Act.get
  return !r.cursor.ahead.isEmpty

/-- Moves to the next line; at the end nothing moves. -/
def advance? : Act Reader (Option Line) := do
  Act.modify fun r => { r with cursor := r.cursor.started }
  let r ← Act.get
  match r.cursor.advance? with
  | none => return none
  | some (line, cursor) =>
    Act.modify fun r => { r with cursor := cursor }
    logAdvance r.options.verbose cursor.state
    return some line

def current? : Act Reader (Option Text) := do
  return (← Act.get).cursor.current?.map (·.text)

/-- The line taken last; its absence is an error. -/
def current : Act Reader Text := do
  let r ← Act.get
  match r.cursor.current? with
  | some line => return line.text
  | none => Act.fail (.noCurrentLine r.cursor.position? r.cursor.state)

def next : Act Reader Text := do
  match ← advance? with
  | some _ => current
  | none =>
    let r ← Act.get
    Act.fail (.noMoreLines r.cursor.position? r.cursor.state)

def next? : Act Reader (Option Text) := do
  match ← advance? with
  | some line => return some line.text
  | none => return none

def duplicate (r : Reader) : Reader := { r with cursor := r.cursor.duplicate }

end Reader
end CommandScript
