import CommandScript.Command
import CommandScript.Reader

/-!
# Classifying readers

A classifier reads a script line by line and labels each line with its command,
without executing anything. The label of a line is decided by its text without
the echo keyword.
-/

namespace CommandScript

/-- What is known about the line taken last. -/
structure Label where
  echoed : Bool := false
  command : Command := .ordinary
  deriving DecidableEq, Repr

structure Classifier where
  reader : Reader := {}
  label : Label := {}

namespace Label

/-- Labels a line; where no form fits, the command stays what it was. -/
def determine (label : Label) (line : Text) : Label where
  echoed := (splitEcho line).1
  command := (Command.recognize? (withoutEcho line)).getD label.command

/-- The label of a line on its own. -/
def ofLine (line : Text) : Label := determine {} line

end Label

namespace Classifier

variable {α : Type}

def onReader (x : Act Reader α) : Act Classifier α := fun c =>
  (x c.reader).mapState fun r => { c with reader := r }

def clearLabel : Act Classifier Unit := Act.modify fun c => { c with label := {} }

def openSource (resources : Resources) (source : Source) (trim compress : Option Bool) :
    Act Classifier Unit := do
  clearLabel
  onReader (Reader.openSource resources source trim compress)

def reset : Act Classifier Unit := do
  clearLabel
  onReader Reader.reset

def rewind : Act Classifier Unit := do
  clearLabel
  onReader Reader.rewind

/-- Asking for a next line starts over a reader that has opened nothing. -/
def hasNext : Act Classifier Bool := do
  let c ← Act.get
  if c.reader.cursor.reading.isNone then clearLabel
  onReader Reader.hasNext

/-- Labels a text as if it were a line. -/
def determine (line : Text) : Act Classifier Unit := do
  Act.modify fun c => { c with label := c.label.determine line }
  let c ← Act.get
  Act.onlyIf c.reader.options.verbose
    (Act.debug .classifier
      ("determine_cmd_type(): line# " ++ Place.toText c.reader.cursor.position? ++ " ["
        ++ withoutEcho line ++ "] -> " ++ c.label.command.listingName))

def advance? : Act Classifier (Option Line) := do
  let c ← Act.get
  if c.reader.cursor.reading.isNone then clearLabel
  match ← onReader Reader.advance? with
  | none => return none
  | some line =>
    clearLabel
    determine line.text
    return some line

/-- The line taken last, without its echo keyword. -/
def current? (c : Classifier) : Option Text :=
  c.reader.cursor.current?.map fun line => withoutEcho line.text

def current : Act Classifier Text := do
  let c ← Act.get
  match c.current? with
  | some text => return text
  | none => Act.fail (.noCurrentLine c.reader.cursor.position? c.reader.cursor.state)

def next : Act Classifier Text := do
  match ← advance? with
  | some _ => current
  | none =>
    let c ← Act.get
    Act.fail (.noMoreLines c.reader.cursor.position? c.reader.cursor.state)

def next? : Act Classifier (Option Text) := do
  match ← advance? with
  | some _ => return (← Act.get).current?
  | none => return none

def duplicate (c : Classifier) : Classifier := { c with reader := c.reader.duplicate }

/-! ### What the label says -/

def keyValue? (c : Classifier) : Option (Text × Text) :=
  match c.label.command with
  | .properties label reference => some (label, reference)
  | .setProperty key value => some (key, value)
  | _ => none

def printed? (c : Classifier) : Option Text :=
  match c.label.command with
  | .print expression => some expression
  | _ => none

def saveTo? (c : Classifier) : Option Text :=
  match c.label.command with
  | .saveTo reference => some reference
  | _ => none

def useAsInput? (c : Classifier) : Option Text :=
  match c.label.command with
  | .useAsInput value => some value
  | _ => none

def newRoot? (c : Classifier) : Option Text :=
  match c.label.command with
  | .makeNewRoot name => some name
  | _ => none

def batch? (c : Classifier) : Option Text :=
  match c.label.command with
  | .batch reference => some reference
  | _ => none

/-- The pause of a `sleep` line in milliseconds. -/
def pause? (c : Classifier) : Except Error (Option Nat) :=
  match c.label.command with
  | .sleep digits =>
    if digitLimit < digits.length then .error (.numeralTooLong (.digits digits.length))
    else .ok (some (Text.decimalValue digits * 1000))
  | _ => .ok none

/-- The first word of an ordinary line. -/
def command? (c : Classifier) : Option Text :=
  match c.label.command with
  | .ordinary => c.current?.bind Text.firstWord?
  | _ => none

def isForeach (c : Classifier) : Bool := c.label.command = .foreach

def isEnd (c : Classifier) : Bool := c.label.command = .endOfLoop

end Classifier
end CommandScript
