import CommandScript.Classifier
import CommandScript.CommandLine.Help
import CommandScript.CommandLine.Request
import CommandScript.Scanner.Basic
import CommandScript.Screen.Drawing

/-!
# Performing requests

A command draws what it has to show on a display, while the script it executes
writes to the output. Whatever goes wrong in a command and is reportable, or is a
defect, is drawn as well and decides the exit status; a failure of another kind
ends the program without one.
-/

namespace CommandScript.CommandLine

section

variable {σ : Type} (display : Display)

/-! ### Drawing -/

/-- Shows what has been drawn, if it could be. -/
def draw (drawn : Except Error Text) : Act σ Unit := do
  Act.emit (.drew (← Act.ofExcept drawn))

def styled (style t : Text) : Text :=
  '[' :: style ++ ']' :: (t ++ ('[' :: '/' :: style ++ [']']))

/-- A surfaced line with its number and a mark if it was echoed. -/
def markedLine (number : Nat) (text : Text) (echoed : Bool) : Text :=
  let digits := Text.ofNat number
  styled "dim" (Screen.spaces (4 - digits.length) ++ digits) ++ "  "
    ++ (if echoed then styled "bold yellow" "echo" ++ " " else []) ++ display.escape text

def markedSummary (lines : Nat) (name : Text) : Text :=
  styled "dim"
    ("ℹ " ++ Text.ofNat lines ++ " line(s) surfaced from " ++ display.escape name ++ ".")

def markedFault (kind : String) (message : Text) : Text :=
  styled "bold red" (kind.toList ++ [':']) ++ " " ++ display.escape message

/-! ### Executing -/

namespace Script

def source (script : Script) : Source :=
  .text (if script.inline then script.text else '@' :: script.text)

/-- More lines than the script can surface. -/
def lineBound (script : Script) (resources : Resources) : Nat :=
  Nat.pow (resources.size + script.text.length + 2) resources.depthBound

end Script

def define (definition : Text) : Act Store Unit :=
  match Text.splitFirst? '=' definition with
  | none | some ([], _) => Act.fail (.badDefinition definition)
  | some (key, value) => do
    let _ ← Store.setGlobal key value false
    return ()

def defineAll : List Text → Act Store Unit
  | [] => return ()
  | definition :: rest => do
    define definition
    defineAll rest

namespace Execution

def settings (e : Execution) : Settings where
  kind := .script
  options := e.script.options
  expander := { strict := e.strict }

def initial (e : Execution) : Scanner × Store :=
  (.new e.settings, { registry := .withGlobals })

/-- Prepares the registry and opens the script. -/
def start (e : Execution) (resources : Resources) : Scanner.Scan Unit := do
  Scanner.onStore (defineAll e.definitions)
  Act.modify fun (sc, s) =>
    (sc, if e.environment then
      { s with registry := s.registry.withEnvironment resources.environment }
    else s)
  Scanner.openSource resources e.script.source none none

/-- Executes the script to its end, each line that it surfaces being handled, and
counts these lines. -/
def surface (e : Execution) (resources : Resources)
    (handle : Nat → Text → Bool → Scanner.Scan Unit) : Scanner.Scan Nat := do
  e.start resources
  Scanner.drain resources handle (e.script.lineBound resources) 0

def name : Scanner.Scan Text := do
  let (sc, _) ← Act.get
  return sc.name?.getD []

def list (e : Execution) (resources : Resources) : Scanner.Scan Unit := do
  let lines ← e.surface resources fun number text echoed =>
    draw (display.print (markedLine display number text echoed))
  draw (display.print (markedSummary display lines (← name)))

/-- A document without the blanks at its end. An empty one reads as an empty mapping. -/
def panelContent (document : Text) : Text :=
  match Text.trimRight document with
  | [] => "\x7b\x7d".toList
  | t => t

def showRegistry (e : Execution) (resources : Resources) (showEnvironment : Bool) :
    Scanner.Scan Unit := do
  let _ ← e.surface resources fun _ _ _ => return ()
  let (_, s) ← Act.get
  let leftOut := if showEnvironment then [] else [environmentLabel]
  let document ← Act.ofExcept (display.document (s.registry.without leftOut))
  let title := display.escape ("Properties after " ++ (← name))
  draw (display.panel ⟨title, panelContent document⟩)

end Execution

/-! ### Classifying -/

/-- What a listing of commands says about a line. -/
structure Entry where
  number : Nat
  command : Command
  payload : Text
  echoed : Bool
  deriving DecidableEq, Repr

def pauseText (milliseconds : Nat) : Except Error Text :=
  let digits := Text.ofNat milliseconds
  if digitLimit < digits.length then .error .numberTooLong else .ok (digits ++ " ms")

def payload (c : Classifier) : Except Error Text :=
  match c.label.command with
  | .properties key value | .setProperty key value => .ok (key ++ "=" ++ value)
  | .sleep _ => do
    match ← c.pause? with
    | some milliseconds => pauseText milliseconds
    | none => return []
  | .makeNewRoot text | .batch text | .print text | .saveTo text | .useAsInput text => .ok text
  | .ordinary => .ok (c.current?.getD [])
  | .foreach | .endOfLoop => .ok []

def entries : Nat → Act Classifier (List Entry)
  | 0 => return []
  | limit + 1 => do
    match ← Classifier.advance? with
    | none => return []
    | some line =>
      let c ← Act.get
      let payload ← Act.ofExcept (payload c)
      return ⟨line.number, c.label.command, payload, c.label.echoed⟩ :: (← entries limit)

namespace Entry

def columns : List Screen.Column :=
  [⟨"Line#".toList, .right⟩, ⟨"Type".toList, .left⟩, ⟨"Payload".toList, .left⟩,
    ⟨"Echo".toList, .center⟩]

def cells (entry : Entry) : List Text :=
  [Text.ofNat entry.number,
    styled (if entry.command = .ordinary then "white" else "green") entry.command.listingName,
    display.escape entry.payload, if entry.echoed then "✅".toList else []]

end Entry

/-- The table of entries under the name of their script, which is not escaped. -/
def table (entries : List Entry) (name : Text) : Screen.Table :=
  ⟨"Classification: " ++ name, Entry.columns, entries.map (Entry.cells display)⟩

namespace Script

/-- Lists every line of the script with its command. -/
def listCommands (script : Script) (resources : Resources) : Act Classifier Unit := do
  Classifier.openSource resources script.source none none
  let c ← Act.get
  let found ← entries c.reader.cursor.lines.length
  draw (display.table (table display found (c.reader.cursor.name.getD [])))

end Script

/-! ### Answering -/

/-- Exit statuses: all went well, the script is at fault or an interrupt came, the
command line is wrong, the program is at fault. -/
inductive Status where
  | success
  | scriptFault
  | usageFault
  | defect
  deriving DecidableEq, Repr

def Status.code : Status → Nat
  | success => 0
  | scriptFault => 1
  | usageFault => 2
  | defect => 91

/-- What a job does, errors left to others. -/
def Job.work (resources : Resources) : Job → Act σ Unit
  | .run e => Act.startingFrom e.initial (e.list display resources)
  | .vars e showEnvironment =>
    Act.startingFrom e.initial (e.showRegistry display resources showEnvironment)
  | .classify script =>
    Act.startingFrom { reader := { options := script.options } }
      (script.listCommands display resources)

/-- Draws the errors of some work and gives the exit status. -/
def concludeOn (work : Act σ Unit) : Act σ Status := do
  match ← Act.attempt work with
  | .ok () => return .success
  | .error e =>
    if e.isDefect then
      draw (display.print (markedFault display "INTERNAL ERROR" e.message))
      return .defect
    else if e.isReportable then
      draw (display.print (markedFault display "Error" e.message))
      return .scriptFault
    else Act.fail e

/-- What remains to be done when a user interrupts the program. -/
def interruptedOn : Act σ Status := do
  draw (display.print ('\n' :: styled "bold red" "Terminated by user."))
  return .scriptFault

def Request.answerOn (resources : Resources) : Request → Act σ Status
  | .perform job => concludeOn display (job.work display resources)
  | .overview | .help => do
    Act.emit (.wrote helpText)
    return .success
  | .version => do
    Act.emit (.wrote versionText)
    return .success
  | .commandHelp => return .success
  | .refused => return .usageFault

end

/-! ### Answering on the screen -/

section

variable {σ : Type}

def conclude (work : Act σ Unit) : Act σ Status := concludeOn Screen.display work

def interrupted : Act σ Status := interruptedOn Screen.display

def Request.answer (resources : Resources) (request : Request) : Act σ Status :=
  request.answerOn Screen.display resources

end

/-! ### Reporting -/

/-- Every step is to be reported. -/
def Job.isVerbose : Job → Bool
  | .run e | .vars e _ => e.script.options.verbose
  | .classify script => script.options.verbose

/-- A record is reported if it matters enough. -/
def isReported (verbose : Bool) (r : LogRecord) : Bool := verbose || r.level = .warning

/-- The log of a job as it is reported. -/
def Job.report (job : Job) (events : List Event) : Text :=
  Screen.ended (((Event.log events).filter (isReported job.isVerbose)).map LogRecord.line)

end CommandScript.CommandLine
