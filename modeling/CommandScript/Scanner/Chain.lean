import CommandScript.Reader
import CommandScript.Scanner.Builtin

/-!
# Chains of included sources

A scanner reads at most one included source at a time, which may itself include
one, and so on. A frame is the cursor of one source with what is known about its
current line; a chain is the frames from the outermost source inwards.
-/

namespace CommandScript

/-- How a scanner works; a scanner hands it down to what it includes. -/
structure Settings where
  kind : Kind := .basic
  options : Options := {}
  expander : Expander := {}
  /-- Somebody answers requests to replay the last output. -/
  replays : Bool := false
  deriving DecidableEq, Repr

/-- One source being read. -/
structure Frame where
  cursor : Cursor := .unopened
  /-- The current line had an echo keyword. -/
  echoed : Bool := false
  /-- The current line requested a replay. -/
  replayRequested : Bool := false
  deriving DecidableEq, Repr

namespace Frame

def cleared (f : Frame) : Frame := { f with echoed := false, replayRequested := false }

def rewound (f : Frame) : Frame := { f.cleared with cursor := f.cursor.rewind }

/-- Begins to read where nothing was opened. -/
def started (f : Frame) : Frame :=
  match f.cursor.reading with
  | none => f.rewound
  | some _ => f

def moved (f : Frame) (line : Line) (ahead : List Line) : Frame where
  cursor := f.cursor.moved ahead
  echoed := (splitEcho line.text).1

def duplicate (f : Frame) : Frame := { f with cursor := f.cursor.duplicate }

end Frame

/-- The frames of a scanner, from the outermost inwards. -/
structure Chain where
  frame : Frame := {}
  included : List Frame := []
  deriving DecidableEq, Repr

namespace Chain

def innermost (c : Chain) : Frame := c.included.getLastD c.frame

/-- Where the scanner stands, in words: every source of the chain with its line,
the outermost first. -/
def state (c : Chain) : Text :=
  Text.joinWith " .. --> .. " ((c.frame :: c.included).map (·.cursor.state))

/-- The next line as it is written, of the innermost source that has one. -/
def peek? (c : Chain) : Option Text :=
  (c.frame :: c.included).reverse.findSome? (·.cursor.peek?)

def duplicate (c : Chain) : Chain := ⟨c.frame.duplicate, c.included.map Frame.duplicate⟩

end Chain

def openFrame {σ : Type} (resources : Resources) (settings : Settings) (source : Source) :
    Act σ Frame := do
  let cursor ← openCursor resources source settings.options settings.kind.separator
  return { cursor := cursor }

/-- Expands a line that has been taken, without its echo keyword, and announces it
on the output if it had one. -/
def announce (settings : Settings) (line : Text) : Act Store Text := do
  let (echoed, bare) := splitEcho line
  let expanded ← Store.expand settings.expander settings.options.verbose bare
  Act.emitAll
    (if echoed then
      [.wrote ("\tEcho (As-Is): " ++ bare ++ "\n"),
        .wrote ("\tEcho (Macros-substituted): " ++ expanded ++ "\n")]
    else [])
  return expanded

/-- Logs and announces a line that has just been taken at a place. -/
def surface (settings : Settings) (place : Text) (line : Line) : Act Store Text := do
  logAdvance settings.options.verbose place
  announce settings line.text

end CommandScript
