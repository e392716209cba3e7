import CommandScript.Scanner.Settle

/-!
# Scanners

A scanner walks a script and surfaces its ordinary lines: built-in lines are
executed on the way, echo keywords are stripped and announced, and references
are expanded against the registry as it stands when a line is taken. Scanners
share the store; all else is their own.
-/

namespace CommandScript

structure Scanner where
  settings : Settings := {}
  chain : Chain := {}

namespace Scanner

abbrev Scan (α : Type) : Type := Act (Scanner × Store) α

/-! ### Looking -/

/-- The number of lines taken from the outermost source, none before it is read. -/
def position? (sc : Scanner) : Option Nat := sc.chain.frame.cursor.position?

def state (sc : Scanner) : Text := sc.chain.state

def name? (sc : Scanner) : Option Text := sc.chain.frame.cursor.name

def count (sc : Scanner) : Nat := sc.chain.frame.cursor.lines.length

def isEchoed (sc : Scanner) : Bool := sc.chain.innermost.echoed

def isReplayRequested (sc : Scanner) : Bool := sc.chain.innermost.replayRequested

/-- The next line as it is written, taken from no source. -/
def peek? (sc : Scanner) : Option Text := sc.chain.peek?

/-- How many sources are included in one another at the moment. -/
def nesting (sc : Scanner) : Nat := sc.chain.included.length

/-- The scanner takes the line for a built-in. An eager one does so even where
there is no line. -/
def isBuiltin (sc : Scanner) : Option Text → Bool
  | some line => sc.settings.kind.recognizes line
  | none => sc.settings.kind = .eager

/-! ### Making -/

def new (settings : Settings) : Scanner := { settings := settings }

/-- What a kind of scanner needs to find in the store. -/
def prepare (kind : Kind) (s : Store) : Store :=
  match kind with
  | .basic | .eager => s
  | .script | .records => { s with registry := s.registry.ensure globalsLabel }

/-- A scanner of the same settings that has opened nothing. -/
def spawn (sc : Scanner) : Scanner := new sc.settings

/-- A scanner at the same place, which goes its own way. -/
def duplicate (sc : Scanner) : Scanner := { sc with chain := sc.chain.duplicate }

/-! ### Moving -/

def onStore {α : Type} (x : Act Store α) : Scan α := x.onSnd

def modifyChain (f : Chain → Chain) : Scan Unit :=
  Act.modify fun (sc, s) => ({ sc with chain := f sc.chain }, s)

/-- Gives up the open source and everything it includes. -/
def reset : Scan Unit := modifyChain fun _ => {}

/-- Goes back before the first line of the outermost source. A source that it
includes at the moment stays open. -/
def rewind : Scan Unit := modifyChain fun c => { c with frame := c.frame.rewound }

/-- Opens a source; where that fails, the scanner is as before its first source. -/
def openSource (resources : Resources) (source : Source) (trim compress : Option Bool) :
    Scan Unit := do
  Act.modify fun (sc, s) =>
    ({ sc with
        settings := { sc.settings with options := sc.settings.options.override trim compress }
        chain := {} }, s)
  let (sc, _) ← Act.get
  let frame ← openFrame resources sc.settings source
  modifyChain fun _ => ⟨frame, []⟩

/-- Executes built-in lines up to the next ordinary line: whether there is one. -/
def hasNext (resources : Resources) : Scan Bool := fun (sc, s) =>
  (settle resources resources.depthBound sc.settings sc.chain.frame sc.chain.included s).mapState
    fun (c, s) => ({ sc with chain := c }, s)

def next? (resources : Resources) : Scan (Option Text) := fun (sc, s) =>
  (nextLine resources resources.depthBound sc.settings sc.chain.frame sc.chain.included s).mapState
    fun (c, s) => ({ sc with chain := c }, s)

/-- The next ordinary line; its absence is an error. -/
def next (resources : Resources) : Scan Text := do
  match ← next? resources with
  | some text => return text
  | none =>
    let (sc, _) ← Act.get
    Act.fail (.noNextLine sc.state)

def expand (t : Text) : Scan Text := do
  let (sc, _) ← Act.get
  onStore (Store.expand sc.settings.expander sc.settings.options.verbose t)

/-- The line taken last, expanded again against the registry of now. -/
def current? : Scan (Option Text) := do
  let (sc, _) ← Act.get
  match sc.chain.innermost.cursor.current? with
  | none => return none
  | some line => return some (← expand (withoutEcho line.text))

/-- The line taken last; its absence is an error. -/
def current : Scan Text := do
  match ← current? with
  | some text => return text
  | none =>
    let (sc, _) ← Act.get
    let cursor := sc.chain.innermost.cursor
    Act.fail (.noCurrentLine cursor.position? cursor.state)

def loadTable (resources : Resources) (reference : Text) : Scan Table := do
  let (sc, _) ← Act.get
  let settings := sc.settings.forRecords
  onStore (withOwnTarget (readRecords resources settings
    (fun f s => settle resources resources.depthBound settings f [] s)
    (.text (Text.asFileReference reference))))

/-- Applies the effect of a line that was executed at the outermost source. -/
def applyEffect : Effect → Chain → Chain
  | .done, c => c
  | .replayRequested, c => { c with frame := { c.frame with replayRequested := true } }
  | .entered f, c => { c with included := [f] }

/-- Executes the line taken last from the outermost source, if it is built-in:
whether it was. -/
def executeCurrent (resources : Resources) : Scan Bool := do
  let (sc, _) ← Act.get
  match sc.chain.frame.cursor.current? with
  | none => Act.fail (.nothingToExecute sc.state)
  | some line =>
    let bare := withoutEcho line.text
    if Text.allBlank bare then Act.fail (.nothingToExecute sc.state)
    else
      match sc.settings.kind.builtin? bare with
      | none => return false
      | some builtin =>
        let load (reference : Text) : Act Store Table :=
          withOwnTarget (readRecords resources sc.settings.forRecords
            (fun f s => settle resources resources.depthBound sc.settings.forRecords f [] s)
            (.text reference))
        let effect ← onStore (execute resources sc.settings load sc.state builtin)
        modifyChain (applyEffect effect)
        return true

/-- Surfaces at most `limit` lines, each with its echo mark, by `show`. -/
def drain (resources : Resources) (handle : Nat → Text → Bool → Scan Unit) :
    Nat → Nat → Scan Nat
  | 0, taken => return taken
  | limit + 1, taken => do
    if ← hasNext resources then
      let text ← next resources
      let (sc, _) ← Act.get
      handle (taken + 1) text sc.isEchoed
      drain resources handle limit (taken + 1)
    else return taken

end Scanner
end CommandScript
