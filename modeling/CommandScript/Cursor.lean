import CommandScript.Line.Basic

/-!
# Cursors

A cursor walks the lines of one source. Before anything is opened it reads
nothing; once reading, its position is the number of lines taken, and `ahead`
holds the lines still to come. The lines themselves stay, so a cursor can be
rewound and the current line read again.
-/

namespace CommandScript

/-- How far a cursor has come. -/
structure Reading where
  position : Nat
  ahead : List Line
  deriving DecidableEq, Repr

structure Cursor where
  name : Option Text := none
  lines : List Line := []
  reading : Option Reading := none
  deriving DecidableEq, Repr

/-- A line as messages name it: its source, number and text. -/
def Line.place (line : Line) (name : Text) : Text :=
  "ConfigFile=[" ++ name ++ "] @ line# " ++ Text.ofNat line.number ++ " = [" ++ line.text ++ "]"

namespace Cursor

def unopened : Cursor := {}

def rewind (c : Cursor) : Cursor := { c with reading := some ⟨0, c.lines⟩ }

def opened (name : Text) (lines : List Line) : Cursor :=
  rewind { name := some name, lines := lines }

/-- Begins to read where nothing was opened: there are no lines then. -/
def started (c : Cursor) : Cursor :=
  match c.reading with
  | none => c.rewind
  | some _ => c

/-- The number of lines taken, none before anything is read. -/
def position? (c : Cursor) : Option Nat := c.reading.map (·.position)

def ahead (c : Cursor) : List Line :=
  match c.reading with
  | none => []
  | some r => r.ahead

def moved (c : Cursor) (ahead : List Line) : Cursor :=
  { c with reading := some ⟨c.position?.getD 0 + 1, ahead⟩ }

/-- The next line and the cursor behind it, none at the end. -/
def advance? (c : Cursor) : Option (Line × Cursor) :=
  match c.ahead with
  | [] => none
  | line :: ahead => some (line, c.moved ahead)

def current? (c : Cursor) : Option Line :=
  match c.position? with
  | some (n + 1) => c.lines[n]?
  | _ => none

def peek? (c : Cursor) : Option Text := c.ahead.head?.map (·.text)

def state (c : Cursor) : Text :=
  match c.name, c.current? with
  | some name, some line => line.place name
  | some name, none => "ConfigFile [" ++ name ++ "] is in invalid state"
  | none, _ => "ConfigFile [None] is in invalid state".toList

/-- A cursor at the same position of the same lines, which counts its own way to
the lines ahead. -/
def duplicate (c : Cursor) : Cursor :=
  { c with reading := c.reading.map fun r => ⟨r.position, c.lines.drop r.position⟩ }

end Cursor
end CommandScript
