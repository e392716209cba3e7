import CommandScript.Command

/-!
# Built-in lines

A scanner executes its built-in lines and surfaces all others. Which lines are
built-in depends on its kind: every kind prints and includes, a script scanner
also pauses and sets properties, and a properties scanner takes records too.
-/

namespace CommandScript

/-- The kinds of executing scanners. -/
inductive Kind where
  /-- Executes `print` and `include`. -/
  | basic
  /-- Executes also `sleep`, `setProperty` and `properties`. -/
  | script
  /-- Executes also properties records, which a semicolon may separate. -/
  | records
  /-- Takes every line for a built-in, but executes `print` and `include` only. -/
  | eager
  deriving DecidableEq, Repr

/-- A line to execute, with its payload as written. -/
inductive Builtin where
  | includeSource (reference : Text)
  | print (expression : Text)
  | sleep (digits : Text)
  | setProperty (key value : Text)
  | properties (label reference : Text)
  | record (key : Text) (value : WrittenValue)
  deriving DecidableEq, Repr

namespace Builtin

def basic? (line : Text) : Option Builtin :=
  (Form.include? line).map includeSource <|> (Form.print? line).map print

def script? (line : Text) : Option Builtin :=
  (Form.sleep? line).map sleep
  <|> (Form.setProperty? line).map (fun p => setProperty p.1 p.2)
  <|> (Form.properties? line).map (fun p => properties p.1 p.2)

def record? (line : Text) : Option Builtin :=
  (Form.record? line).map fun p => record p.1 p.2

end Builtin

namespace Kind

/-- What a scanner does on a line without its echo keyword. -/
def builtin? (kind : Kind) (line : Text) : Option Builtin :=
  match kind with
  | basic | eager => Builtin.basic? line
  | script => Builtin.basic? line <|> Builtin.script? line
  | records => Builtin.basic? line <|> Builtin.script? line <|> Builtin.record? line

/-- The line, without its echo keyword, prints or includes. -/
def isBasic (line : Text) : Bool :=
  (Form.print? line).isSome || (Form.include? line).isSome

/-- The line, without its echo keyword, pauses or sets properties. -/
def isScript (line : Text) : Bool :=
  (Form.sleep? line).isSome || (Form.setProperty? line).isSome || (Form.properties? line).isSome

/-- A scanner takes the line for a built-in; nothing is done yet. -/
def recognizes (kind : Kind) (line : Text) : Bool :=
  let bare := withoutEcho line
  match kind with
  | basic => isBasic bare
  | script => isBasic bare || isScript bare
  | records => isBasic bare || isScript bare || (Form.record? bare).isSome
  | eager => true

def loadsTables : Kind → Bool
  | script | records => true
  | basic | eager => false

def separator : Kind → Option Text
  | records => some [';']
  | _ => none

end Kind
end CommandScript
