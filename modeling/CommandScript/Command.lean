import CommandScript.Form.Statement

/-!
# Commands

Every line of a batch script is one command. The forms are tried in a fixed
order and the first that fits decides; a line that fits none is an ordinary
command, whose payload is the line itself.
-/

namespace CommandScript

/-- A recognised line and its payload. -/
inductive Command where
  | makeNewRoot (name : Text)
  | batch (reference : Text)
  | foreach
  | endOfLoop
  | properties (label reference : Text)
  | setProperty (key value : Text)
  | print (expression : Text)
  | saveTo (reference : Text)
  | useAsInput (value : Text)
  | sleep (digits : Text)
  | ordinary
  deriving DecidableEq, Repr

namespace Command

/-- The first form that fits a line without its echo keyword, none for an
ordinary command. -/
def recognize? (line : Text) : Option Command :=
  (Form.makeNewRoot? line).map makeNewRoot
  <|> (Form.batch? line).map batch
  <|> (if Form.isForeach line then some foreach else none)
  <|> (if Form.isEnd line then some endOfLoop else none)
  <|> (Form.properties? line).map (fun p => properties p.1 p.2)
  <|> (Form.setProperty? line).map (fun p => setProperty p.1 p.2)
  <|> (Form.print? line).map print
  <|> (Form.saveTo? line).map saveTo
  <|> (Form.useAsInput? line).map useAsInput
  <|> (Form.sleep? line).map sleep

def ofText (line : Text) : Command := (recognize? line).getD ordinary

def typeName : Command → Text
  | makeNewRoot _ => "makeNewRoot".toList
  | batch _ => "batch".toList
  | foreach => "foreach".toList
  | endOfLoop => "end".toList
  | properties .. => "properties".toList
  | setProperty .. => "setProperty".toList
  | print _ => "print".toList
  | saveTo _ => "saveTo".toList
  | useAsInput _ => "useAsInput".toList
  | sleep _ => "sleep".toList
  | ordinary => "ordinary".toList

def listingName : Command → Text
  | makeNewRoot _ => "MAKE_NEW_ROOT".toList
  | batch _ => "BATCH".toList
  | foreach => "FOREACH".toList
  | endOfLoop => "END".toList
  | properties .. => "PROPERTIES".toList
  | setProperty .. => "SET_PROPERTY".toList
  | print _ => "PRINT".toList
  | saveTo _ => "SAVE_TO".toList
  | useAsInput _ => "USE_AS_INPUT".toList
  | sleep _ => "SLEEP".toList
  | ordinary => "ORDINARY".toList

end Command

/-- Splits the echo keyword off a line: whether it was there, and the rest. -/
def splitEcho (line : Text) : Bool × Text :=
  match Form.echo? line with
  | some payload => (true, payload)
  | none => (false, line)

def withoutEcho (line : Text) : Text := (splitEcho line).2

end CommandScript
