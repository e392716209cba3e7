import CommandScript.Resource.Path
import CommandScript.Text.Decimal

/-!
# Events

What a run does to the outside is a list of events in the order of their
happening: text written to the output, text drawn on the screen, pauses,
requests to replay the last output, log records, and the files looked for.
-/

namespace CommandScript

inductive LogLevel where
  | debug
  | info
  | warning
  deriving DecidableEq, Repr

/-- The part of the program that a log record comes from. -/
inductive LogChannel where
  | ingestion
  | cursor
  | builtins
  | script
  | properties
  | classifier
  | expansion
  | registry
  deriving DecidableEq, Repr

structure LogRecord where
  level : LogLevel
  channel : LogChannel
  message : Text
  deriving DecidableEq, Repr

inductive Event where
  | wrote (text : Text)
  | drew (text : Text)
  | paused (seconds : Nat)
  | replayed
  | logged (entry : LogRecord)
  | sought (path : Path)
  deriving DecidableEq, Repr

namespace LogLevel

def name : LogLevel → Text
  | debug => "DEBUG".toList
  | info => "INFO".toList
  | warning => "WARNING".toList

end LogLevel

namespace LogChannel

def name : LogChannel → Text
  | ingestion => "linescribe.ingest".toList
  | cursor => "linescribe.scanner".toList
  | builtins => "linescribe.builtins".toList
  | script => "linescribe.script".toList
  | properties => "linescribe.properties".toList
  | classifier => "linescribe.grammar".toList
  | expansion => "linescribe.macros".toList
  | registry => "linescribe.registry".toList

end LogChannel

def LogRecord.line (r : LogRecord) : Text :=
  r.level.name ++ " " ++ r.channel.name ++ ": " ++ r.message

namespace Event

def written (events : List Event) : Text :=
  events.flatMap fun
    | wrote text => text
    | _ => []

def drawn (events : List Event) : Text :=
  events.flatMap fun
    | drew text => text
    | _ => []

/-- What was written and what was drawn, in order, in one text. -/
def shown (events : List Event) : Text :=
  events.flatMap fun
    | wrote text => text
    | drew text => text
    | _ => []

def pauses (events : List Event) : List Nat :=
  events.filterMap fun
    | paused seconds => some seconds
    | _ => none

def replays (events : List Event) : Nat := events.count replayed

def log (events : List Event) : List LogRecord :=
  events.filterMap fun
    | logged entry => some entry
    | _ => none

/-- The files that were looked for. -/
def soughtPaths (events : List Event) : List Path :=
  events.filterMap fun
    | sought path => some path
    | _ => none

end Event
end CommandScript
