import CommandScript.Line.Comment
import CommandScript.Text.Decimal
import CommandScript.Text.Split

/-!
# Lines

Ingesting a raw text gives its lines: the records that are left after comments
and blank records are gone, each with the number of the raw line it stands on.
A raw line ends at a line feed or at a carriage return and line feed; an extra
separator may split it into several records, before comments are removed.
-/

namespace CommandScript

/-- A cleaned record and the number, from one on, of its raw line. -/
structure Line where
  number : Nat
  text : Text
  deriving DecidableEq, Repr

/-- How records are cleaned: `trim` drops blanks at both ends, `compress`
squeezes runs of blanks. -/
structure Cleaning where
  trim : Bool := true
  compress : Bool := true
  deriving DecidableEq, Repr

namespace Line

/-- Cuts a trailing comment off and the blanks in front of it. -/
def withoutComment (line : Text) : Text :=
  match commentStart? line with
  | some offset => Text.trimRight (line.take offset)
  | none => line

/-- The cleaned record, none when nothing of substance is left. -/
def clean? (how : Cleaning) (record : Text) : Option Text :=
  let line := if how.compress then Text.squeeze record else record
  if Text.allBlank line || isCommentLine line then none
  else
    let body := withoutComment line
    if Text.allBlank body then none
    else some (if how.trim then Text.trim body else body)

/-- Makes every carriage return and line feed one line feed. -/
def joinReturns : Text → Text
  | [] => []
  | '\r' :: '\n' :: rest => '\n' :: joinReturns rest
  | c :: rest => c :: joinReturns rest

/-- Drops byte order marks at the front and normalises line ends. -/
def normalize (raw : Text) : Text :=
  joinReturns (raw.dropWhile (· = '\uFEFF'))

/-- The pieces between the occurrences of a separator text, the first `skip`
characters being the rest of an occurrence. -/
def splitFrom (separator : Text) : Nat → Text → List Text
  | _, [] => [[]]
  | skip + 1, _ :: rest => splitFrom separator skip rest
  | 0, c :: rest =>
    if separator.isPrefixOf (c :: rest) then
      [] :: splitFrom separator (separator.length - 1) rest
    else
      match splitFrom separator 0 rest with
      | [] => [[c]]
      | piece :: pieces => (c :: piece) :: pieces

/-- The records of a raw line: the whole line without a separator, and every
character for itself with an empty one. -/
def records (separator : Option Text) (rawLine : Text) : List Text :=
  match separator with
  | none => [rawLine]
  | some [] => [] :: rawLine.map ([·]) ++ [[]]
  | some separator => splitFrom separator 0 rawLine

def numbered (raw : Text) : List (Text × Nat) :=
  (Text.splitAt '\n' (normalize raw)).zipIdx 1

/-- The records that survive cleaning, each beside its line, where any rule says how a raw
line falls into records. -/
def keptBy (how : Cleaning) (split : Text → List Text) (raw : Text) : List (Text × Line) :=
  (numbered raw).flatMap fun (rawLine, number) =>
    (split rawLine).filterMap fun record =>
      (clean? how record).map fun text => (record, ⟨number, text⟩)

def kept (how : Cleaning) (separator : Option Text) (raw : Text) : List (Text × Line) :=
  keptBy how (records separator) raw

/-- The lines of a raw text, where any rule says how a raw line falls into records. -/
def ingestBy (how : Cleaning) (split : Text → List Text) (raw : Text) : List Line :=
  (keptBy how split raw).map (·.2)

def ingest (how : Cleaning) (separator : Option Text) (raw : Text) : List Line :=
  (kept how separator raw).map (·.2)

end Line
end CommandScript
