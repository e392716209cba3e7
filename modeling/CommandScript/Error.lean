import CommandScript.Text.Utf8

/-!
# What can go wrong

Every failure is a cause with the facts that its message reports. Errors that a
script author can act on are reportable; a defect is a fault of the scanner
itself; the rest concerns the way the library was called.
-/

namespace CommandScript

/-- Why an existing file could not be read. -/
inductive ReadFault where
  | nameTooLong (path : Text)
  | notUtf8 (fault : Utf8.Fault)
  deriving DecidableEq, Repr

namespace ReadFault

def message : ReadFault → Text
  | nameTooLong path => "[Errno 36] File name too long: " ++ path.quoted
  | notUtf8 fault => fault.message

end ReadFault

/-- Why the numeral of a pause is too long. -/
inductive NumeralFault where
  /-- It has more digits than can be read. -/
  | digits (count : Nat)
  /-- It asks for a longer pause than the clock can keep. -/
  | seconds
  deriving DecidableEq, Repr

namespace NumeralFault

private def digitLimitText : Text :=
  "Exceeds the limit (" ++ Text.ofNat digitLimit ++ " digits) for integer string conversion"

private def digitLimitAdvice : Text :=
  "; use sys.set_int_max_str_digits() to increase the limit".toList

def message : NumeralFault → Text
  | digits count =>
    digitLimitText ++ ": value has " ++ Text.ofNat count ++ " digits" ++ digitLimitAdvice
  | seconds => "timestamp too large to convert to C _PyTime_t".toList

/-- The message for a number that has too many digits to be written. -/
def unwritten : Text := digitLimitText ++ digitLimitAdvice

end NumeralFault

/-- A position in a source as messages write it: `-1` before anything was
opened. -/
abbrev Place := Option Nat

def Place.toText : Place → Text
  | none => "-1".toList
  | some n => Text.ofNat n

inductive Error where
  /-- A named file or object does not exist; `state` says where it was named. -/
  | notFound (reference : Text) (state : Option Text)
  | unreadable (reference : Text) (fault : ReadFault)
  /-- A definition on the command line without a key. -/
  | badDefinition (definition : Text)
  /-- A line was asked for behind the last one. -/
  | noMoreLines (place : Place) (state : Text)
  /-- A line was asked for when no ordinary line follows. -/
  | noNextLine (state : Text)
  | noCurrentLine (place : Place) (state : Text)
  /-- Strict expansion met a reference that no table defines. -/
  | undefinedReference (reference : Text)
  /-- A properties source holds a line that is neither record nor built-in. -/
  | notARecord (state : Text)
  /-- A line was taken for a built-in but is none. -/
  | mismatch (state : Text)
  | nothingToExecute (state : Text)
  /-- A defect with a text of its own. -/
  | defect (text : Text)
  | notUtf8 (fault : Utf8.Fault)
  | unsupportedSource (typeName : Text)
  | nullInPath
  | numeralTooLong (fault : NumeralFault)
  /-- A number has more digits than can be written. -/
  | numberTooLong
  /-- A closing tag that no open tag answers. -/
  | unmatchedTag (tag : Text) (position : Nat)
  /-- A bare closing tag with no open tag. -/
  | nothingToClose (position : Nat)
  /-- Sources are nested deeper than the bound allows. -/
  | tooDeep
  deriving DecidableEq, Repr

namespace Error

def message : Error → Text
  | notFound reference state =>
    "Resource not found: '" ++ reference ++ "'" ++
      match state with
      | none | some [] => []
      | some state => " (referenced from " ++ state ++ ")"
  | unreadable reference fault =>
    "Failure to read file [" ++ reference ++ "]: " ++ fault.message
  | badDefinition definition => "-D expects KEY=VALUE, got '" ++ definition ++ "'"
  | noMoreLines place state =>
    "next_line(): no more lines (line# " ++ place.toText ++ "). State: " ++ state
  | noNextLine state => "next_line(): has_next_line() is False. State: " ++ state
  | noCurrentLine place state =>
    "current_line(): invalid line# " ++ place.toText ++ ". State: " ++ state
  | undefinedReference reference => "Undefined macro reference '" ++ reference ++ "'"
  | notARecord state => "Not a valid KV-Pair: " ++ state
  | mismatch state =>
    "Line was peeked as a built-in but did not re-match: " ++ state
  | nothingToExecute state => "No current line to execute. State: " ++ state
  | defect text => text
  | notUtf8 fault => fault.message
  | unsupportedSource typeName => "Unsupported source type: " ++ typeName
  | nullInPath => "embedded null byte".toList
  | numeralTooLong fault => fault.message
  | numberTooLong => NumeralFault.unwritten
  | unmatchedTag tag position =>
    "closing tag '" ++ tag ++ "' at position " ++ Text.ofNat position ++
      " doesn't match any open tag"
  | nothingToClose position =>
    "closing tag '[/]' at position " ++ Text.ofNat position ++ " has nothing to close"
  | tooDeep => "maximum recursion depth exceeded".toList

/-- The errors a script author can act on. -/
def isReportable : Error → Bool
  | notFound .. | unreadable .. | badDefinition .. | noMoreLines .. | noNextLine ..
  | noCurrentLine .. | undefinedReference .. | notARecord .. => true
  | _ => false

/-- The faults of the scanner itself. -/
def isDefect : Error → Bool
  | mismatch .. | nothingToExecute .. | defect .. => true
  | _ => false

end Error
end CommandScript
