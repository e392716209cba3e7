import CommandScript.Form.Name
import CommandScript.Text.Decimal
import CommandScript.Text.Split

/-!
# The forms of statements

Each recogniser reads one form of line and gives its payload. A keyword is
followed by blanks and a payload, and blanks around the whole do not matter. The
payload of `print` and `echo` is any text on one line; an inline value keeps the
spaces behind it; all other payloads are free of blanks.
-/

namespace CommandScript

namespace Form

/-- What follows a keyword and at least one blank, without the blanks between. -/
def afterKeyword? (keyword line : Text) : Option Text :=
  match Text.after? keyword (Text.trimLeft line) with
  | some (c :: rest) => if isBlank c then some (Text.trimLeft rest) else none
  | _ => none

/-- The payload of a keyword with the blanks behind it cut off. -/
def payload? (keyword line : Text) : Option Text :=
  (afterKeyword? keyword line).map Text.trimRight

/-- The keyword `echo` and a payload of at least two characters. -/
def echo? (line : Text) : Option Text :=
  (payload? "echo" line).filter fun p => 2 ≤ p.length && !p.contains '\n'

/-- The keyword `print` and a payload of at least one character. -/
def print? (line : Text) : Option Text :=
  (payload? "print" line).filter fun p => 1 ≤ p.length && !p.contains '\n'

/-- The keyword `include` and a reference with a marker. -/
def include? (line : Text) : Option Text :=
  (payload? "include" line).filter Text.isObjectReference

/-- The keyword `sleep` and a numeral in digits of any script. -/
def sleep? (line : Text) : Option Text :=
  (payload? "sleep" line).filter fun p => p != [] && p.all isDecimalDigit

/-- The keyword `makeNewRoot` and a name. -/
def makeNewRoot? (line : Text) : Option Text :=
  (payload? "makeNewRoot" line).filter Text.isName

/-- The keyword `batch` and a file reference. -/
def batch? (line : Text) : Option Text :=
  (payload? "batch" line).filter Text.isFileReference

/-- The keyword `saveTo` and a reference with a marker. -/
def saveTo? (line : Text) : Option Text :=
  (payload? "saveTo" line).filter Text.isObjectReference

/-- An inline value: all inline characters at the front, nothing but blanks behind. -/
def inlineValue? (t : Text) : Option Text :=
  let value := t.takeWhile isInline
  if value != [] && Text.allBlank (t.dropWhile isInline) then some value else none

/-- The keyword `setProperty`, a name perhaps marked as guarded, an equals sign and an
inline value. -/
def setProperty? (line : Text) : Option (Text × Text) := do
  let (key, rest) ← Text.splitFirst? '=' (← afterKeyword? "setProperty" line)
  let value ← inlineValue? rest
  if Text.isGuardedName key then some (key, value) else none

/-- The keyword `properties`, a name, an equals sign and a file reference. -/
def properties? (line : Text) : Option (Text × Text) := do
  let (label, reference) ← Text.splitFirst? '=' (← payload? "properties" line)
  if Text.isName label && Text.isFileReference reference then some (label, reference)
  else none

/-- The text is one word, in letters of either case. -/
def isKeywordLine (keyword line : Text) : Bool :=
  (Text.trim line).map Char.toLower = keyword

def isForeach (line : Text) : Bool := isKeywordLine "foreach" line

def isEnd (line : Text) : Bool := isKeywordLine "end" line

/-- Where nothing but blanks follows a keyword, the last space that has a blank
before it and no space behind it counts as an inline value. -/
def spaceValue? (blanks : Text) : Option Text :=
  match blanks.reverse.dropWhile (· != ' ') with
  | ' ' :: _ :: _ => some [' ']
  | _ => none

/-- The keyword `useAsInput` and a reference with a marker or an inline value. -/
def useAsInput? (line : Text) : Option Text :=
  match Text.after? "useAsInput" (Text.trimLeft line) with
  | some (c :: rest) =>
    if !isBlank c then none
    else if Text.allBlank rest then spaceValue? (c :: rest)
    else
      let value := Text.trimLeft rest
      if Text.isObjectReference (Text.trimRight value) then some (Text.trimRight value)
      else inlineValue? value
  | _ => none

end Form

/-- The value of a properties record as it is written. -/
inductive WrittenValue where
  | doubleQuoted (inside : Text)
  | singleQuoted (inside : Text)
  | bare (value : Text)
  deriving DecidableEq, Repr

namespace WrittenValue

def text : WrittenValue → Text
  | doubleQuoted inside => inside
  | singleQuoted inside => inside
  | bare value => value

/-- A text of at least two characters that starts and ends with `quote`. -/
def insideOf? (quote : Char) : Text → Option Text
  | c :: d :: rest =>
    if c = quote && (d :: rest).getLast? = some quote then some (d :: rest).dropLast else none
  | _ => none

/-- How a value without blanks at its ends is written. -/
def ofText (t : Text) : WrittenValue :=
  match insideOf? '"' t with
  | some inside => doubleQuoted inside
  | none =>
    match insideOf? '\'' t with
    | some inside => singleQuoted inside
    | none => bare t

end WrittenValue

/-- A properties record: a key, an equals sign with blanks around it, and a value
that may be quoted and may be empty. -/
def Form.record? (line : Text) : Option (Text × WrittenValue) :=
  let line := Text.trimLeft line
  let key := line.takeWhile isKey
  match Text.trimLeft (line.dropWhile isKey) with
  | '=' :: rest =>
    let value := Text.trim rest
    if key != [] && !value.contains '\n' then some (key, .ofText value) else none
  | _ => none

end CommandScript
