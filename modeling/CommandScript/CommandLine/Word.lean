import CommandScript.Text.Decimal
import CommandScript.Text.Split

/-!
# Words of a command line

A word of a command line is an operand or names options. A long option starts
with two dashes and may be shortened as long as one option only starts so; a short
option is a dash and a character, and short options may share one dash. A value
stands in the next word, or in the same one behind a short option or an equals
sign. Two dashes alone make operands of all words behind them.
-/

namespace CommandScript.CommandLine

/-- What naming an option means: a flag means it by itself, another option
together with its value. -/
inductive Use (α : Type) where
  | flag (meaning : α)
  | valued (meaning : Text → α)

abbrev OptionTable (α : Type) := List (Text × Use α)

/-- Text behind the name of an option in the same word. -/
inductive Attachment where
  | direct (text : Text)
  | afterEquals (text : Text)
  deriving DecidableEq, Repr

inductive Word (α : Type) where
  | operand (text : Text)
  /-- Looks like an option but names none. -/
  | unknown
  /-- Two dashes alone. -/
  | separator
  /-- Names an option, perhaps with text attached to it. -/
  | option (use : Use α) (attached : Option Attachment)

/-- A numeral with a leading minus sign is an operand, not an option. -/
def isNegativeNumeral (word : Text) : Bool :=
  match word with
  | '-' :: body =>
    let body := if Text.endsWith body ['\n'] then body.dropLast else body
    match Text.splitFirst? '.' body with
    | none => body != [] && body.all isDecimalDigit
    | some (whole, fraction) =>
      whole.all isDecimalDigit && fraction != [] && fraction.all isDecimalDigit
  | _ => false

namespace OptionTable

variable {α : Type}

def use? (table : OptionTable α) (name : Text) : Option (Use α) :=
  (List.find? (·.1 = name) table).map (·.2)

/-- The option that a word names in full, alone or in front of an equals sign. -/
def inFull? (table : OptionTable α) (word : Text) : Option (Word α) :=
  match table.use? word with
  | some use => some (.option use none)
  | none =>
    match Text.splitFirst? '=' word with
    | none => none
    | some (name, attached) =>
      (table.use? name).map fun use => .option use (some (.afterEquals attached))

/-- The options that a word names by a part: the front of a long name, or a short
name in front of more text. -/
def inPart? (table : OptionTable α) (word : Text) : List (Word α) :=
  match word with
  | '-' :: '-' :: _ =>
    let (name, attached) : Text × Option Attachment :=
      match Text.splitFirst? '=' word with
      | none => (word, none)
      | some (name, attached) => (name, some (.afterEquals attached))
    (table.filter (name.isPrefixOf ·.1)).map fun entry => .option entry.2 attached
  | '-' :: c :: attached =>
    (table.use? ['-', c]).toList.map fun use => .option use (some (.direct attached))
  | _ => []

/-- Reads one word in front of the separator, none where several options start
so. -/
def read? (table : OptionTable α) (word : Text) : Option (Word α) :=
  match word with
  | '-' :: _ :: _ =>
    match table.inFull? word with
    | some found => some found
    | none =>
      match table.inPart? word with
      | [] =>
        if isNegativeNumeral word || word.contains ' ' then some (.operand word)
        else some .unknown
      | [found] => some found
      | _ => none
  | _ => some (.operand word)

/-- Reads all words, each beside its text. -/
def readAll? (table : OptionTable α) : List Text → Option (List (Word α × Text))
  | [] => some []
  | word :: rest =>
    if word = ['-', '-'] then
      some ((.separator, word) :: rest.map fun text => (.operand text, text))
    else
      match table.read? word, table.readAll? rest with
      | some read, some more => some ((read, word) :: more)
      | _, _ => none

/-- What a word names: its meanings in order, what its last option makes of the next
word, and whether part of it names no option. -/
structure Named (α : Type) where
  meanings : List α
  awaiting : Option (Text → α) := none
  surplus : Bool := false

/-- Puts a meaning in front. -/
def Named.after (meaning : α) (named : Named α) : Named α :=
  { named with meanings := meaning :: named.meanings }

/-- What an option without attached text names. -/
def bare : Use α → Named α
  | .flag meaning => { meanings := [meaning] }
  | .valued meaning => { meanings := [], awaiting := some meaning }

/-- What an option with text behind an equals sign names; a flag has no value. -/
def equated? : Use α → Text → Option (Named α)
  | .flag _, _ => none
  | .valued meaning, text => some { meanings := [meaning text] }

/-- What a short option with text right behind its name names: the text is its
value, or after a flag more short options. A dash is none of them. -/
def joined? (table : OptionTable α) : Use α → Text → Option (Named α)
  | .valued meaning, text => some { meanings := [meaning text] }
  | .flag meaning, [] => some { meanings := [meaning] }
  | .flag meaning, c :: rest =>
    if c = '-' then none
    else
      match table.use? ['-', c] with
      | none => some { meanings := [meaning], surplus := true }
      | some use =>
        let more : Option (Named α) :=
          match rest with
          | [] => some (bare use)
          | '=' :: value => equated? use value
          | rest => table.joined? use rest
        more.map (Named.after meaning)

/-- What an option with what is attached to it names, none where text is attached
that cannot be. -/
def named? (table : OptionTable α) (use : Use α) : Option Attachment → Option (Named α)
  | none => some (bare use)
  | some (.afterEquals text) => equated? use text
  | some (.direct text) => table.joined? use text

end OptionTable
end CommandScript.CommandLine
