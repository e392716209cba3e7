import CommandScript.Registry
import CommandScript.Yaml.Scalar

/-!
# A registry as a YAML document

The document is a block mapping from labels to block mappings from keys to
values, in registry order, indented by two columns. A key that is long or spans
lines is marked by a question mark and its value follows on the next line. An
empty mapping is written as a pair of braces.
-/

namespace CommandScript.Yaml

/-- The length, with that of the tag of texts, below which a key is simple. -/
def simpleKeyLimit : Nat := 128

/-- The length of the tag of texts. -/
def textTagLength : Nat := 5

def isSimpleKey (key : Text) : Bool :=
  key.length + textTagLength < simpleKeyLimit && !key.any isBreak

def indentStep : Nat := 2

/-- A key at an indentation, up to its colon. -/
def keyAt (indent : Nat) (key : Text) : Text :=
  let inner := indent + indentStep
  if isSimpleKey key then scalar inner indent false key ++ [':']
  else
    ['?', ' '] ++ scalar inner inner true key ++ ['\n'] ++ List.replicate indent ' ' ++ [':']

/-- The column behind the colon of a key. -/
def columnAfterKey (indent : Nat) (key : Text) : Nat :=
  if isSimpleKey key then indent + (keyAt indent key).length else indent + 1

/-- One entry of a table, on a line at an indentation. -/
def entryAt (indent : Nat) (key value : Text) : Text :=
  keyAt indent key ++ [' '] ++
    scalar (indent + indentStep) (columnAfterKey indent key + 1) true value ++ ['\n']

/-- The entries of a table, the first on a line that has been indented. -/
def entriesAt (indent : Nat) : List (Text × Text) → Text
  | [] => []
  | [(key, value)] => entryAt indent key value
  | (key, value) :: rest =>
    entryAt indent key value ++ List.replicate indent ' ' ++ entriesAt indent rest

def labelled (label : Text) (table : Table) : Text :=
  let key := keyAt 0 label
  match table.entries with
  | [] => key ++ " \x7b\x7d\n"
  | entries =>
    if isSimpleKey label then
      key ++ "\n" ++ List.replicate indentStep ' ' ++ entriesAt indentStep entries
    else key ++ " " ++ entriesAt indentStep entries

def ofTables : List (Text × Table) → Text
  | [] => "\x7b\x7d\n".toList
  | tables => tables.flatMap fun (label, table) => labelled label table

/-- A registry as a document, without the labels that are left out. -/
def document (registry : Registry) (leftOut : List Text) : Text :=
  ofTables (registry.without leftOut)

end CommandScript.Yaml
