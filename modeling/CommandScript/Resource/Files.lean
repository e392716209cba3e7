import CommandScript.Resource.Path
import CommandScript.Text.Utf8

/-!
# The files a script may name

A file tree lists the files and directories below the current directory.
Resolving a path walks it name by name: a name is looked up only in a directory,
and a name or a path beyond the length limits is refused where the walk meets
it. What lies outside the tree is unknown and counts as missing.
-/

namespace CommandScript

inductive FileNode where
  | file (bytes : List UInt8)
  | directory
  deriving DecidableEq, Repr

/-- Files and directories by their names from the current directory down; the
directories above an entry need no entry of their own. Files may also be known by
their whole path, wherever they lie. -/
structure FileTree where
  entries : List (List Text × FileNode)
  known : List (Path × List UInt8) := []

/-- What a path leads to. A directory in a file's place is no file. -/
inductive FileLookup where
  | found (bytes : List UInt8)
  | missing
  | nameTooLong
  deriving DecidableEq, Repr

def nameLimit : Nat := 255

def pathLimit : Nat := 4095

namespace FileTree

def empty : FileTree := { entries := [] }

/-- The entry at a place, a directory also where only entries below it exist. -/
def node? (tree : FileTree) (place : List Text) : Option FileNode :=
  if place = [] then some .directory
  else
    match tree.entries.find? (·.1 = place) with
    | some entry => some entry.2
    | none => if tree.entries.any (place.isPrefixOf ·.1) then some .directory else none

def isTooLong (name : Text) : Bool := nameLimit < (Utf8.encode name).length

/-- Walks the names of a path outside the tree, where only parent steps lead on. -/
def walkOutside : List Text → FileLookup
  | [] => .missing
  | name :: rest =>
    if name = Path.parentName then walkOutside rest
    else if isTooLong name then .nameTooLong
    else .missing

/-- Walks the names of a path from a place in the tree. -/
def walk (tree : FileTree) (place : List Text) : List Text → FileLookup
  | [] =>
    match tree.node? place with
    | some (.file bytes) => .found bytes
    | _ => .missing
  | name :: rest =>
    match tree.node? place with
    | some .directory =>
      if name = Path.parentName then
        if place = [] then walkOutside rest else tree.walk place.dropLast rest
      else if isTooLong name then .nameTooLong
      else tree.walk (place ++ [name]) rest
    | _ => .missing

def search (tree : FileTree) (path : Path) : FileLookup :=
  if pathLimit < (Utf8.encode path.toText).length then .nameTooLong
  else if path.anchor = [] then tree.walk [] path.names
  else walkOutside path.names

def find (tree : FileTree) (path : Path) : FileLookup :=
  match tree.known.find? (·.1 = path) with
  | some found => .found found.2
  | none => tree.search path

def size (tree : FileTree) : Nat :=
  (tree.entries.map fun entry =>
    match entry.2 with
    | .file bytes => bytes.length
    | .directory => 0).foldl (· + ·) 0
  + (tree.known.map (·.2.length)).foldl (· + ·) 0

end FileTree
end CommandScript
