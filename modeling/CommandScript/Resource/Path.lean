import CommandScript.Text.Split

/-!
# File paths

A path is an anchor and the names between slashes; empty names and single dots
say nothing and are dropped, so one file has many spellings and one path. Two
leading slashes make an anchor of their own, any other number makes one slash.
-/

namespace CommandScript

structure Path where
  /-- Empty for a relative path, else one or two slashes. -/
  anchor : Text
  names : List Text
  deriving DecidableEq, Repr

namespace Path

def anchorOf : Text → Text
  | ['/', '/'] => ['/', '/']
  | '/' :: '/' :: '/' :: _ => ['/']
  | '/' :: '/' :: _ => ['/', '/']
  | '/' :: _ => ['/']
  | _ => []

def ofText (t : Text) : Path where
  anchor := anchorOf t
  names := (Text.splitAt '/' t).filter fun name => name != [] && name != ['.']

/-- The one spelling of a path; the path without names is a dot. -/
def toText (path : Path) : Text :=
  match path.anchor ++ Text.joinWith ['/'] path.names with
  | [] => ['.']
  | spelling => spelling

def parentName : Text := ['.', '.']

end Path
end CommandScript
