import CommandScript.Text.Blank

/-!
# Comments

A line that starts with a marker is a comment as a whole. Elsewhere a marker
ends the line unless it is escaped by a backslash or stands between two quotes
of one kind; a quote that no later character of its kind closes is plain text.
-/

namespace CommandScript

def isQuote (c : Char) : Bool := c = '"' || c = '\''

/-- The text starts with a marker that comments out the rest of a line. -/
def startsComment : Text → Bool
  | '#' :: _ => true
  | '/' :: '/' :: _ => true
  | _ => false

/-- The text starts with a marker that makes the whole line a comment. -/
def isCommentLine : Text → Bool
  | '#' :: _ => true
  | '/' :: '/' :: _ => true
  | '-' :: '-' :: _ => true
  | _ => false

/-- The offset of the first comment marker, read inside the given open quote. -/
def commentFrom (open? : Option Char) : Text → Option Nat
  | [] => none
  | ['\\'] => none
  | '\\' :: _ :: rest => (commentFrom open? rest).map (· + 2)
  | c :: rest =>
    match open? with
    | some quote =>
      (commentFrom (if c = quote then none else some quote) rest).map (· + 1)
    | none =>
      if isQuote c && rest.contains c then (commentFrom (some c) rest).map (· + 1)
      else if startsComment (c :: rest) then some 0
      else (commentFrom none rest).map (· + 1)

/-- The offset at which a trailing comment starts. -/
def commentStart? (line : Text) : Option Nat := commentFrom none line

end CommandScript
