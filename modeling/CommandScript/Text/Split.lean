import CommandScript.Text.Blank

/-!
# Splitting and joining texts

A text falls into pieces between the occurrences of a character, and the pieces
joined by that character are the text again.
-/

namespace CommandScript.Text

def splitAt (separator : Char) : Text → List Text
  | [] => [[]]
  | c :: rest =>
    if c = separator then [] :: splitAt separator rest
    else
      match splitAt separator rest with
      | [] => [[c]]
      | piece :: pieces => (c :: piece) :: pieces

def joinWith (separator : Text) : List Text → Text
  | [] => []
  | [t] => t
  | t :: rest => t ++ separator ++ joinWith separator rest

/-- The parts before and after the first occurrence of a character, none where it
does not occur. -/
def splitFirst? (separator : Char) : Text → Option (Text × Text)
  | [] => none
  | c :: rest =>
    if c = separator then some ([], rest)
    else (splitFirst? separator rest).map fun p => (c :: p.1, p.2)

end CommandScript.Text
