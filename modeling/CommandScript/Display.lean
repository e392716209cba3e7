import CommandScript.Error
import CommandScript.Registry

/-!
# Displays

The program draws by a library that it does not hold. Texts that the library draws have markup:
words in square brackets are tags, and a text has to be escaped to be drawn as it is. Another
library writes tables as a document.
-/

namespace CommandScript

namespace Screen

inductive Alignment where
  /-- At the left, not filled. -/
  | ragged
  | left
  | right
  | center
  deriving DecidableEq, Repr

structure Column where
  header : Text
  alignment : Alignment

structure Table where
  title : Text
  columns : List Column
  rows : List (List Text)

/-- A frame around lines of text, with a title. -/
structure Panel where
  title : Text
  content : Text

end Screen

/-- What the program draws and writes with. -/
structure Display where
  /-- Writes a text so that it is drawn as it is. -/
  escape : Text → Text
  /-- Draws a text with markup. -/
  print : Text → Except Error Text
  /-- Draws a table whose title and cells have markup. -/
  table : Screen.Table → Except Error Text
  /-- Draws a panel whose title has markup. -/
  panel : Screen.Panel → Except Error Text
  /-- Writes tables with their labels. -/
  document : List (Text × Table) → Except Error Text

end CommandScript
