import CommandScript.Screen.Markup
import CommandScript.Screen.Table
import CommandScript.Yaml.Document

/-!
# The screen

The display that the program runs with. It reads the markup of a text, a title or a cell, and
lays out what is shown of it.
-/

namespace CommandScript.Screen

namespace Table

/-- The table with its title and cells as they are shown. -/
def shown (marked : Table) : Except Error Table := do
  let title ← Screen.shown marked.title
  let rows ← marked.rows.mapM (·.mapM Screen.shown)
  return { marked with title, rows }

end Table

def display : Display where
  escape := escape
  print marked := (shown marked).map page
  table marked := marked.shown.map Table.draw
  panel marked := (shown marked.title).map fun title => Panel.draw { marked with title }
  document tables := .ok (Yaml.ofTables tables)

end CommandScript.Screen
