import CommandScript.Display
import CommandScript.Text.Split
import CommandScript.Text.Width

/-!
# Laying text out in lines

A text is laid out in lines of a given width in cells: tabs go to the next stop,
words that do not fit go to the next line, and a word wider than a whole line is
folded or cut. Lines are filled with spaces as their alignment asks.
-/

namespace CommandScript.Screen

/-- What becomes of a word that is wider than a line. -/
inductive Overflow where
  | fold
  | ellipsis
  deriving DecidableEq, Repr

def screenWidth : Nat := 200

def tabStop : Nat := 8

def spaces (n : Nat) : Text := List.replicate n ' '

/-- Replaces tabs in a text that starts at a column by spaces up to the next stop. -/
def expandTabs (column : Nat) : Text → Text
  | [] => []
  | '\t' :: rest =>
    let width := tabStop - column % tabStop
    spaces width ++ expandTabs (column + width) rest
  | c :: rest => c :: expandTabs (column + cellWidth c) rest

/-- The words of a line, each with the blanks behind it, and the first with those
in front. A line of blanks has none. -/
def words (line : Text) : List Text :=
  match line.splitBy fun a b => !(isBlank a && !isBlank b) with
  | [] => []
  | first :: rest =>
    if Text.allBlank first then
      match rest with
      | [] => []
      | word :: rest => (first ++ word) :: rest
    else first :: rest

/-- Cuts a word into parts of at most `width` cells. -/
def chop (width : Nat) (part : Text) (filled : Nat) : Text → List Text
  | [] => [part.reverse]
  | c :: rest =>
    if width < filled + cellWidth c then part.reverse :: chop width [c] (cellWidth c) rest
    else chop width (c :: part) (filled + cellWidth c) rest

/-- Distributes words over lines. `line` is the text of the line so far, which
fills `filled` cells; no line is broken before the first word. -/
def fillLines (width : Nat) (overflow : Overflow) (first : Bool) (line : Text) (filled : Nat) :
    List Text → List Text
  | [] => [line]
  | word :: rest =>
    let length := Text.cells (Text.trimRight word)
    if length + filled ≤ width then
      fillLines width overflow false (line ++ word) (filled + Text.cells word) rest
    else if width < length && overflow = .fold then
      let parts := chop width [] 0 word
      let lead := if first then [] else [line]
      let last := parts.getLastD []
      lead ++ parts.dropLast ++ fillLines width overflow false last (Text.cells last) rest
    else if first then
      fillLines width overflow false word (Text.cells word) rest
    else line :: fillLines width overflow false word (Text.cells word) rest

def brokenLines (width : Nat) (overflow : Overflow) (line : Text) : List Text :=
  match words line with
  | [] => [line]
  | ws => fillLines width overflow true [] 0 ws

/-- Drops blanks at the end as far as they are beyond the width. -/
def dropExcess (width : Nat) (line : Text) : Text :=
  let blanks := (line.reverse.takeWhile isBlank).length
  line.take (line.length - min blanks (line.length - width))

/-- Cuts a line that is too wide. -/
def cut (width : Nat) (overflow : Overflow) (line : Text) : Text :=
  if Text.cells line ≤ width then line
  else
    match overflow with
    | .fold => Text.fitCells width line
    | .ellipsis => Text.fitCells (width - 1) line ++ ['…']

/-- Cuts and fills a line as its alignment asks. -/
def aligned (width : Nat) (alignment : Alignment) (overflow : Overflow) (line : Text) : Text :=
  match alignment with
  | .ragged => cut width overflow line
  | .left =>
    let line := cut width overflow line
    line ++ spaces (width - Text.cells line)
  | .right =>
    let line := cut width overflow (Text.trimRight line)
    spaces (width - Text.cells line) ++ line
  | .center =>
    let line := cut width overflow (Text.trimRight line)
    let excess := width - Text.cells line
    spaces (excess / 2) ++ line ++ spaces (excess - excess / 2)

def layOut (width : Nat) (alignment : Alignment) (overflow : Overflow) (t : Text) : List Text :=
  (Text.splitAt '\n' t).flatMap fun line =>
    (brokenLines width overflow (expandTabs 0 line)).map fun line =>
      aligned width alignment overflow (dropExcess width line)

def ended (lines : List Text) : Text := lines.flatMap (· ++ ['\n'])

/-- A text as it runs over the lines of the screen. -/
def page (t : Text) : Text := ended (layOut screenWidth .ragged .fold t)

end CommandScript.Screen
