import CommandScript.Text.Quoted
import CommandScript.Yaml.Resolution

/-!
# Writing scalars

A text is written plain where that reads back as the same text, else between
single quotes, and between double quotes where it holds characters that need an
escape. Lines longer than the width are folded at single spaces.
-/

namespace CommandScript.Yaml

def lineWidth : Nat := 4096

def isBreak (c : Char) : Bool :=
  c = '\n' || c = '\u0085' || c = '\u2028' || c = '\u2029'

/-- What may stand behind a colon or in front of a comment mark. -/
def isSeparation (c : Char) : Bool :=
  isBreak c || c = '\x00' || c = ' ' || c = '\t' || c = '\r'

def isWritable (c : Char) : Bool :=
  let n := c.toNat
  (0x20 ≤ n && n ≤ 0x7E) || (0xA0 ≤ n && n ≤ 0xD7FF) ||
    (0xE000 ≤ n && n ≤ 0xFFFD && n != 0xFEFF) || 0x10000 ≤ n

/-- The three ways of writing a scalar. -/
inductive Style where
  | plain
  | singleQuoted
  | doubleQuoted
  deriving DecidableEq, Repr

/-- A character at the front, with the one behind it, that means something else
than text. -/
def isIndicator (c : Char) (next : Option Char) : Bool :=
  "#,[]\x7b\x7d&*!|>'\"%@\x60".toList.contains c ||
    ((c = '?' || c = ':' || c = '-') && next.all isSeparation)

/-- A colon before, or a comment mark behind, a separation within a text. -/
def hasInnerIndicator : Text → Bool
  | c :: d :: rest =>
    (d = ':' && rest.head?.all isSeparation) || (d = '#' && isSeparation c) ||
      hasInnerIndicator (d :: rest)
  | _ => false

/-- A space beside a line break. -/
def hasSpaceAtBreak : Text → Bool
  | c :: d :: rest =>
    (c = ' ' && isBreak d) || (isBreak c && d = ' ') || hasSpaceAtBreak (d :: rest)
  | _ => false

def allowsPlain (t : Text) : Bool :=
  !(Text.startsWith t "---" || Text.startsWith t "...") &&
  !(match t with
    | c :: rest => isIndicator c rest.head?
    | [] => true) &&
  !hasInnerIndicator t && t.all isWritable &&
  t.head? != some ' ' && t.getLast? != some ' ' && !t.any isBreak

/-- Single quotes suit a text that needs no escape and holds no single quote. -/
def allowsSingleQuoted (t : Text) : Bool :=
  t.all (fun c => (isWritable c || c = '\u0085') && c != '\'') && !hasSpaceAtBreak t

def styleOf (t : Text) : Style :=
  if readsAsText t && allowsPlain t then .plain
  else if allowsSingleQuoted t then .singleQuoted
  else .doubleQuoted

/-- A line feed and the indentation of the scalar. -/
def freshLine (indent : Nat) : Text := '\n' :: List.replicate indent ' '

def runs (t : Text) : List Text := t.splitBy fun a b =>
  (a = ' ' && b = ' ') || (isBreak a && isBreak b) ||
    !(a = ' ' || isBreak a || b = ' ' || isBreak b)

/-- Writes the runs of a plain scalar from a column on. A word that does not fit
goes to a line of its own. -/
def plainRuns (indent : Nat) (fold : Bool) (column : Nat) : List Text → Text
  | [] => []
  | run :: rest =>
    if run.head? = some ' ' then
      if run.length = 1 && lineWidth < column && fold then
        freshLine indent ++ plainRuns indent fold indent rest
      else run ++ plainRuns indent fold (column + run.length) rest
    else if lineWidth < column + run.length && indent < column && fold then
      freshLine indent ++ run ++ plainRuns indent fold (indent + run.length) rest
    else run ++ plainRuns indent fold (column + run.length) rest

/-- Writes the runs of a single-quoted scalar. A space is kept at the very front
and end. -/
def singleRuns (indent : Nat) (fold : Bool) (first : Bool) (column : Nat) : List Text → Text
  | [] => []
  | run :: rest =>
    match run with
    | [] => singleRuns indent fold false column rest
    | c :: _ =>
      if c = ' ' then
        if run.length = 1 && lineWidth < column && fold && !first && !rest.isEmpty then
          freshLine indent ++ singleRuns indent fold false indent rest
        else run ++ singleRuns indent fold false (column + run.length) rest
      else if isBreak c then
        run ++ List.replicate indent ' ' ++ singleRuns indent fold false indent rest
      else run ++ singleRuns indent fold false (column + run.length) rest

/-- The name of a character in an escape. -/
def escapeName? (c : Char) : Option Char :=
  match c.toNat with
  | 0 => some '0'
  | 7 => some 'a'
  | 8 => some 'b'
  | 9 => some 't'
  | 10 => some 'n'
  | 11 => some 'v'
  | 12 => some 'f'
  | 13 => some 'r'
  | 27 => some 'e'
  | 34 => some '"'
  | 92 => some '\\'
  | 0x85 => some 'N'
  | 0xA0 => some '_'
  | 0x2028 => some 'L'
  | 0x2029 => some 'P'
  | _ => none

def upperHex (width n : Nat) : Text := (Text.hex width n).map Char.toUpper

def escaped (c : Char) : Text :=
  match escapeName? c with
  | some name => ['\\', name]
  | none =>
    if c.toNat < 0x100 then '\\' :: 'x' :: upperHex 2 c.toNat
    else if c.toNat < 0x10000 then '\\' :: 'u' :: upperHex 4 c.toNat
    else '\\' :: 'U' :: upperHex 8 c.toNat

/-- A character that is escaped between double quotes. -/
def needsEscape (c : Char) : Bool :=
  c = '"' || c = '\\' || c = '\u2028' || c = '\u2029' || !isWritable c

/-- Whether a fold before `c`, with the rest behind it, can do without a backslash:
there is a word to fold, and it is free of quotes. -/
def foldsBare (previous c : Char) (rest : Text) : Bool :=
  let word := (c :: rest).takeWhile (· != ' ')
  (c :: rest).contains ' ' && !word.contains '"' && !word.contains '\'' &&
    rest.head? != some ' ' && !(previous = ' ' && c = ' ')

/-- Writes the rest of a double-quoted scalar. `pending` is the reversed text of the
current word, not yet counted in the column; `previous` is the character in front,
none at the start. -/
def doubleFrom (indent : Nat) (fold : Bool) (previous : Option Char) (pending : Text)
    (column : Nat) : Text → Text
  | [] => pending.reverse
  | c :: rest =>
    let inside := fold && previous.isSome && !rest.isEmpty
    let before := previous.getD ' '
    if needsEscape c then
      let front := pending.reverse ++ escaped c
      let column := column + front.length
      if inside && lineWidth < column - 1 then
        if foldsBare before c rest then
          front ++ freshLine indent ++
            doubleFrom indent fold (some c) [] indent rest
        else
          let lead := if rest.head? = some ' ' then ['\\'] else []
          front ++ ['\\'] ++ freshLine indent ++ lead ++
            doubleFrom indent fold (some c) [] (indent + lead.length) rest
      else front ++ doubleFrom indent fold (some c) [] column rest
    else if inside && (c = ' ' || pending.isEmpty) && lineWidth < column + pending.length then
      if foldsBare before c rest && !pending.isEmpty then
        pending.reverse ++ freshLine indent ++
          doubleFrom indent fold (some c) (if c = ' ' then [] else [c]) indent rest
      else
        let lead := if c = ' ' then ['\\'] else []
        pending.reverse ++ ['\\'] ++ freshLine indent ++ lead ++
          doubleFrom indent fold (some c) [c] (indent + lead.length) rest
    else doubleFrom indent fold (some c) (c :: pending) column rest

/-- A text written as a scalar from a column on; `indent` is where folded lines go
on, and only a scalar that may be folded is. -/
def scalar (indent column : Nat) (fold : Bool) (t : Text) : Text :=
  match styleOf t with
  | .plain => plainRuns indent fold column (runs t)
  | .singleQuoted => '\'' :: singleRuns indent fold true (column + 1) (runs t) ++ ['\'']
  | .doubleQuoted => '"' :: doubleFrom indent fold none [] (column + 1) t ++ ['"']

end CommandScript.Yaml
