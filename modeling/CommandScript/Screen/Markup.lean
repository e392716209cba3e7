import CommandScript.Error
import CommandScript.Screen.Style

/-!
# Markup

Words in square brackets are tags that open and close styles. The screen has no
styles, so tags only vanish; a closing tag must answer an open one of its name. A
backslash in front makes a tag literal, and escaping a text puts one there. The
parameters of handlers and the parts of colours are not read.
-/

namespace CommandScript.Screen

def startsTag (c : Char) : Bool :=
  ('a' ≤ c && c ≤ 'z') || c = '#' || c = '/' || c = '@'

/-- The inside of the tag that a text starts with. -/
def leadingTag? : Text → Option Text
  | '[' :: c :: rest =>
    let body := rest.takeWhile fun c => c != '[' && c != ']'
    if startsTag c && (rest.dropWhile fun c => c != '[' && c != ']').head? = some ']' then
      some (c :: body)
    else none
  | _ => none

/-- A text in pieces: characters, and tags with the backslashes in front of them. -/
inductive MarkupPiece where
  | char (c : Char)
  | tag (position slashes : Nat) (inside : Text)
  deriving DecidableEq, Repr

namespace MarkupPiece

/-- The pieces of a text without its first `skip` characters; `position` counts
the characters in front. -/
def ofTextFrom : Nat → Nat → Text → List MarkupPiece
  | _, _, [] => []
  | skip + 1, position, _ :: rest => ofTextFrom skip (position + 1) rest
  | 0, position, c :: rest =>
    let slashes := (c :: rest).takeWhile (· = '\\')
    match leadingTag? ((c :: rest).drop slashes.length) with
    | some inside =>
      tag position slashes.length inside ::
        ofTextFrom (slashes.length + inside.length + 1) (position + 1) rest
    | none => char c :: ofTextFrom 0 (position + 1) rest

def ofText (t : Text) : List MarkupPiece := ofTextFrom 0 0 t

def escaped : MarkupPiece → Text
  | char c => [c]
  | tag _ slashes inside =>
    List.replicate (2 * slashes + 1) '\\' ++ ['['] ++ inside ++ [']']

end MarkupPiece

/-- A text written so that its tags are shown literally. A single backslash at the
end is doubled. -/
def escape (t : Text) : Text :=
  let written := (MarkupPiece.ofText t).flatMap MarkupPiece.escaped
  if Text.endsWith written "\\" && !Text.endsWith written "\\\\" then written ++ ['\\']
  else written

/-- Characters that are never shown: bell, backspace, vertical tab, form feed and
carriage return. -/
def isUnshown (c : Char) : Bool := [7, 8, 11, 12, 13].contains c.toNat

/-- Takes the backslash off an escaped bracket. -/
def bareBrackets : Text → Text
  | '\\' :: '[' :: rest => '[' :: bareBrackets rest
  | c :: rest => c :: bareBrackets rest
  | [] => []

def shownStretch (t : Text) : Text := withEmoji (bareBrackets t)

/-- Opens or closes a style: the styles that are open afterwards. -/
def applyTag (position : Nat) (inside : Text) (opened : List Text) : Except Error (List Text) :=
  let name := inside.takeWhile (· != '=')
  match name with
  | '/' :: closing =>
    if Text.trim closing = [] then
      match opened with
      | [] => .error (.nothingToClose position)
      | _ :: rest => .ok rest
    else
      let style := styleName closing
      if opened.contains style then .ok (opened.erase style)
      else .error (.unmatchedTag (['['] ++ inside ++ [']']) position)
  | name => .ok (styleName name :: opened)

/-- Shows pieces; `stretch` is the reversed text since the last tag, `opened` the
styles that are open, the innermost first. -/
def showPieces (stretch : Text) (opened : List Text) : List MarkupPiece → Except Error Text
  | [] => .ok (shownStretch stretch.reverse)
  | .char c :: rest => showPieces (c :: stretch) opened rest
  | .tag position slashes inside :: rest =>
    let front := shownStretch stretch.reverse ++ List.replicate (slashes / 2) '\\'
    if slashes % 2 = 1 then
      (showPieces [] opened rest).map fun back =>
        front ++ shownStretch (['['] ++ inside ++ [']']) ++ back
    else
      match applyTag (position + slashes / 2 * 2) inside opened with
      | .error e => .error e
      | .ok opened => (showPieces [] opened rest).map (front ++ ·)

/-- A text with markup as it is shown. -/
def shown (t : Text) : Except Error Text :=
  (if t.contains '[' then showPieces [] [] (MarkupPiece.ofText t) else .ok (withEmoji t)).map
    fun visible => visible.filter (!isUnshown ·)

end CommandScript.Screen
