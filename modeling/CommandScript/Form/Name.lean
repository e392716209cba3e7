import CommandScript.Text.Blank

/-!
# Names and references

Names are what statements speak of: keys, labels, files and objects. A name
starts with a letter, a digit, a dollar sign, a slash, an underscore or a dot,
and may go on with braces, percent, at, comma, colon, plus and minus signs, so a
macro reference can be part of a name. A reference is a name with a marker in
front: `@` for a file, `!` for an object, and before that `?` when the resource
may be missing.
-/

namespace CommandScript

def isAsciiAlphanumeric (c : Char) : Bool :=
  ('a' ≤ c && c ≤ 'z') || ('A' ≤ c && c ≤ 'Z') || ('0' ≤ c && c ≤ '9')

def startsName (c : Char) : Bool := isAsciiAlphanumeric c || "$_/.".toList.contains c

def continuesName (c : Char) : Bool :=
  isAsciiAlphanumeric c || "$\x7b\x7d@%.,:_/+-".toList.contains c

/-- The characters of a value that needs no reference: those of a name, quotes,
square brackets and the space. -/
def isInline (c : Char) : Bool := continuesName c || "'\" []".toList.contains c

/-- The characters of the key of a properties record. -/
def isKey (c : Char) : Bool := continuesName c || "()|".toList.contains c

namespace Text

def isName : Text → Bool
  | [] => false
  | c :: rest => startsName c && rest.all continuesName

/-- Drops one leading question mark. -/
def withoutMark : Text → Text
  | '?' :: rest => rest
  | t => t

/-- Splits the mark off a reference to something that may be missing. -/
def splitOptional : Text → Bool × Text
  | '?' :: rest => (true, rest)
  | t => (false, t)

/-- A marker and a name, perhaps marked as optional. -/
def isObjectReference (t : Text) : Bool :=
  match withoutMark t with
  | '@' :: name => isName name
  | '!' :: name => isName name
  | _ => false

/-- A name, perhaps with a marker and marked as optional: a file by default. -/
def isFileReference (t : Text) : Bool :=
  isObjectReference t || isName (withoutMark t)

/-- A name, perhaps marked as guarded. -/
def isGuardedName (t : Text) : Bool := isName (withoutMark t)

/-- A reference with `@` or `!`, a file when it has neither. -/
def asFileReference : Text → Text
  | '@' :: name => '@' :: name
  | '!' :: name => '!' :: name
  | t => '@' :: t

end Text
end CommandScript
