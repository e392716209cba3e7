import CommandScript.Error
import CommandScript.Registry
import CommandScript.Resource.Files

/-!
# Sources

A source is a reference to a file (`@name`), a reference to a text held in
memory (`!name`), a text itself, a path, bytes or a stream. Reading it gives the
name under which messages mention it, and its raw text. Files may mark their
encoding, and every line end in them reads as a line feed; bytes and streams
keep their line ends.
-/

namespace CommandScript

inductive Source where
  | text (content : Text)
  | path (path : Text)
  | bytes (content : List UInt8)
  | textStream (name content : Text)
  | byteStream (name : Text) (content : List UInt8)
  | unsupported (typeName : Text)
  deriving DecidableEq, Repr

/-- What a script can reach: files, named texts, the environment, and a clock. -/
structure Resources where
  files : FileTree := .empty
  objects : Ordered Text := ∅
  environment : Table := ∅
  /-- The longest pause that the clock can keep, in seconds. A clock that only records pauses
  keeps them all. -/
  longestPause : Option Nat := none

namespace Resources

/-- The longest pause of a clock that counts nanoseconds in signed words of 64 bits. -/
def clockLimit : Nat := 9223372036854775807 / 1000000000

def keeps (r : Resources) (seconds : Nat) : Bool := r.longestPause.all (seconds ≤ ·)

/-- More nested sources than this many have to name one of them again. -/
def depthBound (r : Resources) : Nat :=
  1000 + r.files.entries.length + r.files.known.length + r.objects.size

/-- The length of all files and named texts together. -/
def size (r : Resources) : Nat :=
  r.files.size + (r.objects.entries.map (·.2.length)).foldl (· + ·) 0

end Resources

/-- Reads every line end as a line feed. -/
def universalNewlines : Text → Text
  | [] => []
  | '\r' :: '\n' :: rest => '\n' :: universalNewlines rest
  | '\r' :: rest => '\n' :: universalNewlines rest
  | c :: rest => c :: universalNewlines rest

def FileTree.read (files : FileTree) (path : Path) (reference : Text) : Except Error Text :=
  if path.toText.contains '\x00' then .error .nullInPath
  else
    match files.find path with
    | .missing => .error (.notFound reference none)
    | .nameTooLong => .error (.unreadable reference (.nameTooLong path.toText))
    | .found bytes =>
      match Utf8.decodeFile bytes with
      | .ok raw => .ok (universalNewlines raw)
      | .error fault => .error (.unreadable reference (.notUtf8 fault))

namespace Source

def streamName : Text := "<stream>".toList

def bytesName : Text := "<bytes>".toList

def decode (bytes : List UInt8) : Except Error Text :=
  (Utf8.decodeMarked bytes).mapError .notUtf8

def path? : Source → Option Path
  | .text ('@' :: name) => some (Path.ofText name)
  | .path spelling => some (Path.ofText spelling)
  | _ => none

def read (resources : Resources) : Source → Except Error (Text × Text)
  | .text content =>
    match content with
    | '@' :: name =>
      (resources.files.read (Path.ofText name) content).map (content, ·)
    | '!' :: name =>
      match resources.objects.find? name with
      | some raw => .ok (content, raw)
      | none => .error (.notFound content none)
    | _ => .ok (content, content)
  | .path spelling =>
    let place := Path.ofText spelling
    (resources.files.read place place.toText).map (place.toText, ·)
  | .bytes content => (decode content).map (bytesName, ·)
  | .textStream name content => .ok (name, content)
  | .byteStream name content => (decode content).map (name, ·)
  | .unsupported typeName => .error (.unsupportedSource typeName)

end Source
end CommandScript
