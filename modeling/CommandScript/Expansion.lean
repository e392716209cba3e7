import CommandScript.Error
import CommandScript.Registry

/-!
# Macro expansion

A reference `${name}` stands for the value of the name in the first table that
defines it. One pass replaces every reference of a text once; a value may bring
new references in or close open ones, so passes repeat until one changes nothing
or their number is used up. References never overlap, because a name holds no
dollar sign and no brace. An unknown reference stays as it is written, or is an
error in strict expansion.
-/

namespace CommandScript

/-- A character of the name in a reference. -/
def inReference (c : Char) : Bool := c != '$' && c != '\x7b' && c != '\x7d'

/-- A text is a sequence of plain characters and references. -/
inductive Piece where
  | plain (c : Char)
  | reference (name : Text)
  deriving DecidableEq, Repr

namespace Piece

def written : Piece → Text
  | plain c => [c]
  | reference name => '$' :: '\x7b' :: name ++ ['\x7d']

/-- The name of the reference that the text starts with. -/
def leading? : Text → Option Text
  | '$' :: '\x7b' :: rest =>
    match rest.takeWhile inReference, rest.dropWhile inReference with
    | [], _ => none
    | name, '\x7d' :: _ => some name
    | _, _ => none
  | _ => none

/-- The pieces of a text without its first `skip` characters. -/
def ofTextFrom : Nat → Text → List Piece
  | _, [] => []
  | skip + 1, _ :: rest => ofTextFrom skip rest
  | 0, c :: rest =>
    match leading? (c :: rest) with
    | some name => reference name :: ofTextFrom (name.length + 2) rest
    | none => plain c :: ofTextFrom 0 rest

/-- The pieces of a text, which written in a row give it back. -/
def ofText (t : Text) : List Piece := ofTextFrom 0 t

/-- The half-open spans of the references among pieces that start at an offset. -/
def spans (offset : Nat) : List Piece → List (Nat × Nat)
  | [] => []
  | plain _ :: rest => spans (offset + 1) rest
  | reference name :: rest =>
    (offset, offset + name.length + 3) :: spans (offset + name.length + 3) rest

end Piece

/-- How references are expanded. -/
structure Expander where
  /-- An unknown reference is an error. -/
  strict : Bool := false
  /-- The greatest number of passes. -/
  passes : Nat := 16
  deriving DecidableEq, Repr

namespace Expander

def piece (e : Expander) (registry : Registry) : Piece → Except Error Text
  | .plain c => .ok [c]
  | .reference name =>
    match registry.lookup name with
    | some value => .ok value
    | none =>
      let written := (Piece.reference name).written
      if e.strict then .error (.undefinedReference written) else .ok written

def pieces (e : Expander) (registry : Registry) : List Piece → Except Error Text
  | [] => .ok []
  | p :: rest =>
    match e.piece registry p with
    | .error fault => .error fault
    | .ok front =>
      match e.pieces registry rest with
      | .error fault => .error fault
      | .ok back => .ok (front ++ back)

def pass (e : Expander) (registry : Registry) (t : Text) : Except Error Text :=
  e.pieces registry (Piece.ofText t)

/-- At most `n` passes, up to the first that changes nothing. -/
def run (e : Expander) (registry : Registry) : Nat → Text → Except Error Text
  | 0, t => .ok t
  | n + 1, t =>
    match e.pass registry t with
    | .error fault => .error fault
    | .ok u => if u = t then .ok t else e.run registry n u

def expand (e : Expander) (registry : Registry) (t : Text) : Except Error Text :=
  e.run registry e.passes t

end Expander
end CommandScript
