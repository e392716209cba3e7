import CommandScript.Text.Decimal
import CommandScript.Text.Quoted

/-!
# UTF-8

Encoding writes each character in one to four bytes. Decoding reads exactly the
shortest forms of Unicode scalar values, and a failure names the bytes at fault:
a byte that starts no character, a character broken off by a wrong byte, or one
broken off by the end of the data.
-/

namespace CommandScript

namespace Utf8

/-- Why bytes are not UTF-8, with the span of the bytes at fault. -/
inductive Fault where
  | invalidStart (position : Nat) (byte : UInt8)
  | invalidContinuation (position length : Nat) (byte : UInt8)
  | unexpectedEnd (position length : Nat) (byte : UInt8)
  deriving DecidableEq, Repr

namespace Fault

private def place (position length : Nat) (byte : UInt8) : Text :=
  if length = 1 then
    "byte 0x" ++ Text.hex 2 byte.toNat ++ " in position " ++ Text.ofNat position
  else
    "bytes in position " ++ Text.ofNat position ++ "-" ++ Text.ofNat (position + length - 1)

def message : Fault → Text
  | invalidStart p b => "'utf-8' codec can't decode " ++ place p 1 b ++ ": invalid start byte"
  | invalidContinuation p n b =>
    "'utf-8' codec can't decode " ++ place p n b ++ ": invalid continuation byte"
  | unexpectedEnd p n b =>
    "'utf-8' codec can't decode " ++ place p n b ++ ": unexpected end of data"

end Fault

def encodeChar (c : Char) : List UInt8 :=
  let n := c.toNat
  if n < 0x80 then [n.toUInt8]
  else if n < 0x800 then [(0xC0 + n / 0x40).toUInt8, (0x80 + n % 0x40).toUInt8]
  else if n < 0x10000 then
    [(0xE0 + n / 0x1000).toUInt8, (0x80 + n / 0x40 % 0x40).toUInt8, (0x80 + n % 0x40).toUInt8]
  else
    [(0xF0 + n / 0x40000).toUInt8, (0x80 + n / 0x1000 % 0x40).toUInt8,
      (0x80 + n / 0x40 % 0x40).toUInt8, (0x80 + n % 0x40).toUInt8]

def encode (t : Text) : List UInt8 := t.flatMap encodeChar

def isTail (b : UInt8) : Bool := 0x80 ≤ b && b < 0xC0

/-- The second bytes that may follow the first byte of a three- or four-byte
character: they exclude longer than shortest forms, surrogates and values above
the last code point. -/
def isSecond (first b : UInt8) : Bool :=
  isTail b && (first != 0xE0 || 0xA0 ≤ b) && (first != 0xED || b < 0xA0) &&
    (first != 0xF0 || 0x90 ≤ b) && (first != 0xF4 || b < 0x90)

/-- The character of a first byte, whose lead bits are taken off, and continuation bytes. -/
def value (lead : Nat) (first : UInt8) (tails : List UInt8) : Char :=
  Char.ofNat (tails.foldl (fun n b => n * 0x40 + (b.toNat - 0x80)) (first.toNat - lead))

/-- Decodes bytes of which `position` others stand in front. -/
def decodeFrom (position : Nat) : List UInt8 → Except Fault Text
  | [] => .ok []
  | a :: rest =>
    if a < 0x80 then (decodeFrom (position + 1) rest).map (Char.ofNat a.toNat :: ·)
    else if a < 0xC2 then .error (.invalidStart position a)
    else if a < 0xE0 then
      match rest with
      | [] => .error (.unexpectedEnd position 1 a)
      | b :: rest =>
        if !isTail b then .error (.invalidContinuation position 1 a)
        else (decodeFrom (position + 2) rest).map (value 0xC0 a [b] :: ·)
    else if a < 0xF0 then
      match rest with
      | [] => .error (.unexpectedEnd position 1 a)
      | [b] =>
        if !isSecond a b then .error (.invalidContinuation position 1 a)
        else .error (.unexpectedEnd position 2 a)
      | b :: c :: rest =>
        if !isSecond a b then .error (.invalidContinuation position 1 a)
        else if !isTail c then .error (.invalidContinuation position 2 a)
        else (decodeFrom (position + 3) rest).map (value 0xE0 a [b, c] :: ·)
    else if a < 0xF5 then
      match rest with
      | [] => .error (.unexpectedEnd position 1 a)
      | [b] =>
        if !isSecond a b then .error (.invalidContinuation position 1 a)
        else .error (.unexpectedEnd position 2 a)
      | [b, c] =>
        if !isSecond a b then .error (.invalidContinuation position 1 a)
        else if !isTail c then .error (.invalidContinuation position 2 a)
        else .error (.unexpectedEnd position 3 a)
      | b :: c :: d :: rest =>
        if !isSecond a b then .error (.invalidContinuation position 1 a)
        else if !isTail c then .error (.invalidContinuation position 2 a)
        else if !isTail d then .error (.invalidContinuation position 3 a)
        else (decodeFrom (position + 4) rest).map (value 0xF0 a [b, c, d] :: ·)
    else .error (.invalidStart position a)

def decode (bytes : List UInt8) : Except Fault Text := decodeFrom 0 bytes

/-- Decodes after one leading byte order mark, which is not part of the text;
positions of faults count from behind it. -/
def decodeMarked : List UInt8 → Except Fault Text
  | 0xEF :: 0xBB :: 0xBF :: rest => decode rest
  | bytes => decode bytes

/-- The text of a file: bytes that are no more than the beginning of a byte
order mark hold no text. -/
def decodeFile : List UInt8 → Except Fault Text
  | [0xEF] => .ok []
  | [0xEF, 0xBB] => .ok []
  | bytes => decodeMarked bytes

end Utf8
end CommandScript
