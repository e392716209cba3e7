import CommandScript.Text.Blank

/-!
# What a plain scalar is read as

A YAML reader takes an unquoted scalar for a null, a truth value, a number, a
point in time or a special key where its spelling fits, and for a text otherwise.
A text whose spelling fits must be quoted. The rules are those of the YAML 1.2
core schema, widened by binary integers, underscores in numbers and timestamps.
-/

namespace CommandScript.Yaml

def isDigit (c : Char) : Bool := '0' ≤ c && c ≤ '9'

def isDigitOrUnderscore (c : Char) : Bool := isDigit c || c = '_'

def isHexadecimal (c : Char) : Bool :=
  isDigit c || ('a' ≤ c && c ≤ 'f') || ('A' ≤ c && c ≤ 'F')

def isSign (c : Char) : Bool := c = '-' || c = '+'

def unsigned : Text → Text
  | '-' :: rest => rest
  | '+' :: rest => rest
  | t => t

def isRun (inClass : Char → Bool) (t : Text) : Bool := t != [] && t.all inClass

def isOneOf (words : List String) (t : Text) : Bool := words.any fun word => word.toList = t

def isNull (t : Text) : Bool := t = [] || isOneOf ["~", "null", "Null", "NULL"] t

def isTruthValue (t : Text) : Bool :=
  isOneOf ["true", "True", "TRUE", "false", "False", "FALSE"] t

/-- Merge and value keys. -/
def isSpecialKey (t : Text) : Bool := isOneOf ["<<", "="] t

/-- Integers: binary, octal, decimal or hexadecimal digits with underscores. -/
def isInteger (t : Text) : Bool :=
  (match t with
    | c :: _ => isSign c || isDigit c
    | [] => false) &&
  (isRun isDigitOrUnderscore (unsigned t) ||
    match unsigned t with
    | '0' :: 'b' :: rest => isRun (fun c => c = '0' || c = '1' || c = '_') rest
    | '0' :: 'o' :: rest => isRun (fun c => ('0' ≤ c && c ≤ '7') || c = '_') rest
    | '0' :: 'x' :: rest => isRun (fun c => isHexadecimal c || c = '_') rest
    | _ => false)

/-- A decimal exponent; its sign may have to be written. -/
def isExponent (signed : Bool) : Text → Bool
  | 'e' :: rest => digits rest
  | 'E' :: rest => digits rest
  | _ => false
where
  digits (rest : Text) : Bool :=
    match rest with
    | c :: tail => if isSign c then isRun isDigit tail else !signed && isRun isDigit rest
    | [] => false

/-- Decimal fractions, and the words for infinities and for no number. -/
def isFraction (t : Text) : Bool :=
  match unsigned t with
  | '.' :: rest =>
    let tail := rest.dropWhile isDigitOrUnderscore
    isOneOf ["inf", "Inf", "INF"] rest ||
      (t.head? = some '.' && isOneOf ["nan", "NaN", "NAN"] rest) ||
      (rest.head?.any isDigitOrUnderscore && (tail = [] || isExponent true tail))
  | c :: rest =>
    isDigit c &&
      match rest.dropWhile isDigitOrUnderscore with
      | '.' :: places =>
        let tail := places.dropWhile isDigitOrUnderscore
        tail = [] || isExponent false tail
      | tail => isExponent false tail
  | [] => false

/-- Reads between `least` and `most` digits, as many as there are. -/
def afterDigits? (least most : Nat) (t : Text) : Option Text :=
  let digits := (t.take most).takeWhile isDigit
  if least ≤ digits.length then some (t.drop digits.length) else none

/-- The zone of a point in time, perhaps after blanks, or nothing. -/
def isZone (t : Text) : Bool :=
  match t.dropWhile (fun c => c = ' ' || c = '\t') with
  | [] => true
  | ['Z'] => true
  | c :: rest =>
    isSign c &&
      match afterDigits? 1 2 rest with
      | some [] => true
      | some (':' :: minutes) => minutes.length = 2 && minutes.all isDigit
      | _ => false

/-- Hours, minutes, seconds, places and zone. -/
def isClock (t : Text) : Bool :=
  match afterDigits? 1 2 t with
  | some (':' :: a :: b :: ':' :: c :: d :: rest) =>
    [a, b, c, d].all isDigit &&
      match rest with
      | '.' :: places => isZone (places.dropWhile isDigit)
      | _ => isZone rest
  | _ => false

/-- Dates in full, or dates with a time of day. -/
def isTimestamp (t : Text) : Bool :=
  match t with
  | a :: b :: c :: d :: '-' :: rest =>
    [a, b, c, d].all isDigit &&
      match afterDigits? 1 2 rest with
      | some ('-' :: day) =>
        match afterDigits? 1 2 day with
        | some [] => t.length = 10
        | some (c :: clock) =>
          if c = 'T' || c = 't' then isClock clock
          else (c = ' ' || c = '\t') &&
            isClock (clock.dropWhile fun c => c = ' ' || c = '\t')
        | none => false
      | _ => false
  | _ => false

/-- An unquoted scalar of this spelling is read as a text. -/
def readsAsText (t : Text) : Bool :=
  !(isNull t || isTruthValue t || isSpecialKey t || isInteger t || isFraction t ||
    isTimestamp t)

end CommandScript.Yaml
