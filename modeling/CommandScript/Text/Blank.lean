/-!
# Texts and blank characters

Script text is a list of characters. Blank characters are the Unicode
separators and the control characters that break or separate lines: they
surround the words of a statement, are trimmed from the ends of a line, and a
run of two or more of them may be squeezed to one space.
-/

namespace CommandScript

/-- A text: script source, a line, a key, a value or a message. -/
abbrev Text := List Char

instance : Coe String Text := ⟨String.toList⟩

/-- Blank characters: tab to carriage return, the four information separators,
the space, the next-line control, and the Unicode space, line and paragraph
separators. Zero-width characters and the byte order mark are not blank. -/
def isBlank (c : Char) : Bool :=
  let n := c.toNat
  (9 ≤ n && n ≤ 13) || (28 ≤ n && n ≤ 32) || n == 0x85 || n == 0xA0 || n == 0x1680 ||
    (0x2000 ≤ n && n ≤ 0x200A) || n == 0x2028 || n == 0x2029 || n == 0x202F ||
    n == 0x205F || n == 0x3000

namespace Text

def allBlank (t : Text) : Bool := t.all isBlank

def trimLeft (t : Text) : Text := t.dropWhile isBlank

def trimRight (t : Text) : Text := (t.reverse.dropWhile isBlank).reverse

def trim (t : Text) : Text := trimRight (trimLeft t)

/-- Replaces every maximal run of two or more blank characters by one space. -/
def squeeze : Text → Text
  | [] => []
  | c :: rest =>
    if isBlank c && rest.head?.any isBlank then ' ' :: (squeeze rest).tail
    else c :: squeeze rest

/-- The first word of a text, none when the text is all blank. -/
def firstWord? (t : Text) : Option Text :=
  match trimLeft t with
  | [] => none
  | word => some (word.takeWhile (!isBlank ·))

/-- Drops `lead` from the front of `t`, none when `t` does not start with it. -/
def after? : Text → Text → Option Text
  | [], t => some t
  | _ :: _, [] => none
  | a :: lead, c :: t => if a = c then after? lead t else none

def startsWith (t lead : Text) : Bool := (after? lead t).isSome

def endsWith (t tail : Text) : Bool := startsWith t.reverse tail.reverse

/-- The half-open spans of all maximal runs of two or more blank characters.
`run` counts the blank characters that end just before `position`. -/
def blankRuns (t : Text) : List (Nat × Nat) :=
  go 0 0 t
where
  closed (position run : Nat) : List (Nat × Nat) :=
    if 2 ≤ run then [(position - run, position)] else []
  go (position run : Nat) : Text → List (Nat × Nat)
    | [] => closed position run
    | c :: rest =>
      if isBlank c then go (position + 1) (run + 1) rest
      else closed position run ++ go (position + 1) 0 rest

@[simp] theorem squeeze_nil : squeeze [] = [] := rfl

@[simp] theorem after?_nil (t : Text) : after? [] t = some t := by cases t <;> rfl

/-- What follows a leading part is the text without it. -/
theorem after?_eq_some_iff (lead t rest : Text) :
    after? lead t = some rest ↔ t = lead ++ rest := by
  induction lead generalizing t with
  | nil => simp [eq_comm]
  | cons a lead ih =>
    cases t with
    | nil => simp [after?]
    | cons c t =>
      by_cases h : a = c
      · subst h; simp [after?, ih]
      · simp [after?, h, Ne.symm h]

end Text
end CommandScript
