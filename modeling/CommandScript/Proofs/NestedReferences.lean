import CommandScript.Proofs.Occurrences

/-!
# Nested references

The name of a reference may hold references in turn, so a text is a row of characters and of
references with such a row inside. A closing brace answers the last opening before it that is
not answered yet; openings and closing braces without an answer are characters like others. How
deep the references of a text stand in one another is at most the number of openings that are
open at once.
-/

namespace CommandScript

/-- A row of characters and references, where a reference holds such a row. -/
inductive Nest where
  | nil
  | plain (c : Char) (rest : Nest)
  | reference (inside rest : Nest)
  deriving DecidableEq, Repr

namespace Nest

def written : Nest → Text
  | nil => []
  | plain c rest => c :: rest.written
  | reference inside rest => (Piece.reference inside.written).written ++ rest.written

def depth : Nest → Nat
  | nil => 0
  | plain _ rest => rest.depth
  | reference inside rest => max (inside.depth + 1) rest.depth

def append : Nest → Nest → Nest
  | nil, n => n
  | plain c rest, n => plain c (rest.append n)
  | reference inside rest, n => reference inside (rest.append n)

def chars : Text → Nest → Nest
  | [], n => n
  | c :: t, n => plain c (chars t n)

/-! ### Reading a text -/

/-- Reads a text from its end: the row in front of the first closing brace that no opening has
answered, and the rows behind each such brace. -/
def read : Text → Nest × List Nest
  | [] => (nil, [])
  | c :: t =>
    match c, read t with
    | '\x7d', (front, behind) => (nil, front :: behind)
    | '$', (plain '\x7b' inside, rest :: behind) => (reference inside rest, behind)
    | c, (front, behind) => (plain c front, behind)

def joined (front : Nest) : List Nest → Nest
  | [] => front
  | next :: behind => front.append (plain '\x7d' (joined next behind))

def ofText (t : Text) : Nest := joined (read t).1 (read t).2

@[simp] theorem written_append (n m : Nest) : (n.append m).written = n.written ++ m.written := by
  induction n with
  | nil => rfl
  | plain c rest ih => simp [append, written, ih]
  | reference inside rest _ ih => simp [append, written, ih]

@[simp] theorem written_chars (t : Text) (n : Nest) : (chars t n).written = t ++ n.written := by
  induction t with
  | nil => rfl
  | cons c t ih => simp [chars, written, ih]

theorem written_joined_plain (c : Char) (front : Nest) (behind : List Nest) :
    (joined (plain c front) behind).written = c :: (joined front behind).written := by
  cases behind <;> simp [joined, append, written]

theorem written_joined_reference (inside front : Nest) (behind : List Nest) :
    (joined (reference inside front) behind).written =
      (Piece.reference inside.written).written ++ (joined front behind).written := by
  cases behind <;> simp [joined, append, written]

/-- The row of a text is written as the text. -/
theorem written_ofText (t : Text) : (ofText t).written = t := by
  induction t with
  | nil => rfl
  | cons c t ih =>
    rw [ofText] at ih ⊢
    simp only [read]
    generalize read t = r at ih ⊢
    split
    · simpa [joined, append, written] using ih
    · rename_i inside rest behind
      rw [written_joined_reference, Piece.written_reference, ← ih, written_joined_plain]
      simp [joined, written]
    · rw [written_joined_plain, ih]

/-! ### What is answered -/

/-- No closing brace stands outside the references. -/
def Unclosing : Nest → Prop
  | nil => True
  | plain c rest => c ≠ '\x7d' ∧ rest.Unclosing
  | reference _ rest => rest.Unclosing

def Closed : Nest → Prop
  | nil => True
  | plain c rest => c ≠ '\x7d' ∧ (c = '$' → rest.written.head? ≠ some '\x7b') ∧ rest.Closed
  | reference inside rest => inside.Closed ∧ rest.Closed

/-- Inside references all is answered, and no closing brace is left behind an opening without
an answer. -/
def Tidy : Nest → Prop
  | nil => True
  | plain c rest => (c = '$' → rest.written.head? = some '\x7b' → rest.Unclosing) ∧ rest.Tidy
  | reference inside rest => inside.Closed ∧ rest.Tidy

/-- All rows are closed but the last one, which is tidy. -/
def AllClosed (front : Nest) : List Nest → Prop
  | [] => front.Tidy ∧ front.Unclosing
  | next :: behind => front.Closed ∧ AllClosed next behind

theorem allClosed_read (t : Text) : AllClosed (read t).1 (read t).2 := by
  induction t with
  | nil => exact ⟨trivial, trivial⟩
  | cons c t ih =>
    simp only [read]
    generalize read t = r at ih ⊢
    split
    · exact ⟨trivial, ih⟩
    · rename_i inside rest behind
      obtain ⟨⟨-, -, inner⟩, later⟩ := ih
      cases behind with
      | nil => exact ⟨⟨inner, later.1⟩, later.2⟩
      | cons next behind => exact ⟨⟨inner, later.1⟩, later.2⟩
    · rename_i front behind noBrace noOpening
      cases behind with
      | nil => exact ⟨⟨fun _ _ => ih.2, ih.1⟩, noBrace, ih.2⟩
      | cons next behind =>
        refine ⟨⟨noBrace, ?_, ih.1⟩, ih.2⟩
        rintro rfl opens
        cases front with
        | nil => cases opens
        | plain d inside =>
          obtain rfl : d = '\x7b' := Option.some.inj opens
          exact noOpening inside next behind rfl rfl rfl
        | reference inside rest => exact absurd (Option.some.inj opens) (by decide)

theorem Closed.append {n m : Nest} (h : n.Closed) (hm : m.Tidy)
    (apart : m.written.head? ≠ some '\x7b') : (n.append m).Tidy := by
  induction n with
  | nil => exact hm
  | plain c rest ih =>
    obtain ⟨-, noOpening, closed⟩ := h
    refine ⟨fun dollar opens => ?_, ih closed⟩
    rw [written_append] at opens
    cases hrest : rest.written with
    | nil => exact absurd (by simpa [hrest] using opens) apart
    | cons d t => exact absurd (by simpa [hrest] using opens) (noOpening dollar)
  | reference inside rest _ ih => exact ⟨h.1, ih h.2⟩

theorem AllClosed.joined {front : Nest} {behind : List Nest} (h : AllClosed front behind) :
    (joined front behind).Tidy := by
  induction behind generalizing front with
  | nil => exact h.1
  | cons next behind ih =>
    refine h.1.append ⟨?_, ih h.2⟩ ?_
    · exact fun dollar => absurd dollar (by decide)
    · simp [written]

/-- The row of a text is tidy. -/
theorem tidy_ofText (t : Text) : (ofText t).Tidy := (allClosed_read t).joined

/-! ### Openings that are open at once -/

/-- How many openings are open behind a character that stands in front of a text. -/
def openBehind (opened : Nat) (c : Char) (t : Text) : Nat :=
  if c = '$' ∧ t.head? = some '\x7b' then opened + 1
  else if c = '\x7d' then opened - 1
  else opened

/-- The largest number of openings of a text that are open at once, where so many are open in
front of it. -/
def mostOpen (opened : Nat) : Text → Nat
  | [] => opened
  | c :: t => max opened (mostOpen (openBehind opened c t) t)

theorem le_mostOpen (opened : Nat) (t : Text) : opened ≤ mostOpen opened t := by
  cases t with
  | nil => exact le_rfl
  | cons c t => exact le_max_left ..

theorem mostOpen_cons {opened : Nat} {c : Char} {t : Text} (noBrace : c ≠ '\x7d')
    (noOpening : c = '$' → t.head? ≠ some '\x7b') :
    mostOpen opened (c :: t) = mostOpen opened t := by
  have same : openBehind opened c t = opened := by
    rw [openBehind, if_neg (fun h => noOpening h.1 h.2), if_neg noBrace]
  rw [mostOpen, same]
  exact max_eq_right (le_mostOpen opened t)

/-- A reference that is read to its end opens as many openings as are open inside, and one more. -/
theorem mostOpen_written {opened deep : Nat} {inside rest : Text}
    (inner : mostOpen (opened + 1) (inside ++ '\x7d' :: rest) =
      max (opened + 1 + deep) (mostOpen (opened + 1) ('\x7d' :: rest))) :
    mostOpen opened ((Piece.reference inside).written ++ rest) =
      max (opened + (deep + 1)) (mostOpen opened rest) := by
  have low := le_mostOpen opened rest
  have opening : openBehind opened '$' ('\x7b' :: (inside ++ '\x7d' :: rest)) = opened + 1 := rfl
  have closing : openBehind (opened + 1) '\x7d' rest = opened := rfl
  have brace : mostOpen (opened + 1) ('\x7b' :: (inside ++ '\x7d' :: rest)) =
      mostOpen (opened + 1) (inside ++ '\x7d' :: rest) :=
    mostOpen_cons (by decide) fun h => absurd h (by decide)
  rw [Piece.written_reference, mostOpen, opening, brace, inner, mostOpen, closing]
  omega

theorem mostOpen_closed {n : Nest} (h : n.Closed) (opened : Nat) {rest : Text}
    (apart : rest.head? ≠ some '\x7b') :
    mostOpen opened (n.written ++ rest) = max (opened + n.depth) (mostOpen opened rest) := by
  induction n generalizing opened rest with
  | nil =>
    have low := le_mostOpen opened rest
    simp [written, depth, low]
  | plain c n ih =>
    obtain ⟨noBrace, noOpening, closed⟩ := h
    rw [written, List.cons_append, mostOpen_cons noBrace, ih closed opened apart]
    · rfl
    · intro dollar
      cases hn : n.written with
      | nil => exact apart
      | cons d t => simpa [hn] using noOpening dollar
  | reference inside n ihInside ih =>
    have closing : ('\x7d' :: (n.written ++ rest)).head? ≠ some '\x7b' := by simp
    have inner := ihInside h.1 (opened + 1) closing
    rw [written, List.append_assoc, mostOpen_written inner, ih h.2 opened apart, depth]
    omega

/-- References stand no deeper in one another than openings are open at once. -/
theorem depth_le_mostOpen {n : Nest} (h : n.Tidy) (opened : Nat) :
    n.depth ≤ mostOpen opened n.written := by
  induction n generalizing opened with
  | nil => exact Nat.zero_le _
  | plain c rest ih =>
    rw [written, mostOpen, depth]
    exact (ih h.2 _).trans (le_max_right ..)
  | reference inside rest _ ih =>
    have closing : ('\x7d' :: rest.written).head? ≠ some '\x7b' := by simp
    have inner := mostOpen_closed h.1 (opened + 1) closing
    have later := ih h.2 opened
    rw [written, mostOpen_written inner, depth]
    omega

end Nest

end CommandScript
