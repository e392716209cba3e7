import Mathlib.Data.List.TakeWhile
import CommandScript.Expansion
import CommandScript.Proofs.Blanks

/-!
# References in a text

A reference occurs wherever its written form stands in a text, whatever is in front of it and
behind it. The pieces of a text are cut exactly at the occurrences, so no two of them overlap.
-/

namespace CommandScript

/-- The name in a reference: one character or more, none of them a dollar sign or a brace. -/
structure IsReferenceName (name : Text) : Prop where
  nonempty : name ≠ []
  inside : ∀ c ∈ name, inReference c

instance (name : Text) : Decidable (IsReferenceName name) :=
  decidable_of_iff (name ≠ [] ∧ name.all inReference)
    ⟨fun h => ⟨h.1, List.all_eq_true.mp h.2⟩, fun h => ⟨h.nonempty, List.all_eq_true.mpr h.inside⟩⟩

namespace Piece

/-! ### The reference in front -/

section

variable {t u name : Text}

theorem written_reference (name rest : Text) :
    (reference name).written ++ rest = '$' :: '\x7b' :: (name ++ '\x7d' :: rest) := by
  simp [written]

/-- Behind its first character a reference holds no dollar sign. -/
theorem dollar_not_mem (named : IsReferenceName name) :
    '$' ∉ '\x7b' :: (name ++ ['\x7d']) := by
  have inside : '$' ∉ name := fun h => absurd (named.inside '$' h) (by decide)
  simpa using inside

theorem leading?_written (named : IsReferenceName name) (rest : Text) :
    leading? ((reference name).written ++ rest) = some name := by
  have stop : ('\x7d' :: rest).head?.any inReference = false := rfl
  obtain ⟨taken, left⟩ := Text.takeWhile_append_stop named.inside stop
  obtain ⟨c, tail, rfl⟩ := List.exists_cons_of_ne_nil named.nonempty
  simp only [written_reference, leading?, taken, left]

/-- The reference that a text starts with is the one written there. -/
theorem leading?_eq_some_iff :
    leading? t = some name ↔ IsReferenceName name ∧ (reference name).written <+: t := by
  constructor
  · intro h
    unfold leading? at h
    split at h
    · rename_i rest
      split at h
      · cases h
      · rename_i behind left nonempty
        obtain rfl := Option.some.inj h
        refine ⟨⟨nonempty, fun c hc => List.mem_takeWhile_imp hc⟩, behind, ?_⟩
        rw [written_reference, ← left, List.takeWhile_append_dropWhile]
      · cases h
    · cases h
  · rintro ⟨named, rest, rfl⟩
    exact leading?_written named rest

/-! ### Cutting a text into pieces -/

theorem ofTextFrom_drop (skip : Nat) (t : Text) : ofTextFrom skip t = ofText (t.drop skip) := by
  induction t generalizing skip with
  | nil => cases skip <;> rfl
  | cons c t ih =>
    cases skip with
    | zero => rfl
    | succ skip => exact ih skip

/-- A reference in front is the first piece. -/
theorem ofText_written (named : IsReferenceName name) (rest : Text) :
    ofText ((reference name).written ++ rest) = reference name :: ofText rest := by
  have front := leading?_written named rest
  have behind : ('\x7b' :: (name ++ '\x7d' :: rest)).drop (name.length + 2) = rest := by
    rw [show '\x7b' :: (name ++ '\x7d' :: rest) = '\x7b' :: (name ++ ['\x7d']) ++ rest by simp]
    exact List.drop_left' (by simp)
  rw [written_reference] at front ⊢
  rw [ofText, ofTextFrom]
  simp only [front]
  rw [ofTextFrom_drop, behind]

/-- A character that starts no reference is a piece of its own. -/
theorem ofText_cons {c : Char} (h : leading? (c :: t) = none) :
    ofText (c :: t) = plain c :: ofText t := by
  simp only [ofText, ofTextFrom, h]

/-- A text is empty, starts with a reference, or starts with a character that starts none. -/
theorem text_induction {motive : Text → Prop} (nil : motive [])
    (reference : ∀ name rest, IsReferenceName name → motive rest →
      motive ((Piece.reference name).written ++ rest))
    (plain : ∀ c rest, leading? (c :: rest) = none → motive rest → motive (c :: rest))
    (t : Text) : motive t := by
  match t with
  | [] => exact nil
  | c :: rest =>
    cases h : leading? (c :: rest) with
    | none => exact plain c rest h (text_induction nil reference plain rest)
    | some name =>
      obtain ⟨named, behind, whole⟩ := leading?_eq_some_iff.mp h
      have shorter : behind.length < (c :: rest).length := by
        rw [← whole, written_reference]
        simp
        omega
      rw [← whole]
      exact reference name behind named (text_induction nil reference plain behind)
termination_by t.length
decreasing_by
  · exact Nat.lt_succ_self rest.length
  · exact shorter

/-- The pieces in a row are the text. -/
theorem written_ofText (t : Text) : (ofText t).flatMap written = t := by
  induction t using text_induction with
  | nil => rfl
  | reference name rest named ih => rw [ofText_written named, List.flatMap_cons, ih]
  | plain c rest h ih =>
    rw [ofText_cons h, List.flatMap_cons, ih]
    rfl

theorem ofText_injective (h : ofText t = ofText u) : t = u := by
  rw [← written_ofText t, h, written_ofText]

theorem isReferenceName_of_mem (h : reference name ∈ ofText t) : IsReferenceName name := by
  induction t using text_induction with
  | nil => cases h
  | reference front rest named ih =>
    rw [ofText_written named, List.mem_cons] at h
    rcases h with same | h
    · obtain rfl := Piece.reference.inj same
      exact named
    · exact ih h
  | plain c rest none ih =>
    rw [ofText_cons none, List.mem_cons] at h
    rcases h with other | h
    · cases other
    · exact ih h

/-- No reference reaches over a dollar sign. -/
theorem leading?_append {c : Char} (h : leading? (c :: t) = none) (u : Text) :
    leading? (c :: (t ++ '$' :: u)) = none := by
  by_contra some
  obtain ⟨name, found⟩ := Option.ne_none_iff_exists'.mp some
  obtain ⟨named, behind, whole⟩ := leading?_eq_some_iff.mp found
  rw [← List.cons_append] at whole
  rcases List.append_eq_append_iff.mp whole with ⟨more, within, -⟩ | ⟨more, across, follows⟩
  · rw [within, leading?_written named] at h
    cases h
  · cases more with
    | nil =>
      have within : c :: t = (reference name).written ++ [] := by simpa using across.symm
      rw [within, leading?_written named] at h
      cases h
    | cons d more =>
      obtain rfl : '$' = d := (List.cons.inj follows).1
      have tail : '\x7b' :: (name ++ ['\x7d']) = t ++ '$' :: more := (List.cons.inj across).2
      exact dollar_not_mem named (by simp [tail])

/-- Wherever a reference is written it is a piece, and the text around it is cut as if it
stood alone. -/
theorem ofText_append (named : IsReferenceName name) (t rest : Text) :
    ofText (t ++ ((reference name).written ++ rest)) =
      ofText t ++ reference name :: ofText rest := by
  induction t using text_induction with
  | nil => exact ofText_written named rest
  | reference front behind frontNamed ih =>
    rw [List.append_assoc, ofText_written frontNamed, ih, ofText_written frontNamed]
    rfl
  | plain c behind none ih =>
    have still : leading? (c :: (behind ++ ((reference name).written ++ rest))) = Option.none := by
      rw [written_reference]
      exact leading?_append none _
    rw [List.cons_append, ofText_cons still, ih, ofText_cons none]
    rfl

end

end Piece

/-! ### Occurrences -/

/-- A place where a reference stands in a text. -/
structure Occurrence (t : Text) where
  before : Text
  name : Text
  behind : Text
  named : IsReferenceName name
  whole : t = before ++ ((Piece.reference name).written ++ behind)

namespace Occurrence

variable {t : Text}

def start (o : Occurrence t) : Nat := o.before.length

def stop (o : Occurrence t) : Nat := o.before.length + (Piece.reference o.name).written.length

def replacedBy (o : Occurrence t) (value : Text) : Text := o.before ++ (value ++ o.behind)

def Precedes (o p : Occurrence t) (between : Text) : Prop :=
  p.before = o.before ++ ((Piece.reference o.name).written ++ between) ∧
    o.behind = between ++ ((Piece.reference p.name).written ++ p.behind)

/-- An occurrence cuts the pieces of the text in two. -/
theorem pieces (o : Occurrence t) :
    Piece.ofText t = Piece.ofText o.before ++ .reference o.name :: Piece.ofText o.behind := by
  have cut := Piece.ofText_append o.named o.before o.behind
  rwa [← o.whole] at cut

theorem eq_of_pieces {o p : Occurrence t} (before : Piece.ofText o.before = Piece.ofText p.before)
    (name : o.name = p.name) (behind : Piece.ofText o.behind = Piece.ofText p.behind) : o = p := by
  obtain ⟨before', name', behind', named, whole⟩ := o
  obtain rfl := Piece.ofText_injective before
  obtain rfl := name
  obtain rfl := Piece.ofText_injective behind
  rfl

/-- Where the pieces in front of one reference go on to another, so does the text. -/
theorem precedes_of_pieces {o p : Occurrence t} {between : List Piece}
    (front : Piece.ofText p.before = Piece.ofText o.before ++ .reference o.name :: between)
    (back : Piece.ofText o.behind = between ++ .reference p.name :: Piece.ofText p.behind) :
    o.Precedes p (between.flatMap Piece.written) := by
  constructor
  · rw [← Piece.written_ofText p.before, front, List.flatMap_append, List.flatMap_cons,
      Piece.written_ofText]
  · rw [← Piece.written_ofText o.behind, back, List.flatMap_append, List.flatMap_cons,
      Piece.written_ofText]

/-- Of two references one is in front of the other. -/
theorem eq_or_precedes (o p : Occurrence t) :
    o = p ∨ (∃ between, o.Precedes p between) ∨ ∃ between, p.Precedes o between := by
  have cuts := o.pieces.symm.trans p.pieces
  rcases List.append_eq_append_iff.mp cuts with ⟨more, front, back⟩ | ⟨more, front, back⟩
  · cases more with
    | nil =>
      obtain ⟨name, behind⟩ := List.cons.inj back
      exact .inl (eq_of_pieces (by simpa using front.symm) (Piece.reference.inj name) behind)
    | cons piece between =>
      obtain ⟨rfl, behind⟩ := List.cons.inj back
      exact .inr (.inl ⟨_, precedes_of_pieces front behind⟩)
  · cases more with
    | nil =>
      obtain ⟨name, behind⟩ := List.cons.inj back
      exact .inl (eq_of_pieces (by simpa using front) (Piece.reference.inj name).symm behind.symm)
    | cons piece between =>
      obtain ⟨rfl, behind⟩ := List.cons.inj back
      exact .inr (.inr ⟨_, precedes_of_pieces front behind⟩)

theorem stop_le_start {o p : Occurrence t} {between : Text} (h : o.Precedes p between) :
    o.stop ≤ p.start := by
  simp [stop, start, h.1, ← Nat.add_assoc]

/-- References do not overlap. -/
theorem apart (o p : Occurrence t) : o = p ∨ o.stop ≤ p.start ∨ p.stop ≤ o.start := by
  rcases o.eq_or_precedes p with same | ⟨between, h⟩ | ⟨between, h⟩
  · exact .inl same
  · exact .inr (.inl (stop_le_start h))
  · exact .inr (.inr (stop_le_start h))

end Occurrence

def Piece.names (ps : List Piece) : List Text :=
  ps.filterMap fun
    | plain _ => none
    | reference name => some name

theorem Piece.mem_names_iff {ps : List Piece} {name : Text} :
    name ∈ names ps ↔ reference name ∈ ps := by
  rw [names, List.mem_filterMap]
  constructor
  · rintro ⟨p, mem, h⟩
    cases p with
    | plain c => cases h
    | reference other =>
      obtain rfl := Option.some.inj h
      exact mem
  · intro mem
    exact ⟨_, mem, rfl⟩

/-- The references among the pieces of a text are those that occur in it. -/
theorem Piece.mem_names_ofText_iff {t name : Text} :
    name ∈ names (ofText t) ↔ ∃ o : Occurrence t, o.name = name := by
  rw [mem_names_iff]
  constructor
  · intro h
    obtain ⟨front, back, cut⟩ := List.append_of_mem h
    refine ⟨⟨front.flatMap written, name, back.flatMap written, isReferenceName_of_mem h, ?_⟩, rfl⟩
    rw [← List.flatMap_cons, ← List.flatMap_append, ← cut, written_ofText]
  · rintro ⟨o, rfl⟩
    rw [o.pieces]
    simp

end CommandScript
