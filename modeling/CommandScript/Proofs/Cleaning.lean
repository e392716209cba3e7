import CommandScript.Proofs.Comments

/-!
# Cleaned records and lines

A record is cleaned to what its part without the comment is cleaned to, so the comment may as
well be removed first. The lines of a text are the cleaned records of its raw lines, in order.
-/

namespace CommandScript

namespace Line

open Text

/-! ### Records -/

/-- A line without its comment; nothing is left of a line that is a comment as a whole. -/
def bare (line : Text) : Text := if isCommentLine line then [] else withoutComment line

def squeezed (how : Cleaning) (record : Text) : Text :=
  if how.compress then squeeze record else record

/-- A line is what is left without its comment, the blanks in front of the comment, and the
comment. -/
theorem exists_comment (line : Text) :
    ∃ blanks comment, (∀ b ∈ blanks, isBlank b) ∧ (comment = [] ∨ startsComment comment) ∧
      line = withoutComment line ++ (blanks ++ comment) := by
  cases h : codeFrom none line with
  | none => exact ⟨[], [], by simp, .inl rfl, by simp [withoutComment_of_none h]⟩
  | some code =>
    obtain ⟨comment, hline, starts⟩ := codeFrom_eq_some h
    obtain ⟨blanks, hblanks, hcode⟩ := exists_trimRight code
    refine ⟨blanks, comment, hblanks, .inr starts, ?_⟩
    rw [withoutComment_of_code h, ← List.append_assoc, ← hcode, ← hline]

theorem exists_withoutComment (line : Text) : ∃ rest, line = withoutComment line ++ rest := by
  obtain ⟨blanks, comment, -, -, whole⟩ := exists_comment line
  exact ⟨blanks ++ comment, whole⟩

theorem exists_bare (line : Text) : ∃ rest, line = bare line ++ rest := by
  rw [bare]
  split
  · exact ⟨line, rfl⟩
  · exact exists_withoutComment line

theorem codeFrom_bare (line : Text) : codeFrom none (bare line) = none := by
  rw [bare]
  split
  · rfl
  · exact codeFrom_withoutComment line

/-- What is left of a line is no comment as a whole. -/
theorem isCommentLine_bare (line : Text) : isCommentLine (bare line) = false := by
  rw [bare]
  split
  · rfl
  · rename_i code
    obtain ⟨rest, hrest⟩ := exists_withoutComment line
    rw [Bool.eq_false_iff]
    intro front
    have whole := isCommentLine_append (u := rest) front
    rw [← hrest] at whole
    exact code whole

theorem bare_bare (line : Text) : bare (bare line) = bare line := by
  have still := isCommentLine_bare line
  rw [bare.eq_def (bare line), still, if_neg (by simp), withoutComment_of_none (codeFrom_bare line)]

theorem allBlank_squeezed (how : Cleaning) (record : Text) :
    allBlank (squeezed how record) = allBlank record := by
  rw [squeezed]
  split
  · exact allBlank_squeeze record
  · rfl

theorem isCommentLine_squeezed (how : Cleaning) (record : Text) :
    isCommentLine (squeezed how record) = isCommentLine record := by
  rw [squeezed]
  split
  · exact isCommentLine_squeeze record
  · rfl

theorem withoutComment_squeezed (how : Cleaning) (record : Text) :
    withoutComment (squeezed how record) = squeezed how (withoutComment record) := by
  rw [squeezed, squeezed]
  split
  · exact withoutComment_squeeze record
  · rfl

/-- What a record is cleaned to is decided by the record without its comment. -/
theorem clean?_eq (how : Cleaning) (record : Text) :
    clean? how record =
      let body := squeezed how (bare record)
      if allBlank body then none else some (if how.trim then trim body else body) := by
  rw [clean?, ← squeezed]
  simp only [allBlank_squeezed, isCommentLine_squeezed, withoutComment_squeezed]
  cases h : isCommentLine record with
  | true =>
    have nothing : bare record = [] := if_pos h
    simp [nothing, allBlank]
  | false =>
    have cut : bare record = withoutComment record := if_neg (by simp [h])
    rw [cut, Bool.or_false]
    split
    · rename_i blank
      obtain ⟨rest, hrest⟩ := exists_withoutComment record
      rw [hrest, allBlank, List.all_append, Bool.and_eq_true] at blank
      rw [allBlank, blank.1, if_pos rfl]
    · rfl

/-- Stripping a record of its comment first does not matter. -/
theorem clean?_bare (how : Cleaning) (record : Text) :
    clean? how (bare record) = clean? how record := by
  rw [clean?_eq, clean?_eq how record, bare_bare]

/-! ### Raw lines -/

def rawLines (raw : Text) : List Text := Text.splitAt '\n' (normalize raw)

/-- What the records of a raw line are cleaned to. -/
def texts (how : Cleaning) (separator : Option Text) (line : Text) : List Text :=
  (records separator line).filterMap (clean? how)

/-- The lines of a text, by its raw lines. -/
theorem ingest_eq (how : Cleaning) (separator : Option Text) (raw : Text) :
    ingest how separator raw =
      ((rawLines raw).zipIdx 1).flatMap fun p => (texts how separator p.1).map (Line.mk p.2) := by
  simp only [ingest, kept, keptBy, numbered, rawLines, texts, List.map_flatMap]
  refine congrArg (List.flatMap · _) (funext fun p => ?_)
  rw [List.map_filterMap, List.map_filterMap]
  simp [Function.comp_def]

/-- The lines of a text without their numbers. -/
theorem map_text_ingest (how : Cleaning) (separator : Option Text) (raw : Text) :
    (ingest how separator raw).map (·.text) = (rawLines raw).flatMap (texts how separator) := by
  have whole (p : Text × Nat) :
      ((texts how separator p.1).map (Line.mk p.2)).map (·.text) = texts how separator p.1 := by
    rw [List.map_map]
    exact List.map_id _
  rw [ingest_eq, List.map_flatMap]
  simp only [whole]
  rw [← List.flatMap_map, List.zipIdx_map_fst]

/-! ### Numbers -/

section

variable {f : Text → List Text} {lines : List Text} {n : Nat} {line : Line}

theorem mem_numbered_iff :
    line ∈ ((lines.zipIdx n).flatMap fun p => (f p.1).map (Line.mk p.2)) ↔
      n ≤ line.number ∧
        ∃ rawLine, lines[line.number - n]? = some rawLine ∧ line.text ∈ f rawLine := by
  obtain ⟨number, text⟩ := line
  simp only [List.mem_flatMap, List.mem_map, Prod.exists,
    List.mk_mem_zipIdx_iff_le_and_getElem?_sub]
  constructor
  · rintro ⟨rawLine, i, ⟨le, found⟩, u, mem, same⟩
    obtain ⟨rfl, rfl⟩ := Line.mk.inj same
    exact ⟨le, rawLine, found, mem⟩
  · rintro ⟨le, rawLine, found, mem⟩
    exact ⟨rawLine, number, ⟨le, found⟩, text, mem, rfl⟩

/-- Raw lines have ascending numbers, so their lines are in order if those of each are. -/
theorem pairwise_numbered {R : Nat → Nat → Prop} (ascends : ∀ a b, a < b → R a b)
    (own : ∀ rawLine m, ((f rawLine).map (Line.mk m)).Pairwise fun a b => R a.number b.number) :
    ((lines.zipIdx n).flatMap fun p => (f p.1).map (Line.mk p.2)).Pairwise
      fun a b => R a.number b.number := by
  have numbers : (lines.zipIdx n).Pairwise fun p q => p.2 < q.2 := by
    rw [← List.pairwise_map, List.zipIdx_map_snd]
    exact List.pairwise_lt_range'
  rw [List.pairwise_flatMap]
  refine ⟨fun p _ => own p.1 p.2, numbers.imp fun {p q} lt a ha b hb => ?_⟩
  obtain ⟨_, -, rfl⟩ := List.mem_map.mp ha
  obtain ⟨_, -, rfl⟩ := List.mem_map.mp hb
  exact ascends p.2 q.2 lt

/-- The lines of one number are those of one raw line. -/
theorem filter_numbered (i : Nat) :
    ((lines.zipIdx n).flatMap fun p => (f p.1).map (Line.mk p.2)).filter (·.number = n + i) =
      (lines[i]?).elim [] fun rawLine => (f rawLine).map (Line.mk (n + i)) := by
  have own (m : Nat) (rawLine : Text) : ((f rawLine).map (Line.mk m)).filter (·.number = n + i) =
      if m = n + i then (f rawLine).map (Line.mk m) else [] := by
    rw [List.filter_map]
    split
    · rename_i same
      simp [same, Function.comp_def]
    · rename_i other
      simp [other, Function.comp_def]
  rw [List.filter_flatMap]
  simp only [own]
  clear own
  induction lines generalizing n i with
  | nil => rfl
  | cons rawLine lines ih =>
    rw [List.zipIdx_cons, List.flatMap_cons]
    cases i with
    | zero =>
      have later : ∀ p ∈ lines.zipIdx (n + 1),
          (if p.2 = n + 0 then (f p.1).map (Line.mk p.2) else []) = [] := by
        intro p hp
        have above := List.le_snd_of_mem_zipIdx hp
        rw [if_neg (by omega)]
      rw [if_pos (show (rawLine, n).2 = n + 0 from rfl), List.flatMap_eq_nil_iff.mpr later,
        List.append_nil]
      rfl
    | succ i =>
      have shift : n + (i + 1) = n + 1 + i := by omega
      rw [if_neg (by omega), List.nil_append, shift, ih i]
      rfl

end

end Line

end CommandScript
