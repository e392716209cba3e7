import CommandScript.Proofs.TidyLines

/-!
# Cleaning again

Whether a record is a comment as a whole is looked at before its ends are trimmed. A marker that
ends any line is found behind blanks too, but two dashes are a comment only at the very front. So
a comment of dashes with blanks in front of it is kept as a line, which begins with the dashes if
it is trimmed. That is the only text that cleaning gives and would not give again.
-/

namespace CommandScript

namespace Line

open Text

/-- Blanks stand in front of a comment of dashes. -/
def dashesBehindBlanks (record : Text) : Bool :=
  record.head?.any isBlank && ['-', '-'].isPrefixOf (trimLeft record)

variable {how : Cleaning} {record text tail : Text}

/-! ### Dashes in front -/

theorem isCommentLine_iff : isCommentLine text ↔ startsComment text ∨ ['-', '-'] <+: text := by
  cases text with
  | nil => simp [isCommentLine, startsComment]
  | cons c t =>
    rw [isCommentLine_cons_iff, List.cons_prefix_cons, eq_comm (a := c)]
    refine or_congr_right (and_congr_right fun _ => ?_)
    cases t with
    | nil => simp
    | cons d t => simp [List.cons_prefix_cons, eq_comm]

theorem not_isCommentLine_of_blank (h : text.head?.any isBlank) : isCommentLine text = false := by
  rw [Bool.eq_false_iff]
  intro comment
  cases text with
  | nil => cases h
  | cons c t =>
    have blank : isBlank c := by simpa using h
    rw [isCommentLine_cons_iff, startsComment_cons_iff] at comment
    rcases comment with (rfl | ⟨rfl, -⟩) | ⟨rfl, -⟩
    · cases blank
    · cases blank
    · cases blank

/-- Dashes do not reach into what begins with none. -/
theorem dashes_append_iff (text : Text) (h : tail.head? ≠ some '-') :
    ['-', '-'] <+: text ++ tail ↔ ['-', '-'] <+: text := by
  refine ⟨fun front => ?_, fun front => front.trans (List.prefix_append text tail)⟩
  match text with
  | [] =>
    obtain ⟨u, rfl⟩ := front
    simp at h
  | [c] =>
    obtain ⟨-, u, rfl⟩ := List.cons_prefix_cons.mp front
    simp at h
  | c :: d :: t => simpa [List.cons_prefix_cons] using front

/-- A comment begins with a marker, so neither with a blank nor with a dash. -/
theorem head_comment {comment : Text} (h : comment = [] ∨ startsComment comment) :
    comment.head?.any isBlank = false ∧ comment.head? ≠ some '-' := by
  rcases h with rfl | starts
  · simp
  · cases comment with
    | nil => cases starts
    | cons c t =>
      rcases startsComment_cons_iff.mp starts with rfl | ⟨rfl, -⟩
      · exact ⟨rfl, by simp⟩
      · exact ⟨rfl, by simp⟩

/-- A record shows the same dashes behind its blanks as what is left of it. -/
theorem dashes_trimLeft_iff (record : Text) :
    ['-', '-'] <+: trimLeft record ↔ ['-', '-'] <+: trim (withoutComment record) := by
  obtain ⟨before, comment, hbefore, hcomment, whole⟩ := exists_comment record
  obtain ⟨lead, behind, hlead, hbehind, body⟩ := exists_trim (withoutComment record)
  obtain ⟨front, mark⟩ := head_comment hcomment
  have blanks : ∀ b ∈ behind ++ before, isBlank b := by
    rw [List.forall_mem_append]
    exact ⟨hbehind, hbefore⟩
  have split : record =
      lead ++ (trim (withoutComment record) ++ (behind ++ before ++ comment)) := by
    simp only [List.append_assoc] at body ⊢
    rw [← List.append_assoc _ behind, ← List.append_assoc lead, ← body]
    exact whole
  conv_lhs => rw [split, trimLeft_append hlead]
  cases code : trim (withoutComment record) with
  | nil =>
    rw [List.nil_append, trimLeft_append blanks, trimLeft_eq_self front]
    exact dashes_append_iff [] mark
  | cons c t =>
    have solid : isBlank c = false := head_trim (by rw [code]; rfl)
    rw [trimLeft_eq_self (by simpa using solid)]
    refine dashes_append_iff (c :: t) ?_
    cases hblanks : behind ++ before with
    | nil => exact mark
    | cons b rest =>
      have blank : isBlank b := blanks b (by rw [hblanks]; exact List.mem_cons_self)
      simpa using ne_of_blank blank rfl

theorem dashesBehindBlanks_iff (code : isCommentLine record = false) :
    dashesBehindBlanks record ↔ ['-', '-'] <+: trim (withoutComment record) := by
  rw [← dashes_trimLeft_iff, dashesBehindBlanks, Bool.and_eq_true, List.isPrefixOf_iff_prefix]
  refine and_iff_right_of_imp fun dashes => ?_
  by_contra front
  rw [trimLeft_eq_self (by simpa using front)] at dashes
  have comment : isCommentLine record := isCommentLine_iff.mpr (.inr dashes)
  rw [code] at comment
  cases comment

/-! ### Cleaning twice -/

theorem trim_squeezed (how : Cleaning) (t : Text) :
    trim (squeezed how t) = squeezed how (trim t) := by
  rw [squeezed, squeezed]
  split
  · exact trim_squeeze t
  · rfl

/-- What a record is cleaned to is a comment as a whole only if dashes behind blanks moved to the
front. -/
theorem isCommentLine_of_clean? (h : clean? how record = some text) :
    isCommentLine text = (how.trim && dashesBehindBlanks record) := by
  rw [clean?_eq] at h
  dsimp only at h
  split at h
  · cases h
  rename_i written
  obtain rfl := Option.some.inj h
  cases trims : how.trim with
  | false =>
    rw [if_neg (by simp), isCommentLine_squeezed, Bool.false_and]
    exact isCommentLine_bare record
  | true =>
    have code : isCommentLine record = false := by
      rw [Bool.eq_false_iff]
      intro comment
      simp [bare, comment, squeezed, allBlank] at written
    have cut : bare record = withoutComment record := if_neg (by simp [code])
    have unmarked : ¬ startsComment (trim (withoutComment record)) := by
      intro starts
      have none := (codeFrom_trim _).mpr (codeFrom_withoutComment record)
      rw [codeFrom_of_starts starts] at none
      cases none
    rw [if_pos rfl, Bool.true_and, Bool.eq_iff_iff, dashesBehindBlanks_iff code, cut,
      trim_squeezed, isCommentLine_squeezed, isCommentLine_iff, or_iff_right unmarked]

/-- Something is left of a record with dashes behind blanks. -/
theorem exists_clean?_of_dashes (how : Cleaning) (h : dashesBehindBlanks record) :
    ∃ text, clean? how record = some text := by
  have code : isCommentLine record = false := by
    refine not_isCommentLine_of_blank ?_
    exact (Bool.and_eq_true_iff.mp h).1
  have cut : bare record = withoutComment record := if_neg (by simp [code])
  have front := (dashesBehindBlanks_iff code).mp h
  have written : allBlank (withoutComment record) = false := by
    rw [← allBlank_trim]
    exact allBlank_eq_false (front.subset List.mem_cons_self) rfl
  simp [clean?_eq, cut, allBlank_squeezed, written]

/-- What holds of the texts of a store holds of whatever its records are cleaned to. -/
theorem forall_mem_ingest {separator : Option Text} {raw : Text} {P : Text → Prop} :
    (∀ line ∈ ingest how separator raw, P line.text) ↔
      ∀ rawLine ∈ rawLines raw, ∀ record ∈ records separator rawLine,
        ∀ text, clean? how record = some text → P text := by
  rw [← List.forall_mem_map, map_text_ingest]
  simp only [List.forall_mem_flatMap, texts, List.mem_filterMap, forall_exists_index, and_imp]
  exact forall₂_congr fun _ _ => ⟨fun h record mem text => h text record mem,
    fun h text record mem => h record mem text⟩

/-- **Cleaning again.** Let a record be cleaned to a text. Cleaned again, the text is kept as it
is, unless texts are trimmed and the record is a comment of dashes with blanks in front of it:
then nothing is left of it. So no line of a store ever begins with a marker that ends any line,
and a store is free of comment lines exactly if texts are not trimmed or none of its records has
dashes behind blanks. -/
theorem recleaning (how : Cleaning) :
    (∀ record text, clean? how record = some text →
      clean? how text = if how.trim && dashesBehindBlanks record then none else some text) ∧
    ∀ (separator : Option Text) (raw : Text),
      (∀ line ∈ ingest how separator raw, startsComment line.text = false) ∧
      ((∀ line ∈ ingest how separator raw, isCommentLine line.text = false) ↔
        (how.trim → ∀ rawLine ∈ rawLines raw, ∀ record ∈ records separator rawLine,
          dashesBehindBlanks record = false)) := by
  refine ⟨fun record text cleaned => ?_, fun separator raw => ⟨?_, ?_⟩⟩
  · rw [(tidy_of_clean? cleaned).clean?_eq, isCommentLine_of_clean? cleaned]
  · rw [forall_mem_ingest (P := fun text => startsComment text = false)]
    intro rawLine _ record _ text cleaned
    have none := commentStart?_eq_none_iff.mp (tidy_of_clean? cleaned).uncommented
    rw [Bool.eq_false_iff]
    intro starts
    rw [codeFrom_of_starts starts] at none
    cases none
  · rw [forall_mem_ingest (P := fun text => isCommentLine text = false)]
    constructor
    · intro clear trims rawLine hraw record part
      rw [Bool.eq_false_iff]
      intro dashes
      obtain ⟨text, cleaned⟩ := exists_clean?_of_dashes how dashes
      have comment := isCommentLine_of_clean? cleaned
      rw [clear rawLine hraw record part text cleaned, trims, dashes] at comment
      cases comment
    · intro clear rawLine hraw record part text cleaned
      rw [isCommentLine_of_clean? cleaned]
      cases trims : how.trim with
      | false => rfl
      | true => exact clear trims rawLine hraw record part

/-- Blanks, quotes, a trailing comment and dashes that do not begin the record. -/
theorem recleaning_kept :
    let record : Text := "  a  '# -- '  -- b // c"
    let text : Text := "a '# -- ' -- b"
    clean? {} record = some text ∧ clean? {} text = some text ∧
      ∀ line ∈ ingest {} none record, isCommentLine line.text = false := by
  intro record text
  have cleaned : clean? {} record = some text := by decide +kernel
  obtain ⟨again, stores⟩ := recleaning {}
  refine ⟨cleaned, (again record text cleaned).trans (by decide +kernel), ?_⟩
  exact (stores none record).2.mpr fun _ => by decide +kernel

/-- A comment of dashes behind a blank becomes a line of the store, and that line would be
dropped. -/
theorem recleaning_drops :
    let text : Text := "-- c"
    clean? {} " -- c" = some text ∧ clean? {} text = none ∧
      ingest {} none " -- c" = [⟨1, text⟩] := by
  decide +kernel

end Line

end CommandScript
