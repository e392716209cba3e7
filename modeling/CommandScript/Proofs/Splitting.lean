import CommandScript.Line.Basic

/-!
# Splitting and joining

Texts split at a character and joined by it again: the pieces of a text join to the text, and
texts free of the character come apart as they were. A separator of one character splits a raw
line like that, and splitting at one character and then at another is splitting at either.
-/

namespace CommandScript

namespace Text

theorem splitAt_eq_splitOn (c : Char) (t : Text) : splitAt c t = t.splitOn c := by
  induction t with
  | nil => rfl
  | cons d t ih =>
    rw [splitAt, ih]
    simp only [List.splitOn, List.splitOnP_cons_eq_if_modifyHead, beq_iff_eq]
    split
    · rfl
    · cases hp : t.splitOnP (· == c) with
      | nil => exact absurd hp (List.splitOnP_ne_nil _ t)
      | cons piece pieces => rfl

theorem joinWith_eq_intercalate (separator : Text) (pieces : List Text) :
    joinWith separator pieces = separator.intercalate pieces := by
  fun_induction joinWith separator pieces with
  | case1 => rfl
  | case2 t => simp
  | case3 t rest hne ih =>
    obtain ⟨u, rest, rfl⟩ := List.exists_cons_of_ne_nil hne
    rw [ih]
    simp [List.intercalate]

theorem splitAt_joinWith {c : Char} {pieces : List Text} (free : ∀ piece ∈ pieces, c ∉ piece)
    (nonempty : pieces ≠ []) : splitAt c (joinWith [c] pieces) = pieces := by
  rw [splitAt_eq_splitOn, joinWith_eq_intercalate]
  exact List.splitOn_intercalate c free nonempty

theorem joinWith_splitAt (c : Char) (t : Text) : joinWith [c] (splitAt c t) = t := by
  rw [splitAt_eq_splitOn, joinWith_eq_intercalate]
  exact List.intercalate_splitOn c

/-- Joined pieces go on after the first one with the separator, if at all. -/
theorem joinWith_cons (separator t : Text) (rest : List Text) :
    ∃ tail, joinWith separator (t :: rest) = t ++ tail ∧ (tail = [] ∨ separator <+: tail) := by
  cases rest with
  | nil => exact ⟨[], by simp [joinWith], .inl rfl⟩
  | cons u rest =>
    exact ⟨separator ++ joinWith separator (u :: rest), by simp [joinWith],
      .inr (List.prefix_append _ _)⟩

theorem suffix_joinWith (separator : Text) (front : List Text) (last : Text) :
    last <:+ joinWith separator (front ++ [last]) := by
  induction front with
  | nil => exact List.suffix_rfl
  | cons t front ih =>
    obtain ⟨tail, joined, -⟩ := joinWith_cons separator t (front ++ [last])
    cases front with
    | nil => exact List.suffix_append _ last
    | cons u front => exact ih.trans (List.suffix_append _ _)

theorem splitAt_ne_nil (c : Char) (t : Text) : splitAt c t ≠ [] := by
  rw [splitAt_eq_splitOn]
  exact List.splitOnP_ne_nil _ t

/-- A text falls into one piece more than it holds separators. -/
theorem length_splitAt (c : Char) (t : Text) : (splitAt c t).length = t.count c + 1 := by
  induction t with
  | nil => rfl
  | cons d t ih =>
    rw [splitAt, List.count_cons]
    split
    · rename_i same
      simp [same, ih]
    · rename_i other
      cases pieces : splitAt c t with
      | nil => exact absurd pieces (splitAt_ne_nil c t)
      | cons piece pieces =>
        rw [pieces] at ih
        simpa [other] using ih

theorem exists_splitAt_eq_concat (c : Char) (t : Text) :
    ∃ front last, splitAt c t = front ++ [last] :=
  ⟨_, _, (List.dropLast_concat_getLast (splitAt_ne_nil c t)).symm⟩

theorem exists_splitAt_eq_cons (c : Char) (t : Text) : ∃ first back, splitAt c t = first :: back :=
  List.exists_cons_of_ne_nil (splitAt_ne_nil c t)

theorem splitAt_of_not_mem {c : Char} {t : Text} (free : c ∉ t) : splitAt c t = [t] := by
  rw [splitAt_eq_splitOn, List.splitOn, List.splitOnP_eq_singleton]
  intro d hd
  simpa using fun same : d = c => free (same ▸ hd)

/-- No piece of a text holds the character it was split at. -/
theorem not_mem_of_mem_splitAt {c : Char} {t piece : Text} (h : piece ∈ splitAt c t) :
    c ∉ piece := by
  induction t generalizing piece with
  | nil => simp_all [splitAt]
  | cons d t ih =>
    rw [splitAt] at h
    split at h
    · rcases List.mem_cons.mp h with rfl | h
      · simp
      · exact ih h
    · rename_i other
      split at h
      · rename_i none
        exact absurd none (splitAt_ne_nil c t)
      · rename_i front back split
        rw [split] at ih
        rcases List.mem_cons.mp h with rfl | h
        · have apart : c ∉ front := ih (List.mem_cons_self)
          simpa using ⟨fun same => other same.symm, apart⟩
        · exact ih (List.mem_cons_of_mem _ h)

/-- Joining brings no other characters than those of the separator. -/
theorem mem_joinWith {separator : Text} {c : Char} (other : c ∉ separator) (pieces : List Text) :
    c ∈ joinWith separator pieces ↔ ∃ piece ∈ pieces, c ∈ piece := by
  fun_induction joinWith separator pieces with
  | case1 => simp
  | case2 t => simp
  | case3 t rest hne ih => simp [ih, other]

/-- A text holds what its pieces hold, and the character it was split at. -/
theorem mem_iff_splitAt {c d : Char} (other : d ≠ c) (t : Text) :
    d ∈ t ↔ ∃ piece ∈ splitAt c t, d ∈ piece := by
  have joined := mem_joinWith (by simpa using other : d ∉ [c]) (splitAt c t)
  rwa [joinWith_splitAt] at joined

theorem mem_of_mem_splitAt {c d : Char} {t piece : Text} (h : piece ∈ splitAt c t)
    (mem : d ∈ piece) : d ∈ t := by
  have other : d ≠ c := by
    rintro rfl
    exact not_mem_of_mem_splitAt h mem
  exact (mem_iff_splitAt other t).mpr ⟨piece, h, mem⟩

/-- Where two texts meet, the last piece of one and the first of the other are one. -/
theorem splitAt_append {c : Char} {t u last first : Text} {front back : List Text}
    (ht : splitAt c t = front ++ [last]) (hu : splitAt c u = first :: back) :
    splitAt c (t ++ u) = front ++ (last ++ first) :: back := by
  induction t generalizing front last with
  | nil =>
    obtain ⟨rfl, rfl⟩ : front = [] ∧ last = [] := by
      cases front with
      | nil => simpa [splitAt, eq_comm] using ht
      | cons piece front => simp [splitAt] at ht
    simpa using hu
  | cons d t ih =>
    obtain ⟨front', last', hsplit⟩ := exists_splitAt_eq_concat c t
    have rest := ih hsplit
    rw [List.cons_append, splitAt, rest]
    rw [splitAt, hsplit] at ht
    split
    · rename_i same
      rw [if_pos same, ← List.cons_append] at ht
      obtain ⟨rfl, same⟩ := List.append_inj' ht rfl
      obtain rfl := List.singleton_inj.mp same
      simp
    · rename_i other
      rw [if_neg other] at ht
      cases front' with
      | nil =>
        have ht : [] ++ [d :: last'] = front ++ [last] := ht
        obtain ⟨rfl, same⟩ := List.append_inj' ht rfl
        obtain rfl := List.singleton_inj.mp same
        simp
      | cons piece front' =>
        have ht : ((d :: piece) :: front') ++ [last'] = front ++ [last] := ht
        obtain ⟨rfl, same⟩ := List.append_inj' ht rfl
        obtain rfl := List.singleton_inj.mp same
        simp

/-- Splitting at one character and the pieces at another is splitting at either. -/
theorem flatMap_splitAt (c d : Char) (t : Text) :
    (splitAt c t).flatMap (splitAt d) = t.splitOnP fun e => e == c || e == d := by
  have split (e : Char) : splitAt e = List.splitOnP (· == e) := funext (splitAt_eq_splitOn e)
  rw [split, split]
  induction t with
  | nil => rfl
  | cons e t ih =>
    obtain ⟨first, back, hsplit⟩ := List.exists_cons_of_ne_nil (List.splitOnP_ne_nil (· == c) t)
    obtain ⟨piece, pieces, hfirst⟩ :=
      List.exists_cons_of_ne_nil (List.splitOnP_ne_nil (· == d) first)
    rw [hsplit, List.flatMap_cons, hfirst] at ih
    rw [List.splitOnP_cons_eq_if_modifyHead, List.splitOnP_cons_eq_if_modifyHead, ← ih, hsplit]
    by_cases hc : e = c
    · simp [hc, hfirst]
    · by_cases hd : e = d
      · subst hd
        simp [hc, hfirst, List.splitOnP_cons_eq_if_modifyHead]
      · simp [hc, hd, hfirst, List.splitOnP_cons_eq_if_modifyHead]

end Text

namespace Line

open Text

/-- A separator of one character splits a raw line at that character. -/
theorem records_char (c : Char) (t : Text) : records (some [c]) t = splitAt c t := by
  show splitFrom [c] 0 t = splitAt c t
  induction t with
  | nil => rfl
  | cons d t ih =>
    rw [splitFrom, splitAt, ← ih]
    by_cases same : d = c
    · simp [same]
    · have absent : [c].isPrefixOf (d :: t) = false := by
        rw [Bool.eq_false_iff, Ne, List.isPrefixOf_iff_prefix, List.cons_prefix_cons]
        rintro ⟨rfl, -⟩
        exact same rfl
      rw [absent, if_neg same]
      rfl

theorem splitFrom_of_append {separator t u : Text}
    (h : splitFrom separator 0 (t ++ u) = [t ++ u]) : splitFrom separator 0 t = [t] := by
  induction t with
  | nil => rfl
  | cons d t ih =>
    rw [List.cons_append, splitFrom] at h
    split at h
    · simp at h
    · rename_i absent
      have front : separator.isPrefixOf (d :: t) = false := by
        rw [Bool.eq_false_iff]
        intro h
        rw [List.isPrefixOf_iff_prefix] at absent h
        exact absent (h.trans (List.prefix_append _ u))
      have tail : splitFrom separator 0 (t ++ u) = [t ++ u] := by
        split at h
        · simp_all [splitFrom]
        · simp_all
      rw [splitFrom, front, ih tail]
      rfl

/-- A line in which a separator does not occur has no place for it in front either. -/
theorem records_of_append {separator : Option Text} {t u : Text}
    (h : records separator (t ++ u) = [t ++ u]) : records separator t = [t] := by
  match separator with
  | none => rfl
  | some [] => simp [records] at h
  | some (c :: rest) => exact splitFrom_of_append h

end Line

end CommandScript
