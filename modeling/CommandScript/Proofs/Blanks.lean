import Mathlib.Data.List.Chain
import Mathlib.Data.List.DropRight
import CommandScript.Text.Blank

/-!
# Blanks

Trimming takes blanks off the ends of a text, and squeezing makes one space of every run of
them. Neither touches anything else, and it does not matter which is done first.
-/

namespace CommandScript

@[simp] theorem isBlank_space : isBlank ' ' = true := rfl

theorem ne_of_blank {b c : Char} (hb : isBlank b) (hc : isBlank c = false) : b ≠ c := by
  rintro rfl
  rw [hb] at hc
  cases hc

namespace Text

/-- The characters in front of one that does not fit are those that fit. -/
theorem takeWhile_append_stop {fits : Char → Bool} {front rest : Text}
    (inside : ∀ c ∈ front, fits c = true) (stop : rest.head?.any fits = false) :
    (front ++ rest).takeWhile fits = front ∧ (front ++ rest).dropWhile fits = rest := by
  rw [List.takeWhile_append_of_pos inside, List.dropWhile_append_of_pos inside]
  cases rest with
  | nil => simp
  | cons c rest =>
    have hc : fits c = false := by simpa using stop
    simp [hc]

/-! ### Trimming -/

theorem allBlank_eq_false {c : Char} {t : Text} (h : c ∈ t) (hc : isBlank c = false) :
    allBlank t = false := by
  rw [allBlank, List.all_eq_false]
  exact ⟨c, h, by simp [hc]⟩

theorem allBlank_cons (c : Char) (t : Text) : allBlank (c :: t) = (isBlank c && allBlank t) :=
  List.all_cons

/-- Trimming takes off blanks only. -/
theorem exists_trimLeft (t : Text) :
    ∃ lead : Text, (∀ c ∈ lead, isBlank c) ∧ t = lead ++ trimLeft t :=
  ⟨t.takeWhile isBlank, fun _ hc => List.mem_takeWhile_imp hc,
    List.takeWhile_append_dropWhile.symm⟩

theorem trimLeft_append {lead t : Text} (h : ∀ c ∈ lead, isBlank c) :
    trimLeft (lead ++ t) = trimLeft t :=
  List.dropWhile_append_of_pos h

theorem not_mem_trimLeft {c : Char} {t : Text} (free : c ∉ t) : c ∉ trimLeft t :=
  fun mem => free ((List.dropWhile_sublist isBlank).subset mem)

theorem head_trimLeft (t : Text) : (trimLeft t).head?.any isBlank = false := by
  rw [trimLeft]
  cases h : t.dropWhile isBlank with
  | nil => rfl
  | cons c rest =>
    have stop := List.head?_dropWhile_not isBlank t
    rw [h] at stop
    simpa using stop

theorem trimLeft_eq_self {t : Text} (h : t.head?.any isBlank = false) : trimLeft t = t := by
  cases t with
  | nil => rfl
  | cons c t => exact List.dropWhile_cons_of_neg (by simpa using h)

theorem trimRight_eq_rdropWhile (t : Text) : trimRight t = t.rdropWhile isBlank := rfl

theorem exists_trimRight (t : Text) :
    ∃ blanks : Text, (∀ b ∈ blanks, isBlank b) ∧ t = trimRight t ++ blanks := by
  refine ⟨t.rtakeWhile isBlank, fun b hb => List.mem_rtakeWhile_imp hb, ?_⟩
  exact (List.rdropWhile_append_rtakeWhile ..).symm

theorem not_mem_trimRight {c : Char} {t : Text} (free : c ∉ t) : c ∉ trimRight t := by
  obtain ⟨blanks, -, whole⟩ := exists_trimRight t
  rw [whole, List.mem_append, not_or] at free
  exact free.1

theorem trimRight_eq_nil_iff {t : Text} : trimRight t = [] ↔ allBlank t = true := by
  rw [trimRight_eq_rdropWhile, List.rdropWhile_eq_nil_iff, allBlank, List.all_eq_true]

/-- A trimmed text ends in no blank. -/
theorem last_trimRight {c : Char} {t : Text} (h : (trimRight t).getLast? = some c) :
    isBlank c = false := by
  rw [trimRight_eq_rdropWhile] at h
  have hne : t.rdropWhile isBlank ≠ [] := by
    intro none
    rw [none] at h
    cases h
  have last := List.rdropWhile_last_not isBlank t hne
  rw [List.getLast?_eq_some_getLast hne, Option.some.injEq] at h
  simpa [h] using last

theorem trimRight_append {t blanks : Text} (h : ∀ b ∈ blanks, isBlank b) :
    trimRight (t ++ blanks) = trimRight t := by
  rw [trimRight, List.reverse_append, List.dropWhile_append_of_pos]
  · rfl
  · simpa using h

theorem trimRight_eq_self {t : Text} (h : ∀ c, t.getLast? = some c → isBlank c = false) :
    trimRight t = t := by
  rw [trimRight_eq_rdropWhile, List.rdropWhile_eq_self_iff]
  intro hne
  simpa using h _ (List.getLast?_eq_some_getLast hne)

/-- A text without blanks at its ends stays as it is. -/
theorem trim_eq_self {t : Text} (front : t.head?.any isBlank = false)
    (back : ∀ c, t.getLast? = some c → isBlank c = false) : trim t = t := by
  rw [trim, trimLeft_eq_self front, trimRight_eq_self back]

theorem exists_trim (t : Text) :
    ∃ lead blanks : Text, (∀ c ∈ lead, isBlank c) ∧ (∀ c ∈ blanks, isBlank c) ∧
      t = lead ++ (trim t ++ blanks) := by
  obtain ⟨lead, hlead, whole⟩ := exists_trimLeft t
  obtain ⟨blanks, hblanks, rest⟩ := exists_trimRight (trimLeft t)
  refine ⟨lead, blanks, hlead, hblanks, ?_⟩
  rw [trim, ← rest]
  exact whole

/-- A trimmed text begins with no blank. -/
theorem head_trim {c : Char} {t : Text} (h : (trim t).head? = some c) : isBlank c = false := by
  obtain ⟨u, hu⟩ := List.head?_eq_some_iff.mp h
  obtain ⟨blanks, -, whole⟩ := exists_trimRight (trimLeft t)
  have front := head_trimLeft t
  rw [whole, ← trim, hu] at front
  simpa using front

theorem allBlank_trim (t : Text) : allBlank (trim t) = allBlank t := by
  obtain ⟨lead, blanks, hlead, hblanks, whole⟩ := exists_trim t
  have left : lead.all isBlank = true := List.all_eq_true.mpr hlead
  have right : blanks.all isBlank = true := List.all_eq_true.mpr hblanks
  have both : allBlank t = allBlank (lead ++ (trim t ++ blanks)) := congrArg allBlank whole
  rw [both, allBlank, allBlank, List.all_append, List.all_append, left, right, Bool.true_and,
    Bool.and_true]

theorem trimRight_cons (c : Char) (t : Text) :
    trimRight (c :: t) = if isBlank c && allBlank t then [] else c :: trimRight t := by
  have blank : (t.reverse.dropWhile isBlank).isEmpty = allBlank t := by
    rw [Bool.eq_iff_iff, List.isEmpty_iff, List.dropWhile_eq_nil_iff, allBlank, List.all_eq_true]
    simp
  rw [trimRight, List.reverse_cons, List.dropWhile_append, blank]
  cases ht : allBlank t with
  | false => simp [trimRight]
  | true =>
    have nothing : t.reverse.dropWhile isBlank = [] := by simpa [ht] using blank
    cases hc : isBlank c <;> simp [hc, trimRight, nothing]

/-! ### Squeezing -/

/-- A character stays as it is, but a blank only before something else. -/
theorem squeeze_cons {c : Char} {t : Text} (alone : isBlank c → t.head?.any isBlank = false) :
    squeeze (c :: t) = c :: squeeze t := by
  cases hc : isBlank c with
  | false => simp [squeeze, hc]
  | true => simp [squeeze, alone hc]

theorem squeeze_eq_nil_iff {t : Text} : squeeze t = [] ↔ t = [] := by
  cases t with
  | nil => simp
  | cons c t =>
    rw [squeeze]
    split <;> simp

/-- Two blanks count for one space. -/
theorem squeeze_pair {b c : Char} (hb : isBlank b) (hc : isBlank c) (t : Text) :
    squeeze (b :: c :: t) = squeeze (' ' :: t) := by
  cases t with
  | nil => simp [squeeze, hb, hc]
  | cons d t => cases hd : isBlank d <;> simp [squeeze, hb, hc, hd]

/-- Squeezing step by step: two blanks become a space, or the first character stays. -/
theorem squeeze_induction {motive : Text → Prop} (nil : motive [])
    (pair : ∀ b c t, isBlank b → isBlank c → motive (' ' :: t) → motive (b :: c :: t))
    (single : ∀ c t, (isBlank c → t.head?.any isBlank = false) → motive t → motive (c :: t))
    (t : Text) : motive t := by
  match t with
  | [] => exact nil
  | [c] => exact single c [] (fun _ => rfl) nil
  | b :: c :: t =>
    by_cases hb : isBlank b
    · by_cases hc : isBlank c
      · exact pair b c t hb hc (squeeze_induction nil pair single (' ' :: t))
      · exact single b _ (fun _ => by simpa using hc) (squeeze_induction nil pair single (c :: t))
    · exact single b _ (fun h => absurd h hb) (squeeze_induction nil pair single (c :: t))
termination_by t.length

/-- Squeezing takes away and adds blanks only. -/
theorem mem_squeeze {c : Char} (hc : isBlank c = false) (t : Text) : c ∈ squeeze t ↔ c ∈ t := by
  induction t using squeeze_induction with
  | nil => rfl
  | pair b d t hb hd ih =>
    have other {b : Char} (hb : isBlank b) : c ≠ b := (ne_of_blank hb hc).symm
    rw [squeeze_pair hb hd]
    exact ih.trans (by simp [other hb, other hd, other isBlank_space])
  | single d t alone ih => simp [squeeze_cons alone, ih]

theorem head_squeeze {c : Char} (hc : isBlank c = false) (t : Text) :
    (squeeze t).head? = some c ↔ t.head? = some c := by
  induction t using squeeze_induction with
  | nil => rfl
  | pair b d t hb hd ih =>
    rw [squeeze_pair hb hd]
    exact ih.trans (by simp [ne_of_blank hb hc, ne_of_blank isBlank_space hc])
  | single d t alone _ => simp [squeeze_cons alone]

theorem allBlank_squeeze (t : Text) : allBlank (squeeze t) = allBlank t := by
  induction t using squeeze_induction with
  | nil => rfl
  | pair b d t hb hd ih =>
    rw [squeeze_pair hb hd, ih]
    simp [allBlank, hb, hd]
  | single d t alone ih =>
    rw [squeeze_cons alone, allBlank, List.all_cons]
    exact congrArg (isBlank d && ·) ih

theorem trimRight_squeeze (t : Text) : trimRight (squeeze t) = squeeze (trimRight t) := by
  induction t using squeeze_induction with
  | nil => rfl
  | pair b c t hb hc ih =>
    have behind : allBlank (c :: t) = allBlank t := by simp [allBlank, hc]
    rw [squeeze_pair hb hc, ih, trimRight_cons, trimRight_cons b, trimRight_cons c, behind]
    cases allBlank t with
    | false => simp [squeeze_pair hb hc]
    | true => simp [hb]
  | single c t alone ih =>
    rw [squeeze_cons alone, trimRight_cons, trimRight_cons, allBlank_squeeze, ih]
    split
    · rfl
    · refine (squeeze_cons fun hc => ?_).symm
      obtain ⟨blanks, -, ht⟩ := exists_trimRight t
      have alone := alone hc
      rw [ht] at alone
      cases h : trimRight t with
      | nil => rfl
      | cons d u =>
        rw [h] at alone
        exact alone

theorem trimLeft_squeeze (t : Text) : trimLeft (squeeze t) = squeeze (trimLeft t) := by
  induction t using squeeze_induction with
  | nil => rfl
  | pair b c t hb hc ih =>
    have lead : trimLeft (b :: c :: t) = trimLeft (' ' :: t) := by
      simp only [trimLeft, List.dropWhile_cons, hb, hc, isBlank_space, if_true]
    rw [squeeze_pair hb hc, ih, lead]
  | single c t alone ih =>
    rw [squeeze_cons alone]
    cases hc : isBlank c with
    | true => simpa [trimLeft, hc] using ih
    | false => simp [trimLeft, hc, squeeze_cons alone]

theorem trim_squeeze (t : Text) : trim (squeeze t) = squeeze (trim t) := by
  rw [trim, trimLeft_squeeze, trimRight_squeeze, trim]

/-- No two blanks of a squeezed text stand side by side. -/
theorem isChain_squeeze (t : Text) :
    (squeeze t).IsChain fun b c => ¬ (isBlank b ∧ isBlank c) := by
  induction t using squeeze_induction with
  | nil => exact .nil
  | pair b c t hb hc ih =>
    rw [squeeze_pair hb hc]
    exact ih
  | single c t alone ih =>
    rw [squeeze_cons alone, List.isChain_cons]
    refine ⟨fun d front both => ?_, ih⟩
    have next := alone both.1
    cases t with
    | nil => cases front
    | cons e t =>
      have he : isBlank e = false := by simpa using next
      have same := (head_squeeze he (e :: t)).mpr rfl
      obtain rfl : d = e := Option.some.inj (front.symm.trans same)
      rw [he] at both
      cases both.2

/-- A text without a run of blanks stays as it is. -/
theorem squeeze_eq_self {t : Text} (h : t.IsChain fun b c => ¬ (isBlank b ∧ isBlank c)) :
    squeeze t = t := by
  induction t with
  | nil => rfl
  | cons b t ih =>
    have alone : isBlank b → t.head?.any isBlank = false := by
      intro hb
      cases t with
      | nil => rfl
      | cons d t =>
        have apart := (List.isChain_cons_cons.mp h).1
        simpa [hb] using apart
    rw [squeeze_cons alone, ih h.of_cons]

theorem squeeze_append_of_not_blank {t : Text} (h : ∀ c ∈ t, isBlank c = false) (u : Text) :
    squeeze (t ++ u) = t ++ squeeze u := by
  induction t with
  | nil => rfl
  | cons c t ih =>
    rw [List.forall_mem_cons] at h
    rw [List.cons_append, squeeze_cons (by simp [h.1]), ih h.2]
    rfl

/-- What does not begin with a blank is squeezed by itself. -/
theorem squeeze_append {u : Text} (front : u.head?.any isBlank = false) (t : Text) :
    squeeze (t ++ u) = squeeze t ++ squeeze u := by
  induction t using squeeze_induction with
  | nil => rfl
  | pair b c t hb hc ih =>
    rw [List.cons_append, List.cons_append, squeeze_pair hb hc, squeeze_pair hb hc]
    exact ih
  | single c t alone ih =>
    have still : isBlank c → (t ++ u).head?.any isBlank = false := by
      cases t with
      | nil => exact fun _ => front
      | cons d t => exact alone
    rw [List.cons_append, squeeze_cons still, squeeze_cons alone, ih]
    rfl

/-- So it does in front of a character that is none. -/
theorem squeeze_concat {t : Text} (h : t.IsChain fun b c => ¬ (isBlank b ∧ isBlank c)) {c : Char}
    (hc : isBlank c = false) : squeeze (t ++ [c]) = t ++ [c] := by
  refine squeeze_eq_self (List.isChain_append.mpr ⟨h, .singleton c, fun b _ d last both => ?_⟩)
  obtain rfl : c = d := by simpa using last
  rw [hc] at both
  cases both.2

end Text

end CommandScript
