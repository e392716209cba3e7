import CommandScript.Line.Basic
import CommandScript.Proofs.Blanks

/-!
# Comments

What stands in front of the comment of a line holds no comment, for a quote opens only where it
closes in front of the marker. Squeezing leaves the comment at its place, because the scan
passes over every blank alike.
-/

namespace CommandScript

/-! ### Where a comment starts -/

/-- The quote that is open behind a character, none where a comment starts at it. -/
def openAfter? (open? : Option Char) (c : Char) (rest : Text) : Option (Option Char) :=
  match open? with
  | some quote => some (if c = quote then none else some quote)
  | none =>
    if isQuote c && rest.contains c then some (some c)
    else if startsComment (c :: rest) then none
    else some none

/-- The text in front of the first comment, read inside the given open quote, none where
there is no comment. -/
def codeFrom (open? : Option Char) : Text → Option Text
  | [] => none
  | ['\\'] => none
  | '\\' :: c :: rest => (codeFrom open? rest).map ('\\' :: c :: ·)
  | c :: rest =>
    match openAfter? open? c rest with
    | some next? => (codeFrom next? rest).map (c :: ·)
    | none => some []

/-- It is what stands before the offset at which the comment is found. -/
theorem codeFrom_eq (open? : Option Char) (t : Text) :
    codeFrom open? t = (commentFrom open? t).map (t.take ·) := by
  fun_induction commentFrom open? t with
  | case1 => rfl
  | case2 => rfl
  | case3 open? c rest ih => simp [codeFrom, ih, Function.comp_def]
  | case4 c rest alone escape quote ih =>
    simp [codeFrom, openAfter?, ih, Function.comp_def]
  | case5 c rest alone escape opens ih =>
    have step : openAfter? none c rest = some (some c) := by rw [openAfter?, if_pos opens]
    simp [codeFrom, step, ih, Function.comp_def]
  | case6 c rest alone escape closed starts =>
    have step : openAfter? none c rest = none := by
      rw [openAfter?, if_neg closed, if_pos starts]
    simp [codeFrom, step]
  | case7 c rest alone escape closed plain ih =>
    have step : openAfter? none c rest = some none := by
      rw [openAfter?, if_neg closed, if_neg plain]
    simp [codeFrom, step, ih, Function.comp_def]

section

variable {open? : Option Char} {c : Char} {t u code : Text}

/-- What a character does depends on whether its quote closes and on the marker it starts. -/
theorem openAfter?_congr (closes : isQuote c → (c ∈ t ↔ c ∈ u))
    (mark : startsComment (c :: t) = startsComment (c :: u)) :
    openAfter? open? c t = openAfter? open? c u := by
  cases open? with
  | some quote => rfl
  | none =>
    have same : (isQuote c && t.contains c) = (isQuote c && u.contains c) := by
      cases hc : isQuote c with
      | false => rfl
      | true => simp [closes hc]
    rw [openAfter?, openAfter?, same, mark]

theorem startsComment_of_openAfter? (h : openAfter? open? c t = none) :
    startsComment (c :: t) := by
  unfold openAfter? at h
  split at h
  · cases h
  · split at h
    · cases h
    · split at h
      · assumption
      · cases h

theorem ne_backslash (alone : c = '\\' → t = [] → False)
    (escape : ∀ d u, c = '\\' → t = d :: u → False) : c ≠ '\\' := by
  intro same
  cases t with
  | nil => exact alone same rfl
  | cons d u => exact escape d u same rfl

theorem codeFrom_cons (hc : c ≠ '\\') :
    codeFrom open? (c :: t) =
      match openAfter? open? c t with
      | some next? => (codeFrom next? t).map (c :: ·)
      | none => some [] := by
  rw [codeFrom.eq_def]
  split
  · simp_all
  · simp_all
  · simp_all
  · simp_all

/-- What follows is a comment. -/
theorem codeFrom_eq_some (h : codeFrom open? t = some code) :
    ∃ comment, t = code ++ comment ∧ startsComment comment := by
  fun_induction codeFrom open? t generalizing code with
  | case1 => cases h
  | case2 => cases h
  | case3 open? c rest ih =>
    obtain ⟨code, front, rfl⟩ := Option.map_eq_some_iff.mp h
    obtain ⟨comment, rfl, starts⟩ := ih front
    exact ⟨comment, rfl, starts⟩
  | case4 open? c rest alone escape next? step ih =>
    obtain ⟨code, front, rfl⟩ := Option.map_eq_some_iff.mp h
    obtain ⟨comment, rfl, starts⟩ := ih front
    exact ⟨comment, rfl, starts⟩
  | case5 open? c rest alone escape stop =>
    cases h
    exact ⟨c :: rest, rfl, startsComment_of_openAfter? stop⟩

/-- A quote that is open is closed in front of the comment. -/
theorem mem_of_codeFrom {quote : Char} (h : codeFrom (some quote) t = some code) :
    quote ∈ code := by
  generalize hopen : some quote = open? at h
  fun_induction codeFrom open? t generalizing code with
  | case1 => cases h
  | case2 => cases h
  | case3 open? c rest ih =>
    obtain ⟨code, front, rfl⟩ := Option.map_eq_some_iff.mp h
    simp [ih hopen front]
  | case4 open? c rest alone escape next? step ih =>
    obtain ⟨code, front, rfl⟩ := Option.map_eq_some_iff.mp h
    subst hopen
    by_cases same : c = quote
    · simp [same]
    · have still : some quote = next? := by simpa [openAfter?, same] using step
      simp [ih still front]
  | case5 open? c rest alone escape stop =>
    subst hopen
    cases stop

theorem startsComment_cons_iff :
    startsComment (c :: t) ↔ c = '#' ∨ c = '/' ∧ t.head? = some '/' := by
  unfold startsComment
  split
  · simp_all
  · simp_all
  · rename_i hash slashes
    constructor
    · intro h
      cases h
    · rintro (rfl | ⟨rfl, ht⟩)
      · exact absurd rfl (hash t)
      · obtain ⟨t, rfl⟩ := List.head?_eq_some_iff.mp ht
        exact absurd rfl (slashes t)

theorem not_startsComment_of_isQuote (h : isQuote c) : ¬ startsComment (c :: t) := by
  rw [startsComment_cons_iff]
  rintro (rfl | ⟨rfl, -⟩)
  · cases h
  · cases h

/-- A marker in front starts a comment. -/
theorem codeFrom_of_starts (h : startsComment t) : codeFrom none t = some [] := by
  cases t with
  | nil => cases h
  | cons c t =>
    have noQuote : ¬ isQuote c := fun quote => not_startsComment_of_isQuote quote h
    have plain : c ≠ '\\' := by
      rintro rfl
      simp [startsComment] at h
    have stop : openAfter? none c t = none := by simp [openAfter?, noQuote, h]
    rw [codeFrom_cons plain, stop]

theorem isCommentLine_cons_iff :
    isCommentLine (c :: t) ↔ startsComment (c :: t) ∨ c = '-' ∧ t.head? = some '-' := by
  rw [startsComment_cons_iff]
  unfold isCommentLine
  split
  · simp_all
  · simp_all
  · simp_all
  · rename_i hash slashes dashes
    constructor
    · intro h
      cases h
    · rintro ((rfl | ⟨rfl, ht⟩) | ⟨rfl, ht⟩)
      · exact absurd rfl (hash t)
      · obtain ⟨t, rfl⟩ := List.head?_eq_some_iff.mp ht
        exact absurd rfl (slashes t)
      · obtain ⟨t, rfl⟩ := List.head?_eq_some_iff.mp ht
        exact absurd rfl (dashes t)

theorem startsComment_append (h : startsComment t) : startsComment (t ++ u) := by
  unfold startsComment at h
  split at h
  · rfl
  · rfl
  · cases h

/-- A character that starts no comment starts none where the rest is cut short, as long as
its quote still closes. -/
theorem openAfter?_of_append {next? : Option Char} (h : openAfter? open? c (t ++ u) = some next?)
    (closes : isQuote c → next? = some c → c ∈ t) : openAfter? open? c t = some next? := by
  cases open? with
  | some quote => exact h
  | none =>
    simp only [openAfter?] at h ⊢
    split at h
    · rename_i opens
      cases h
      have quote : isQuote c := (Bool.and_eq_true_iff.mp opens).1
      rw [if_pos (by simp [quote, closes quote rfl])]
    · rename_i closed
      split at h
      · cases h
      · rename_i plain
        cases h
        have still : ¬ (isQuote c && t.contains c) := by
          simp_all
        rw [if_neg still, if_neg fun starts => plain (startsComment_append starts)]

theorem not_blank_of_isQuote (h : isQuote c) : isBlank c = false := by
  obtain rfl | rfl : c = '"' ∨ c = '\'' := by simpa [isQuote] using h
  · rfl
  · rfl

/-- What stands in front of a comment holds none, also without the blanks behind it. -/
theorem codeFrom_code {blanks : Text} (h : codeFrom open? t = some (u ++ blanks))
    (hblanks : ∀ b ∈ blanks, isBlank b) : codeFrom open? u = none := by
  fun_induction codeFrom open? t generalizing u with
  | case1 => cases h
  | case2 => cases h
  | case3 open? c rest ih =>
    obtain ⟨code, front, same⟩ := Option.map_eq_some_iff.mp h
    obtain ⟨rfl, -⟩ | ⟨u, rfl, behind⟩ := List.cons_eq_append_iff.mp same
    · rfl
    · obtain ⟨rfl, -⟩ | ⟨u, rfl, rfl⟩ := List.cons_eq_append_iff.mp behind
      · rfl
      · rw [codeFrom, ih front]
        rfl
  | case4 open? c rest alone escape next? step ih =>
    have hc := ne_backslash alone escape
    obtain ⟨code, front, same⟩ := Option.map_eq_some_iff.mp h
    obtain ⟨rfl, -⟩ | ⟨u, rfl, rfl⟩ := List.cons_eq_append_iff.mp same
    · rfl
    · obtain ⟨comment, rfl, -⟩ := codeFrom_eq_some front
      rw [List.append_assoc] at step
      have step : openAfter? open? c u = some next? := by
        refine openAfter?_of_append step fun quote opens => ?_
        subst opens
        rcases List.mem_append.mp (mem_of_codeFrom front) with inside | behind
        · exact inside
        · have blank := hblanks c behind
          rw [not_blank_of_isQuote quote] at blank
          cases blank
      rw [codeFrom_cons hc, step]
      simp only [ih front, Option.map_none]
  | case5 open? c rest alone escape stop =>
    obtain ⟨rfl, -⟩ : u = [] ∧ blanks = [] := by simpa [eq_comm] using h
    rfl

/-- Scanning passes over a blank. -/
theorem codeFrom_blank (quotes : ∀ quote ∈ open?, isQuote quote) (hc : isBlank c) :
    codeFrom open? (c :: t) = (codeFrom open? t).map (c :: ·) := by
  have plain : ¬ startsComment (c :: t) := by
    intro starts
    rcases startsComment_cons_iff.mp starts with rfl | ⟨rfl, -⟩
    · exact ne_of_blank hc rfl rfl
    · exact ne_of_blank hc rfl rfl
  have step : openAfter? open? c t = some open? := by
    cases open? with
    | some quote =>
      have still : c ≠ quote := ne_of_blank hc (not_blank_of_isQuote (quotes quote rfl))
      simp only [openAfter?, if_neg still]
    | none =>
      have noQuote : ¬ isQuote c := fun quote => ne_of_blank hc (not_blank_of_isQuote quote) rfl
      simp [openAfter?, noQuote, plain]
  rw [codeFrom_cons (ne_of_blank hc rfl), step]

theorem isQuote_of_openAfter? {next? : Option Char} (quotes : ∀ quote ∈ open?, isQuote quote)
    (h : openAfter? open? c t = some next?) : ∀ quote ∈ next?, isQuote quote := by
  cases open? with
  | some quote =>
    cases h
    split
    · simp
    · exact quotes
  | none =>
    simp only [openAfter?] at h
    split at h
    · rename_i opens
      cases h
      simpa using (Bool.and_eq_true_iff.mp opens).1
    · split at h
      · cases h
      · cases h
        simp

/-- Blanks in front of a line stand in front of its comment too. -/
theorem codeFrom_lead {lead : Text} (quotes : ∀ quote ∈ open?, isQuote quote)
    (hlead : ∀ b ∈ lead, isBlank b) :
    codeFrom open? (lead ++ t) = (codeFrom open? t).map (lead ++ ·) := by
  induction lead with
  | nil => simp
  | cons b lead ih =>
    obtain ⟨hb, hlead⟩ := List.forall_mem_cons.mp hlead
    rw [List.cons_append, codeFrom_blank quotes hb, ih hlead, Option.map_map]
    rfl

theorem openAfter?_append_blanks {blanks : Text} (hblanks : ∀ b ∈ blanks, isBlank b) :
    openAfter? open? c (t ++ blanks) = openAfter? open? c t := by
  refine openAfter?_congr (fun quote => ?_) ?_
  · rw [List.mem_append, or_iff_left]
    intro mem
    exact ne_of_blank (hblanks c mem) (not_blank_of_isQuote quote) rfl
  · have front : (t ++ blanks).head? = some '/' ↔ t.head? = some '/' := by
      cases t with
      | cons d t => exact Iff.rfl
      | nil =>
        refine iff_of_false (fun slash => ?_) (by simp)
        exact ne_of_blank (hblanks _ (List.mem_of_mem_head? slash)) rfl rfl
    rw [Bool.eq_iff_iff, startsComment_cons_iff, startsComment_cons_iff, front]

/-- Blanks behind a line do not matter. -/
theorem codeFrom_append_blanks {blanks : Text} (quotes : ∀ quote ∈ open?, isQuote quote)
    (hblanks : ∀ b ∈ blanks, isBlank b) : codeFrom open? (t ++ blanks) = codeFrom open? t := by
  have alone {open? : Option Char} (quotes : ∀ quote ∈ open?, isQuote quote) {blanks : Text}
      (hblanks : ∀ b ∈ blanks, isBlank b) : codeFrom open? blanks = none := by
    have lead : codeFrom open? (blanks ++ []) = _ := codeFrom_lead quotes hblanks
    rwa [List.append_nil] at lead
  fun_induction codeFrom open? t with
  | case1 => exact alone quotes hblanks
  | case2 =>
    cases blanks with
    | nil => rfl
    | cons b blanks =>
      rw [List.singleton_append, codeFrom, alone quotes (List.forall_mem_cons.mp hblanks).2]
      rfl
  | case3 open? c rest ih =>
    rw [List.cons_append, List.cons_append, codeFrom, ih quotes]
  | case4 open? c rest alone escape next? step ih =>
    rw [List.cons_append, codeFrom_cons (ne_backslash alone escape),
      openAfter?_append_blanks hblanks, step]
    exact congrArg (Option.map _) (ih (isQuote_of_openAfter? quotes step))
  | case5 open? c rest alone escape stop =>
    rw [List.cons_append, codeFrom_cons (ne_backslash alone escape),
      openAfter?_append_blanks hblanks, stop]

/-- Trimming a line neither brings nor takes a comment. -/
theorem codeFrom_trim (t : Text) :
    codeFrom none (Text.trim t) = none ↔ codeFrom none t = none := by
  obtain ⟨lead, blanks, hlead, hblanks, whole⟩ := Text.exists_trim t
  have cut : codeFrom none t = (codeFrom none (Text.trim t)).map (lead ++ ·) :=
    calc codeFrom none t
      _ = codeFrom none (lead ++ (Text.trim t ++ blanks)) := congrArg _ whole
      _ = (codeFrom none (Text.trim t ++ blanks)).map (lead ++ ·) := codeFrom_lead (by simp) hlead
      _ = (codeFrom none (Text.trim t)).map (lead ++ ·) := by
        rw [codeFrom_append_blanks (by simp) hblanks]
  rw [cut, Option.map_eq_none_iff]

/-- A line has its comment at the same place however its blanks are squeezed. -/
theorem codeFrom_squeeze (quotes : ∀ quote ∈ open?, isQuote quote) (t : Text) :
    codeFrom open? (Text.squeeze t) = (codeFrom open? t).map Text.squeeze := by
  -- The character behind a backslash is skipped, so both readings of a place go together.
  suffices both : codeFrom open? (Text.squeeze t) = (codeFrom open? t).map Text.squeeze ∧
      codeFrom open? ('\\' :: Text.squeeze t) = (codeFrom open? ('\\' :: t)).map Text.squeeze from
    both.1
  have escape (t : Text) : Text.squeeze ('\\' :: t) = '\\' :: Text.squeeze t :=
    Text.squeeze_cons fun h => absurd h (by decide)
  induction t using Text.squeeze_induction generalizing open? with
  | nil => exact ⟨rfl, rfl⟩
  | pair b c t hb hc ih =>
    obtain ⟨plain, escaped⟩ := ih quotes
    rw [codeFrom_blank quotes rfl] at plain
    rw [codeFrom] at escaped
    rw [Text.squeeze_pair hb hc, plain, escaped, codeFrom_blank quotes hb, codeFrom,
      codeFrom_blank quotes hc]
    simp [Function.comp_def, Text.squeeze_pair hb hc, escape]
  | single c t alone ih =>
    have own {code : Text} {next? : Option Char} (h : codeFrom next? t = some code) :
        Text.squeeze (c :: code) = c :: Text.squeeze code := by
      refine Text.squeeze_cons fun hc => ?_
      obtain ⟨comment, rfl, -⟩ := codeFrom_eq_some h
      cases code with
      | nil => rfl
      | cons d code => exact alone hc
    have mapped {next? : Option Char} (quotes : ∀ quote ∈ next?, isQuote quote) :
        (codeFrom next? (Text.squeeze t)).map (c :: ·) =
          ((codeFrom next? t).map (c :: ·)).map Text.squeeze := by
      rw [(ih quotes).1, Option.map_map, Option.map_map]
      exact Option.map_congr fun code h => (own h).symm
    rw [Text.squeeze_cons alone]
    constructor
    · by_cases hc : c = '\\'
      · subst hc
        exact (ih quotes).2
      · have step : openAfter? open? c (Text.squeeze t) = openAfter? open? c t := by
          refine openAfter?_congr (fun quote => Text.mem_squeeze (not_blank_of_isQuote quote) t) ?_
          rw [Bool.eq_iff_iff, startsComment_cons_iff, startsComment_cons_iff,
            Text.head_squeeze rfl]
        rw [codeFrom_cons hc, codeFrom_cons hc, step]
        cases hnext : openAfter? open? c t with
        | none => rfl
        | some next? => exact mapped (isQuote_of_openAfter? quotes hnext)
    · rw [codeFrom, codeFrom, (ih quotes).1, Option.map_map, Option.map_map]
      refine Option.map_congr fun code h => ?_
      simp only [Function.comp_apply, escape, own h]

theorem isCommentLine_append (h : isCommentLine t) : isCommentLine (t ++ u) := by
  unfold isCommentLine at h
  split at h
  · rfl
  · rfl
  · rfl
  · cases h

/-- Squeezing does not touch a marker in front. -/
theorem isCommentLine_squeeze (t : Text) : isCommentLine (Text.squeeze t) = isCommentLine t := by
  induction t using Text.squeeze_induction with
  | nil => rfl
  | pair b c t hb hc ih =>
    have none {b : Char} (hb : isBlank b) (t : Text) : isCommentLine (b :: t) = false := by
      rw [Bool.eq_false_iff, Ne, isCommentLine_cons_iff, startsComment_cons_iff]
      rintro ((rfl | ⟨rfl, -⟩) | ⟨rfl, -⟩)
      · exact ne_of_blank hb rfl rfl
      · exact ne_of_blank hb rfl rfl
      · exact ne_of_blank hb rfl rfl
    rw [Text.squeeze_pair hb hc, ih, none rfl, none hb]
  | single c t alone _ =>
    rw [Bool.eq_iff_iff, Text.squeeze_cons alone, isCommentLine_cons_iff, isCommentLine_cons_iff,
      startsComment_cons_iff, startsComment_cons_iff, Text.head_squeeze rfl, Text.head_squeeze rfl]

end

/-! ### Cutting the comment off -/

namespace Line

open Text

variable {line code : Text}

theorem withoutComment_of_code (h : codeFrom none line = some code) :
    withoutComment line = trimRight code := by
  rw [codeFrom_eq] at h
  obtain ⟨offset, found, rfl⟩ := Option.map_eq_some_iff.mp h
  rw [withoutComment, commentStart?, found]

theorem withoutComment_of_none (h : codeFrom none line = none) : withoutComment line = line := by
  rw [codeFrom_eq, Option.map_eq_none_iff] at h
  rw [withoutComment, commentStart?, h]

/-- What is left without the comment has none. -/
theorem codeFrom_withoutComment (line : Text) : codeFrom none (withoutComment line) = none := by
  cases h : codeFrom none line with
  | none => rw [withoutComment_of_none h, h]
  | some code =>
    obtain ⟨blanks, hblanks, hcode⟩ := exists_trimRight code
    rw [withoutComment_of_code h]
    rw [hcode] at h
    exact codeFrom_code h hblanks

theorem withoutComment_squeeze (line : Text) :
    withoutComment (squeeze line) = squeeze (withoutComment line) := by
  have squeezed : codeFrom none (squeeze line) = (codeFrom none line).map squeeze :=
    codeFrom_squeeze (by simp) line
  cases h : codeFrom none line with
  | none =>
    rw [h] at squeezed
    rw [withoutComment_of_none h, withoutComment_of_none squeezed]
  | some code =>
    rw [h] at squeezed
    rw [withoutComment_of_code h, withoutComment_of_code squeezed, trimRight_squeeze]

end Line

end CommandScript
