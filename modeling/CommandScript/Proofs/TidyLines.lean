import CommandScript.Proofs.Echo
import CommandScript.Proofs.LineEnds

/-!
# Tidy lines

After a cut, a squeeze or a trim the text that is left is not looked at again. That is no loss: it
holds no comment, no run of blanks if they are squeezed, and no blank at its ends if it is trimmed.
The lines of a store are such texts, in the order of the raw lines that they stand on, one for each
record of which something is left.
-/

namespace CommandScript

namespace Line

open Text

/-! ### One text -/

/-- What cleaning promises of a text. -/
structure Tidy (how : Cleaning) (text : Text) : Prop where
  written : ∃ c ∈ text, isBlank c = false
  uncommented : commentStart? text = none
  trimmed : how.trim → ∀ c, text.head? = some c ∨ text.getLast? = some c → isBlank c = false
  apart : how.compress → text.IsChain fun b c => ¬ (isBlank b ∧ isBlank c)

variable {how : Cleaning} {record text : Text}

theorem commentStart?_eq_none_iff : commentStart? text = none ↔ codeFrom none text = none := by
  rw [codeFrom_eq, Option.map_eq_none_iff, commentStart?]

theorem codeFrom_squeezed (how : Cleaning) (t : Text) :
    codeFrom none (squeezed how t) = none ↔ codeFrom none t = none := by
  rw [squeezed]
  split
  · rw [codeFrom_squeeze (by simp), Option.map_eq_none_iff]
  · rfl

/-- Whatever a record is cleaned to is tidy. -/
theorem tidy_of_clean? (h : clean? how record = some text) : Tidy how text := by
  rw [clean?_eq] at h
  generalize hbody : squeezed how (bare record) = body at h
  dsimp only at h
  split at h
  · cases h
  · rename_i written
    have written : allBlank body = false := by simpa using written
    have code : codeFrom none body = none := by
      rw [← hbody, codeFrom_squeezed]
      exact codeFrom_bare record
    have apart : how.compress → body.IsChain fun b c => ¬ (isBlank b ∧ isBlank c) := by
      intro compress
      rw [← hbody, squeezed, if_pos compress]
      exact isChain_squeeze _
    obtain rfl := Option.some.inj h
    cases trims : how.trim with
    | false =>
      rw [if_neg (by simp)]
      refine ⟨by simpa [allBlank] using written, commentStart?_eq_none_iff.mpr code, ?_, apart⟩
      simp [trims]
    | true =>
      rw [if_pos rfl]
      refine ⟨?_, ?_, fun _ c ends => ?_, fun compress => ?_⟩
      · rw [← allBlank_trim] at written
        simpa [allBlank] using written
      · rw [commentStart?_eq_none_iff, codeFrom_trim]
        exact code
      · rcases ends with front | back
        · exact head_trim front
        · exact last_trimRight back
      · obtain ⟨lead, blanks, -, -, whole⟩ := exists_trim body
        have chain := apart compress
        rw [whole] at chain
        exact chain.right_of_append.left_of_append

/-- A tidy text is cleaned to itself, unless it is a comment as a whole. -/
theorem Tidy.clean?_eq (h : Tidy how text) :
    clean? how text = if isCommentLine text then none else some text := by
  obtain ⟨c, mem, hc⟩ := h.written
  have squeezes : squeezed how text = text := by
    rw [squeezed]
    split
    · rename_i compress
      exact squeeze_eq_self (h.apart compress)
    · rfl
  have whole : withoutComment text = text :=
    withoutComment_of_none (commentStart?_eq_none_iff.mp h.uncommented)
  have trims : (if how.trim then trim text else text) = text := by
    split
    · rename_i trims
      refine trim_eq_self ?_ fun d last => h.trimmed trims d (.inr last)
      cases text with
      | nil => rfl
      | cons d text => simpa using h.trimmed trims d (.inl rfl)
    · rfl
  rw [clean?, ← squeezed, squeezes]
  simp only [allBlank_eq_false mem hc, whole, trims, Bool.false_or, Bool.false_eq_true, if_false]

/-! ### A store -/

theorem count_normalize (raw : Text) : (normalize raw).count '\n' = raw.count '\n' := by
  have joined (t : Text) : (joinReturns t).count '\n' = t.count '\n' := by
    fun_induction joinReturns t with
    | case1 => rfl
    | case2 rest ih => simpa using ih
    | case3 c rest other ih => simp only [List.count_cons, ih]
  have marks : (raw.takeWhile (· = '\uFEFF')).count '\n' = 0 := by
    rw [List.count_eq_zero]
    intro feed
    exact absurd (List.mem_takeWhile_imp feed) (by decide)
  rw [normalize, joined]
  conv_rhs => rw [← List.takeWhile_append_dropWhile (p := (· = '\uFEFF')) (l := raw)]
  rw [List.count_append, marks, Nat.zero_add]

/-- A line of a store stands on the raw line of its number, as what a record of that raw line is
cleaned to. -/
theorem exists_record_of_mem {separator : Option Text} {raw : Text} {line : Line}
    (h : line ∈ ingest how separator raw) :
    1 ≤ line.number ∧ line.number ≤ (rawLines raw).length ∧
      ∃ rawLine, (rawLines raw)[line.number - 1]? = some rawLine ∧
        ∃ record ∈ records separator rawLine, clean? how record = some line.text := by
  rw [ingest_eq, mem_numbered_iff] at h
  obtain ⟨positive, rawLine, found, mem⟩ := h
  obtain ⟨within, -⟩ := List.getElem?_eq_some_iff.mp found
  refine ⟨positive, by omega, rawLine, found, ?_⟩
  exact List.mem_filterMap.mp mem

/-- **Line store.** Let a text be ingested, cleaned in any way, with any separator or none. Every
line is tidy: it has a character that is not blank, no comment, no blank at either end if it is
trimmed, and no two blanks side by side if it is compressed. It holds no line feed and is what a
record of the raw line of its number is cleaned to, the raw lines being one more than the line
feeds. Line numbers never decrease, and they increase if there is no separator. The lines of a
number are, in order, what the records of that raw line are cleaned to, one for each record of
which anything is left. -/
theorem lines_of_store (how : Cleaning) (separator : Option Text) (raw : Text) :
    let lines := ingest how separator raw
    (rawLines raw).length = raw.count '\n' + 1 ∧
      (∀ line ∈ lines, Tidy how line.text ∧ '\n' ∉ line.text ∧
        1 ≤ line.number ∧ line.number ≤ (rawLines raw).length ∧
        ∃ rawLine, (rawLines raw)[line.number - 1]? = some rawLine ∧
          ∃ record ∈ records separator rawLine, clean? how record = some line.text) ∧
      lines.Pairwise (fun a b => a.number ≤ b.number) ∧
      (separator = none → lines.Pairwise fun a b => a.number < b.number) ∧
      ∀ i rawLine, (rawLines raw)[i]? = some rawLine →
        (lines.filter (·.number = i + 1)).map (·.text) =
          (records separator rawLine).filterMap (clean? how) := by
  intro lines
  have whole : lines = _ := ingest_eq how separator raw
  refine ⟨?_, fun line mem => ?_, ?_, fun single => ?_, fun i rawLine found => ?_⟩
  · rw [rawLines, length_splitAt, count_normalize]
  · have stored : line.Stored := ⟨how, separator, raw, mem⟩
    obtain ⟨positive, within, rawLine, found, record, part, cleaned⟩ := exists_record_of_mem mem
    exact ⟨tidy_of_clean? cleaned, stored.singleLine, positive, within, rawLine, found, record,
      part, cleaned⟩
  · rw [whole]
    refine pairwise_numbered (fun _ _ => Nat.le_of_lt) fun rawLine number => ?_
    exact List.pairwise_map.mpr (List.pairwise_of_forall fun _ _ => Nat.le_refl number)
  · rw [whole]
    refine pairwise_numbered (fun _ _ lt => lt) fun rawLine number => ?_
    subst single
    cases cleaned : clean? how rawLine <;> simp [texts, records, cleaned]
  · rw [whole, Nat.add_comm i 1, filter_numbered, found, Option.elim_some, List.map_map]
    exact List.map_id _

/-- A separator, comments, quotes, runs of blanks and a carriage return. -/
theorem lines_of_store_separated :
    let raw : Text := "\uFEFF a =  '#1' # one ;b=2\r\n ; // three;\n\tc"
    ingest {} (some [';']) raw = [⟨1, "a = '#1'"⟩, ⟨1, "b=2"⟩, ⟨3, "c"⟩] ∧
      (ingest {} (some [';']) raw).Pairwise (fun a b => a.number ≤ b.number) ∧
      (ingest {} none raw).Pairwise (fun a b => a.number < b.number) ∧
      ((ingest {} (some [';']) raw).filter (·.number = 0 + 1)).map (·.text) =
        (records (some [';']) " a =  '#1' # one ;b=2").filterMap (clean? {}) := by
  intro raw
  obtain ⟨-, -, ascend, -, complete⟩ := lines_of_store {} (some [';']) raw
  obtain ⟨-, -, -, increase, -⟩ := lines_of_store {} none raw
  exact ⟨by decide +kernel, ascend, increase rfl, complete 0 _ (by decide +kernel)⟩

end Line

end CommandScript
