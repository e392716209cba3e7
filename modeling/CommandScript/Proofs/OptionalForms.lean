import CommandScript.Proofs.Expansion
import CommandScript.Proofs.Inclusion
import CommandScript.Proofs.PropertiesRoute
import CommandScript.Proofs.WrittenRecords

/-!
# Lines with an optional mark

An `include` or `properties` line may mark its reference with a question mark. No name holds
one, so the mark is the only question mark of the line, and the line without it is the same
statement about a source that must be there.
-/

namespace CommandScript

open Text

/-! ### Payloads -/

namespace Form

/-- A line is a keyword and a payload, with blanks between and perhaps around them. -/
structure Spaced (keyword payload line : Text) : Prop where
  solid : payload.head?.any isBlank = false
  closed : ∀ c, payload.getLast? = some c → isBlank c = false
  whole : ∃ lead gap trail, (∀ c ∈ lead, isBlank c) ∧ (∀ c ∈ gap, isBlank c) ∧ gap ≠ [] ∧
    (∀ c ∈ trail, isBlank c) ∧ line = lead ++ (keyword ++ (gap ++ (payload ++ trail)))

/-- Such a line has the payload. -/
theorem Spaced.payload? {keyword payload line : Text} (word : IsWord keyword)
    (h : Spaced keyword payload line) (nonempty : payload ≠ []) :
    payload? keyword line = some payload := by
  obtain ⟨lead, gap, trail, hlead, hgap, apart, htrail, rfl⟩ := h.whole
  have front : (payload ++ trail).head?.any isBlank = false := by
    rw [List.head?_append_of_ne_nil _ nonempty]
    exact h.solid
  have follows : afterKeyword? keyword (lead ++ (keyword ++ (gap ++ (payload ++ trail)))) =
      some (payload ++ trail) :=
    (afterKeyword?_eq_some_iff word).mpr ⟨lead, gap, hlead, hgap, apart, rfl, front⟩
  rw [Form.payload?, follows, Option.map_some, trimRight_append htrail, trimRight_eq_self h.closed]

/-- Only such a line has the payload. -/
theorem spaced_of_payload? {keyword payload line : Text} (h : payload? keyword line = some payload)
    (nonempty : payload ≠ []) : Spaced keyword payload line := by
  obtain ⟨rest, follows, rfl⟩ := Option.map_eq_some_iff.mp h
  obtain ⟨lead, gap, hlead, hgap, apart, hline, front⟩ := exists_of_afterKeyword? follows
  obtain ⟨trail, htrail, hrest⟩ := exists_trimRight rest
  refine ⟨?_, fun c => last_trimRight, lead, gap, trail, hlead, hgap, apart, htrail, ?_⟩
  · rw [hrest, List.head?_append_of_ne_nil _ nonempty] at front
    exact front
  · rw [← hrest]
    exact hline

/-- Without the blanks at its ends, a line with a payload is its keyword, blanks and the payload. -/
theorem spaced_iff {keyword payload t : Text} (word : IsWord keyword) (nonempty : payload ≠ []) :
    Spaced keyword payload t ↔
      payload.head?.any isBlank = false ∧
        ∃ gap, gap ≠ [] ∧ (∀ c ∈ gap, isBlank c) ∧ trim t = keyword ++ (gap ++ payload) := by
  have last (gap : Text) : (keyword ++ (gap ++ payload)).getLast? = payload.getLast? := by
    rw [← List.append_assoc, List.getLast?_append_of_ne_nil _ nonempty]
  constructor
  · rintro ⟨solid, closed, lead, gap, trail, hlead, hgap, apart, htrail, rfl⟩
    refine ⟨solid, gap, apart, hgap, ?_⟩
    have front : (keyword ++ (gap ++ (payload ++ trail))).head?.any isBlank = false := by
      obtain ⟨c, w, rfl⟩ := List.exists_cons_of_ne_nil word.nonempty
      simpa using word.solid c List.mem_cons_self
    have regrouped : keyword ++ (gap ++ (payload ++ trail)) =
        keyword ++ (gap ++ payload) ++ trail := by
      simp only [List.append_assoc]
    rw [trim, trimLeft_append hlead, trimLeft_eq_self front, regrouped, trimRight_append htrail]
    exact trimRight_eq_self fun c hc => closed c (last gap ▸ hc)
  · rintro ⟨solid, gap, apart, hgap, whole⟩
    obtain ⟨lead, trail, hlead, htrail, line⟩ := exists_trim t
    refine ⟨solid, ?_, lead, gap, trail, hlead, hgap, apart, htrail, ?_⟩
    · intro c hc
      rw [← last gap, ← whole] at hc
      exact last_trimRight hc
    · rw [line, whole]
      simp only [List.append_assoc]

end Form

/-! ### References -/

namespace Text

structure Unquestioned (t : Text) : Prop where
  nonempty : t ≠ []
  solid : ∀ c ∈ t, isBlank c = false
  free : '?' ∉ t

theorem unquestioned_of_forall {t : Text} (nonempty : t ≠ [])
    (h : ∀ c ∈ t, isBlank c = false ∧ c ≠ '?') : Unquestioned t :=
  ⟨nonempty, fun c hc => (h c hc).1, fun mem => (h _ mem).2 rfl⟩

/-- The characters of a name are characters of keys. -/
theorem isKey_of_isName {t : Text} (h : isName t = true) : ∀ c ∈ t, isKey c = true := by
  cases t with
  | nil => cases h
  | cons c rest =>
    obtain ⟨first, others⟩ := Bool.and_eq_true_iff.mp h
    refine List.forall_mem_cons.mpr ⟨?_, ?_⟩
    · simp only [startsName, Bool.or_eq_true] at first
      simp only [isKey, continuesName, Bool.or_eq_true]
      rcases first with letter | other
      · exact .inl (.inl letter)
      · have among : c = '$' ∨ c = '_' ∨ c = '/' ∨ c = '.' := by simpa using other
        rcases among with rfl | rfl | rfl | rfl <;> decide
    · intro d hd
      have continues : continuesName d = true := List.all_eq_true.mp others d hd
      simp [isKey, continues]

theorem unquestioned_of_isName {t : Text} (h : isName t = true) : Unquestioned t := by
  have keys := isKey_of_isName h
  refine unquestioned_of_forall ?_ fun c hc =>
    ⟨not_blank_of_isKey (keys c hc), ne_of_isKey (keys c hc) (by decide)⟩
  rintro rfl
  cases h

theorem isGuardedName_iff {key : Text} :
    isGuardedName key = true ↔ ∃ name, isName name = true ∧ (key = name ∨ key = '?' :: name) := by
  constructor
  · intro h
    unfold isGuardedName withoutMark at h
    split at h
    · exact ⟨_, h, .inr rfl⟩
    · exact ⟨_, h, .inl rfl⟩
  · rintro ⟨name, h, rfl | rfl⟩
    · have free := (unquestioned_of_isName h).free
      have same : withoutMark key = key := by
        unfold withoutMark
        split
        · exact absurd List.mem_cons_self free
        · rfl
      rwa [isGuardedName, same]
    · exact h

theorem Unquestioned.cons {t : Text} (h : Unquestioned t) {c : Char} (solid : isBlank c = false)
    (free : c ≠ '?') : Unquestioned (c :: t) :=
  ⟨List.cons_ne_nil c t, List.forall_mem_cons.mpr ⟨solid, h.solid⟩,
    List.not_mem_cons_of_ne_of_not_mem free.symm h.free⟩

/-- Behind its mark, a reference to an object is one without a mark. -/
theorem isObjectReference_of_marked {t : Text} (h : isObjectReference ('?' :: t) = true) :
    isObjectReference t = true ∧ Unquestioned t := by
  revert h
  simp only [isObjectReference, withoutMark]
  split
  · exact fun name => ⟨name, (unquestioned_of_isName name).cons (by decide) (by decide)⟩
  · exact fun name => ⟨name, (unquestioned_of_isName name).cons (by decide) (by decide)⟩
  · rintro ⟨⟩

/-- Behind its mark, a reference to a file is one without a mark. -/
theorem isFileReference_of_marked {t : Text} (h : isFileReference ('?' :: t) = true) :
    isFileReference t = true ∧ Unquestioned t := by
  rcases Bool.or_eq_true_iff.mp h with object | name
  · obtain ⟨object, free⟩ := isObjectReference_of_marked object
    exact ⟨Bool.or_eq_true_iff.mpr (.inl object), free⟩
  · have name : isName t = true := name
    have free := unquestioned_of_isName name
    have same : withoutMark t = t := by
      unfold withoutMark
      split
      · exact absurd List.mem_cons_self free.free
      · rfl
    exact ⟨Bool.or_eq_true_iff.mpr (.inr (same.symm ▸ name)), free⟩

theorem splitFirst?_eq_some_iff {c : Char} {t before behind : Text} :
    splitFirst? c t = some (before, behind) ↔ t = before ++ c :: behind ∧ c ∉ before := by
  induction t generalizing before with
  | nil => simp [splitFirst?]
  | cons d t ih =>
    rw [splitFirst?]
    split
    · rename_i same
      subst same
      constructor
      · rintro ⟨⟩
        exact ⟨rfl, List.not_mem_nil⟩
      · rintro ⟨whole, free⟩
        cases before with
        | nil => rw [(List.cons.inj whole).2]
        | cons e before =>
          obtain rfl := (List.cons.inj whole).1
          exact absurd List.mem_cons_self free
    · rename_i other
      rw [Option.map_eq_some_iff]
      constructor
      · rintro ⟨⟨b, rest⟩, found, pair⟩
        obtain ⟨rfl, rfl⟩ := Prod.mk.inj pair
        obtain ⟨rfl, free⟩ := ih.mp found
        exact ⟨rfl, List.not_mem_cons_of_ne_of_not_mem (Ne.symm other) free⟩
      · rintro ⟨whole, free⟩
        cases before with
        | nil => exact absurd (List.cons.inj whole).1 other
        | cons e before =>
          obtain ⟨rfl, rest⟩ := List.cons.inj whole
          refine ⟨(before, behind), ih.mpr ⟨rest, ?_⟩, rfl⟩
          exact fun mem => free (List.mem_cons_of_mem _ mem)

theorem Unquestioned.head {t : Text} (h : Unquestioned t) (rest : Text) :
    (t ++ rest).head?.any isBlank = false := by
  obtain ⟨c, tail, rfl⟩ := List.exists_cons_of_ne_nil h.nonempty
  simpa using h.solid c List.mem_cons_self

theorem Unquestioned.last {t : Text} (h : Unquestioned t) (lead : Text) (c : Char)
    (hc : (lead ++ t).getLast? = some c) : isBlank c = false := by
  rw [List.getLast?_append_of_ne_nil _ h.nonempty] at hc
  exact h.solid c (List.mem_of_getLast? hc)

/-- The text holds one question mark, with something before and behind it. -/
structure Question (before behind t : Text) : Prop where
  whole : t = before ++ '?' :: behind
  single : '?' ∉ before ++ behind
  front : before ≠ []
  back : behind ≠ []

namespace Question

variable {before behind t : Text}

theorem erase (h : Question before behind t) : t.erase '?' = before ++ behind := by
  have front : '?' ∉ before := fun mem => h.single (List.mem_append_left _ mem)
  rw [h.whole, List.erase_append_right _ front, List.erase_cons_head]

theorem count (h : Question before behind t) : t.count '?' = 1 := by
  have none : (before ++ behind).count '?' = 0 := List.count_eq_zero.mpr h.single
  rw [List.count_append] at none
  rw [h.whole, List.count_append, List.count_cons_self]
  omega

theorem head (h : Question before behind t) : (before ++ behind).head? = t.head? := by
  rw [h.whole, List.head?_append_of_ne_nil _ h.front, List.head?_append_of_ne_nil _ h.front]

theorem last (h : Question before behind t) : (before ++ behind).getLast? = t.getLast? := by
  rw [h.whole, List.getLast?_append_of_ne_nil _ h.back,
    List.getLast?_append_of_ne_nil _ (List.cons_ne_nil _ _), List.getLast?_cons_of_ne_nil h.back]

end Question

end Text

/-! ### Lines -/

namespace Form

/-- The question mark of a payload is that of its line, and without it the line has the payload
without it. -/
theorem Spaced.question {keyword line before behind : Text} (word : IsWord keyword)
    (h : Spaced keyword (before ++ '?' :: behind) line) (single : '?' ∉ before ++ behind)
    (back : behind ≠ []) (free : '?' ∉ keyword)
    (solid : (before ++ behind).head?.any isBlank = false)
    (closed : ∀ c, (before ++ behind).getLast? = some c → isBlank c = false) :
    ∃ lead trail, Question (lead ++ before) (behind ++ trail) line ∧
      (∀ c ∈ lead, isBlank c ∨ c ∈ keyword) ∧
      Form.payload? keyword (lead ++ before ++ (behind ++ trail)) = some (before ++ behind) := by
  obtain ⟨lead, gap, trail, hlead, hgap, apart, htrail, rfl⟩ := h.whole
  have blank {blanks : Text} (h : ∀ c ∈ blanks, isBlank c) : '?' ∉ blanks :=
    fun mem => absurd (h _ mem) (by decide)
  have nonempty : before ++ behind ≠ [] := List.append_ne_nil_of_right_ne_nil _ back
  refine ⟨lead ++ (keyword ++ gap), trail, ⟨by simp, ?_, by simp [apart], by simp [back]⟩, ?_, ?_⟩
  · simp only [List.mem_append, not_or] at single ⊢
    exact ⟨⟨⟨blank hlead, free, blank hgap⟩, single.1⟩, single.2, blank htrail⟩
  · intro c hc
    simp only [List.mem_append] at hc
    rcases hc with mem | mem | mem
    · exact .inl (hlead c mem)
    · exact .inr mem
    · exact .inl (hgap c mem)
  · refine Spaced.payload? word ⟨solid, closed, lead, gap, trail, hlead, hgap, apart, htrail, ?_⟩
      nonempty
    simp only [List.append_assoc]

/-- What an `include` line names is marked in front of it, behind no dollar sign. -/
theorem question_of_include? {t r : Text} (h : include? t = some ('?' :: r)) :
    ∃ before behind, Question before behind t ∧ '$' ∉ before ∧
      include? (before ++ behind) = some r := by
  obtain ⟨payload, object⟩ := Option.filter_eq_some_iff.mp h
  obtain ⟨object, free⟩ := isObjectReference_of_marked object
  have spaced := spaced_of_payload? payload (List.cons_ne_nil _ _)
  obtain ⟨lead, trail, question, front, payload⟩ := @Spaced.question _ _ [] _ (by decide)
    spaced free.free free.nonempty (by decide) (by simpa using free.head [])
    (by simpa using free.last [])
  rw [List.append_nil] at question payload
  refine ⟨lead, r ++ trail, question, fun mem => ?_, ?_⟩
  · rcases front _ mem with blank | letter
    · exact absurd blank (by decide)
    · exact absurd letter (by decide)
  · rw [include?, payload]
    exact Option.filter_eq_some_iff.mpr ⟨rfl, object⟩

theorem properties?_eq_some_iff {t label reference : Text} :
    properties? t = some (label, reference) ↔
      ∃ payload, payload? "properties" t = some payload ∧
        splitFirst? '=' payload = some (label, reference) ∧
        isName label = true ∧ isFileReference reference = true := by
  simp only [properties?, Option.bind_eq_bind, Option.bind_eq_some_iff,
    Option.ite_none_right_eq_some, Bool.and_eq_true, Option.some.injEq, Prod.mk.injEq]
  constructor
  · rintro ⟨payload, written, ⟨l, r⟩, parts, ⟨name, file⟩, rfl, rfl⟩
    exact ⟨payload, written, parts, name, file⟩
  · rintro ⟨payload, written, parts, name, file⟩
    exact ⟨payload, written, (label, reference), parts, ⟨name, file⟩, rfl, rfl⟩

theorem setProperty?_eq_some_iff {t key value : Text} :
    setProperty? t = some (key, value) ↔
      ∃ rest behind, afterKeyword? "setProperty" t = some rest ∧
        splitFirst? '=' rest = some (key, behind) ∧ inlineValue? behind = some value ∧
        isGuardedName key = true := by
  simp only [setProperty?, Option.bind_eq_bind, Option.bind_eq_some_iff,
    Option.ite_none_right_eq_some, Option.some.injEq, Prod.mk.injEq]
  constructor
  · rintro ⟨rest, follows, ⟨k, behind⟩, parts, v, read, guarded, rfl, rfl⟩
    exact ⟨rest, behind, follows, parts, read, guarded⟩
  · rintro ⟨rest, behind, follows, parts, read, guarded⟩
    exact ⟨rest, follows, (key, behind), parts, value, read, guarded, rfl, rfl⟩

/-- What a `properties` line names is marked behind the label. -/
theorem question_of_properties? {t label r : Text} (h : properties? t = some (label, '?' :: r)) :
    ∃ before behind, Question before behind t ∧
      properties? (before ++ behind) = some (label, r) := by
  obtain ⟨payload, written, parts, name, file⟩ := properties?_eq_some_iff.mp h
  obtain ⟨file, free⟩ := isFileReference_of_marked file
  have word := unquestioned_of_isName name
  obtain ⟨rfl, plain⟩ := splitFirst?_eq_some_iff.mp parts
  rw [List.append_cons] at written
  have single : '?' ∉ label ++ ['='] ++ r := by
    simp only [List.mem_append, List.mem_singleton, not_or]
    exact ⟨⟨word.free, by decide⟩, free.free⟩
  obtain ⟨lead, trail, question, -, payload⟩ := Spaced.question (by decide)
    (spaced_of_payload? written (by simp)) single free.nonempty (by decide)
    (by simpa using word.head ('=' :: r)) (free.last _)
  have again : splitFirst? '=' (label ++ ['='] ++ r) = some (label, r) :=
    splitFirst?_eq_some_iff.mpr ⟨by simp, plain⟩
  exact ⟨_, _, question, properties?_eq_some_iff.mpr ⟨_, payload, again, name, file⟩⟩

theorem echo?_eq_some_iff {t bare : Text} :
    echo? t = some bare ↔
      payload? "echo" t = some bare ∧ 2 ≤ bare.length ∧ '\n' ∉ bare := by
  simp [echo?, Option.filter_eq_some_iff]

/-- A line that loses its question mark keeps its echo keyword. -/
theorem splitEcho_of_question {t before behind : Text}
    (question : Question before behind (withoutEcho t)) (bare : echo? (before ++ behind) = none) :
    t.count '?' = 1 ∧ splitEcho (t.erase '?') = ((splitEcho t).1, before ++ behind) := by
  cases echoed : echo? t with
  | none =>
    have whole : withoutEcho t = t := by rw [withoutEcho, splitEcho, echoed]
    rw [whole] at question
    refine ⟨question.count, ?_⟩
    simp only [question.erase, splitEcho, echoed, bare]
  | some inner =>
    have whole : withoutEcho t = inner := by rw [withoutEcho, splitEcho, echoed]
    rw [whole] at question
    obtain ⟨payload, long, oneLine⟩ := echo?_eq_some_iff.mp echoed
    have nonempty : inner ≠ [] := by
      rintro rfl
      simp at long
    have spaced := spaced_of_payload? payload nonempty
    have solid : (before ++ behind).head?.any isBlank = false := by
      rw [question.head]
      exact spaced.solid
    have closed : ∀ c, (before ++ behind).getLast? = some c → isBlank c = false := by
      rw [question.last]
      exact spaced.closed
    rw [question.whole] at spaced
    obtain ⟨lead, trail, around, -, payload⟩ := spaced.question (by decide) question.single
      question.back (by decide) solid closed
    have again : echo? (t.erase '?') = some (before ++ behind) := by
      rw [around.erase, echo?_eq_some_iff]
      refine ⟨payload, ?_, fun mem => oneLine ?_⟩
      · have front := List.length_pos_of_ne_nil question.front
        have back := List.length_pos_of_ne_nil question.back
        rw [List.length_append]
        omega
      · rw [question.whole]
        rcases List.mem_append.mp mem with mem | mem
        · exact List.mem_append_left _ mem
        · exact List.mem_append_right _ (List.mem_cons_of_mem _ mem)
    exact ⟨around.count, by simp only [splitEcho, again, echoed]⟩

end Form

/-! ### Built-in lines -/

namespace Kind

variable {kind : Kind} {line : Text}

/-- Every kind of scanner includes sources. -/
theorem builtin?_include (kind : Kind) {reference : Text}
    (h : Form.include? line = some reference) :
    kind.builtin? line = some (.includeSource reference) := by
  cases kind <;> simp [builtin?, Builtin.basic?, h]

theorem properties_of_builtin? {label reference : Text}
    (h : kind.builtin? line = some (.properties label reference)) :
    kind.loadsTables = true ∧ Form.properties? line = some (label, reference) := by
  have basic : Builtin.basic? line ≠ some (.properties label reference) := by
    simp only [Builtin.basic?]
    cases Form.include? line <;> cases Form.print? line <;> simp
  have script (h : Builtin.script? line = some (.properties label reference)) :
      Form.properties? line = some (label, reference) := by
    revert h
    simp only [Builtin.script?]
    cases Form.sleep? line <;> cases Form.setProperty? line <;> cases Form.properties? line <;>
      simp [Prod.ext_iff]
  have record : Builtin.record? line ≠ some (.properties label reference) := by
    simp only [Builtin.record?]
    cases Form.record? line <;> simp
  revert h
  cases kind with
  | basic => exact fun h => absurd h basic
  | eager => exact fun h => absurd h basic
  | script =>
    simp only [builtin?]
    cases hb : Builtin.basic? line with
    | none => exact fun h => ⟨rfl, script (by simpa using h)⟩
    | some b => exact fun h => absurd (hb.trans (by simpa using h)) basic
  | records =>
    simp only [builtin?]
    cases hb : Builtin.basic? line with
    | none =>
      cases hs : Builtin.script? line with
      | none => exact fun h => absurd (by simpa using h) record
      | some b => exact fun h => ⟨rfl, script (hs.trans (by simpa using h))⟩
    | some b => exact fun h => absurd (hb.trans (by simpa using h)) basic

theorem builtin?_properties {label reference : Text} (loads : kind.loadsTables = true)
    (h : Form.properties? line = some (label, reference)) :
    kind.builtin? line = some (.properties label reference) := by
  have script := builtin?_of_properties? h
  cases kind with
  | basic => cases loads
  | eager => cases loads
  | script => exact script
  | records =>
    simp only [builtin?] at script ⊢
    cases hb : Builtin.basic? line with
    | none =>
      have own : Builtin.script? line = some (.properties label reference) := by
        simpa [hb] using script
      simp [own]
    | some b => simpa [hb] using script

/-- What a scanner executes, it takes for a built-in. -/
theorem recognizes_of_builtin? {builtin : Builtin}
    (h : kind.builtin? (withoutEcho line) = some builtin) : kind.recognizes line = true := by
  by_cases eager : kind = .eager
  · subst eager
    rfl
  · rw [← isSome_builtin? eager, h]
    rfl

end Kind

/-- The same statement, about something that may be missing and about something that must be
there. -/
inductive Builtin.Optional : Builtin → Builtin → Prop where
  | included {reference : Text} :
    Optional (.includeSource ('?' :: reference)) (.includeSource reference)
  | loaded {label reference : Text} :
    Optional (.properties label ('?' :: reference)) (.properties label reference)

def Line.unmarked (line : Line) : Line := { line with text := line.text.erase '?' }

/-- The question mark of the line is the only one, and without it the line is echoed or not as it
is, and makes the other statement. -/
structure Line.Unmarks (kind : Kind) (line : Line) (b b' : Builtin) : Prop where
  once : line.text.count '?' = 1
  echoed : (splitEcho line.unmarked.text).1 = (splitEcho line.text).1
  form : kind.builtin? (withoutEcho line.unmarked.text) = some b'
  /-- Where nothing stands in front of the mark that could be expanded, the two lines fail
  alike. -/
  alike : ∀ reference, b = .includeSource reference → ∀ (e : Expander) (registry : Registry) fault,
    e.expand registry (withoutEcho line.text) = .error fault ↔
      e.expand registry (withoutEcho line.unmarked.text) = .error fault

theorem Except.map_eq_error_iff {ε α β : Type} {f : α → β} {r : Except ε α} {e : ε} :
    r.map f = .error e ↔ r = .error e := by
  cases r <;> simp [Except.map]

/-- A mark in front of what a line names can be taken away. -/
theorem Builtin.Optional.unmarks {kind : Kind} {line : Line} {b b' : Builtin}
    (h : b.Optional b') (form : kind.builtin? (withoutEcho line.text) = some b) :
    line.Unmarks kind b b' := by
  cases h with
  | included =>
    obtain ⟨before, behind, question, free, bare⟩ :=
      Form.question_of_include? (Kind.include_of_builtin? form)
    have unechoed := Form.echo?_of_keyword? (Form.keyword?_of_include? bare) (by decide)
    obtain ⟨once, echoed⟩ := Form.splitEcho_of_question question unechoed
    have whole : withoutEcho line.unmarked.text = before ++ behind := congrArg Prod.snd echoed
    have same : (splitEcho line.unmarked.text).1 = (splitEcho line.text).1 :=
      (congrArg Prod.fst echoed :)
    refine ⟨once, same, ?_, fun _ _ e registry fault => ?_⟩
    · rw [whole]
      exact kind.builtin?_include bare
    · rw [whole, question.whole, Expander.expand_append registry free,
        Expander.expand_append registry free, Expander.expand_cons registry (by decide),
        Except.map_eq_error_iff, Except.map_eq_error_iff, Except.map_eq_error_iff]
  | loaded =>
    obtain ⟨loads, written⟩ := Kind.properties_of_builtin? form
    obtain ⟨before, behind, question, bare⟩ := Form.question_of_properties? written
    have unechoed := Form.echo?_of_keyword? (Form.keyword?_of_properties? bare) (by decide)
    obtain ⟨once, echoed⟩ := Form.splitEcho_of_question question unechoed
    have whole : withoutEcho line.unmarked.text = before ++ behind := congrArg Prod.snd echoed
    have same : (splitEcho line.unmarked.text).1 = (splitEcho line.text).1 :=
      (congrArg Prod.fst echoed :)
    refine ⟨once, same, ?_, by rintro reference ⟨⟩⟩
    rw [whole]
    exact Kind.builtin?_properties loads bare

end CommandScript
