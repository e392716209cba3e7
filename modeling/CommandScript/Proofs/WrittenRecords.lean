import Mathlib.Data.List.Infix
import CommandScript.Proofs.Cleaning
import CommandScript.Proofs.Executions
import CommandScript.Proofs.Expansion

/-!
# Written records

A key and a value are written as a properties record with the value between double quotes.
Cleaning leaves such a record as it is, whatever markers, single quotes, equals signs and
backslashes the value holds; no other form of line claims it; and executing it defines the
key with the value.
-/

namespace CommandScript

def writtenRecord (key value : Text) : Text := key ++ '=' :: '"' :: (value ++ ['"'])

/-- A key that can be written: of key characters, and nothing in it is taken for a comment. -/
structure WritableKey (key : Text) : Prop where
  nonempty : key ≠ []
  alphabet : ∀ c ∈ key, isKey c
  noDashes : ¬ ['-', '-'] <+: key
  noSlashes : ¬ ['/', '/'] <:+: key

/-- A value that can be written: on one line, in one record, between double quotes, and with
no run of blanks. -/
structure WritableValue (value : Text) : Prop where
  noFeed : '\n' ∉ value
  noSemicolon : ';' ∉ value
  noQuote : '"' ∉ value
  noRun : value.IsChain fun b c => ¬ (isBlank b ∧ isBlank c)

instance (key : Text) : Decidable (WritableKey key) :=
  decidable_of_iff
    (key ≠ [] ∧ key.all isKey ∧ ¬ ['-', '-'] <+: key ∧ ¬ ['/', '/'] <:+: key)
    ⟨fun ⟨nonempty, alphabet, noDashes, noSlashes⟩ =>
        ⟨nonempty, List.all_eq_true.mp alphabet, noDashes, noSlashes⟩,
      fun h => ⟨h.nonempty, List.all_eq_true.mpr h.alphabet, h.noDashes, h.noSlashes⟩⟩

instance (value : Text) : Decidable (WritableValue value) :=
  decidable_of_iff
    ('\n' ∉ value ∧ ';' ∉ value ∧ '"' ∉ value ∧
      value.IsChain fun b c => ¬ (isBlank b ∧ isBlank c))
    ⟨fun ⟨noFeed, noSemicolon, noQuote, noRun⟩ => ⟨noFeed, noSemicolon, noQuote, noRun⟩,
      fun h => ⟨h.noFeed, h.noSemicolon, h.noQuote, h.noRun⟩⟩

/-! ### Key characters -/

theorem isKey_range {c : Char} (h : isKey c) : 33 ≤ c.toNat ∧ c.toNat ≤ 126 := by
  have between {a b : Char} (h : (a ≤ c && c ≤ b) = true) :
      a.toNat ≤ c.toNat ∧ c.toNat ≤ b.toNat := by
    simpa [Char.le_def, UInt32.le_iff_toNat_le] using h
  have among {chars : List Char} (h : chars.contains c = true)
      (range : chars.all fun d => 33 ≤ d.toNat ∧ d.toNat ≤ 126) :
      33 ≤ c.toNat ∧ c.toNat ≤ 126 := by
    simpa using List.all_eq_true.mp range c (List.contains_iff_mem.mp h)
  simp only [isKey, continuesName, isAsciiAlphanumeric, Bool.or_eq_true] at h
  rcases h with (((h | h) | h) | h) | h
  · have letters := between h
    simp at letters
    omega
  · have letters := between h
    simp at letters
    omega
  · have digits := between h
    simp at digits
    omega
  · exact among h (by decide)
  · exact among h (by decide)

theorem not_blank_of_isKey {c : Char} (h : isKey c) : isBlank c = false := by
  have range := isKey_range h
  simp [isBlank]
  omega

theorem not_key_of_isBlank {c : Char} (h : isBlank c) : isKey c = false := by
  rw [Bool.eq_false_iff]
  intro hc
  rw [not_blank_of_isKey hc] at h
  cases h

theorem ne_of_isKey {c d : Char} (h : isKey c) (hd : isKey d = false) : c ≠ d := by
  rintro rfl
  rw [h] at hd
  cases hd

section

variable {key value : Text}

theorem WritableKey.not_blank (h : WritableKey key) : ∀ c ∈ key, isBlank c = false :=
  fun c hc => not_blank_of_isKey (h.alphabet c hc)

theorem WritableKey.not_mem (h : WritableKey key) {c : Char} (hc : isKey c = false) : c ∉ key :=
  fun mem => ne_of_isKey (h.alphabet c mem) hc rfl

/-- The character at the front of a record belongs to its key. -/
theorem head_writtenRecord (h : WritableKey key) (value : Text) :
    ∃ c rest, writtenRecord key value = c :: rest ∧ isKey c := by
  obtain ⟨c, rest, rfl⟩ := List.exists_cons_of_ne_nil h.nonempty
  exact ⟨c, _, rfl, h.alphabet c List.mem_cons_self⟩

theorem getLast?_writtenRecord (key value : Text) :
    (writtenRecord key value).getLast? = some '"' := by
  rw [writtenRecord, ← List.cons_append, ← List.cons_append, ← List.append_assoc,
    List.getLast?_concat]

/-! ### Cleaning -/

/-- A key is passed over in the search for a comment. -/
theorem codeFrom_key (alphabet : ∀ c ∈ key, isKey c) (noSlashes : ¬ ['/', '/'] <:+: key)
    {rest : Text} (behind : rest.head? ≠ some '/') :
    codeFrom none (key ++ rest) = (codeFrom none rest).map (key ++ ·) := by
  induction key with
  | nil => simp
  | cons c key ih =>
    rw [List.forall_mem_cons] at alphabet
    have still : ¬ ['/', '/'] <:+: key := fun h => noSlashes (List.infix_cons h)
    have plain : ¬ startsComment (c :: (key ++ rest)) := by
      rw [startsComment_cons_iff]
      rintro (rfl | ⟨rfl, next⟩)
      · exact absurd alphabet.1 (by decide)
      · cases key with
        | nil => exact behind next
        | cons d key =>
          obtain rfl : d = '/' := by simpa using next
          exact noSlashes ⟨[], key, rfl⟩
    have noQuote : isQuote c = false := by
      simp [isQuote, ne_of_isKey alphabet.1 (d := '"') (by decide),
        ne_of_isKey alphabet.1 (d := '\'') (by decide)]
    have step : openAfter? none c (key ++ rest) = some none := by
      simp [openAfter?, noQuote, plain]
    rw [List.cons_append, codeFrom_cons (ne_of_isKey alphabet.1 (by decide)), step]
    simp only [ih alphabet.2 still, Option.map_map]
    rfl

/-- Between quotes nothing is a comment, whether a backslash escapes the closing one or not. -/
theorem codeFrom_quoted {quote : Char} (hquote : quote ≠ '\\') {inside : Text}
    (free : quote ∉ inside) : codeFrom (some quote) (inside ++ [quote]) = none := by
  -- The character behind a backslash is skipped, so both readings of a place go together.
  suffices both : codeFrom (some quote) (inside ++ [quote]) = none ∧
      codeFrom (some quote) ('\\' :: (inside ++ [quote])) = none from both.1
  induction inside with
  | nil =>
    constructor
    · rw [List.nil_append, codeFrom_cons hquote]
      simp [openAfter?, codeFrom]
    · rfl
  | cons c inside ih =>
    obtain ⟨hc, free⟩ : quote ≠ c ∧ quote ∉ inside := by simpa using free
    obtain ⟨plain, escaped⟩ := ih free
    constructor
    · by_cases escape : c = '\\'
      · subst escape
        exact escaped
      · have step : openAfter? (some quote) c (inside ++ [quote]) = some (some quote) := by
          simp [openAfter?, hc.symm]
        rw [List.cons_append, codeFrom_cons escape, step]
        simp only [plain, Option.map_none]
    · rw [List.cons_append, codeFrom, plain, Option.map_none]

theorem codeFrom_writtenRecord (hkey : WritableKey key) (hvalue : WritableValue value) :
    codeFrom none (writtenRecord key value) = none := by
  have quoted : codeFrom (some '"') (value ++ ['"']) = none :=
    codeFrom_quoted (by decide) hvalue.noQuote
  have opens : openAfter? none '"' (value ++ ['"']) = some (some '"') := by
    simp [openAfter?, isQuote]
  have equals : openAfter? none '=' ('"' :: (value ++ ['"'])) = some none := rfl
  rw [writtenRecord, codeFrom_key hkey.alphabet hkey.noSlashes (by simp),
    codeFrom_cons (by decide), equals]
  simp only [codeFrom_cons (show '"' ≠ '\\' by decide), opens, quoted, Option.map_none]

/-- What begins with a key is no comment as a whole. -/
theorem isCommentLine_key (hkey : WritableKey key) {rest : Text}
    (behind : ∀ c ∈ rest.head?, isKey c = false) : isCommentLine (key ++ rest) = false := by
  rw [Bool.eq_false_iff]
  intro h
  obtain ⟨c, tail, rfl⟩ := List.exists_cons_of_ne_nil hkey.nonempty
  have next {d : Char} (hd : isKey d) (h : (tail ++ rest).head? = some d) : [d] <+: tail := by
    cases tail with
    | nil =>
      have other := behind d h
      rw [hd] at other
      cases other
    | cons e tail =>
      obtain rfl : e = d := by simpa using h
      exact ⟨tail, rfl⟩
  rw [List.cons_append, isCommentLine_cons_iff, startsComment_cons_iff] at h
  rcases h with (rfl | ⟨rfl, slash⟩) | ⟨rfl, dash⟩
  · exact absurd (hkey.alphabet '#' List.mem_cons_self) (by decide)
  · obtain ⟨tail, rfl⟩ := next (by decide) slash
    exact hkey.noSlashes ⟨[], tail, rfl⟩
  · obtain ⟨tail, rfl⟩ := next (by decide) dash
    exact hkey.noDashes ⟨tail, rfl⟩

/-- Cleaning leaves a written record as it is. -/
theorem clean?_writtenRecord (hkey : WritableKey key) (hvalue : WritableValue value) :
    Line.clean? {} (writtenRecord key value) = some (writtenRecord key value) := by
  have bare : Line.bare (writtenRecord key value) = writtenRecord key value := by
    have code : isCommentLine (writtenRecord key value) = false :=
      isCommentLine_key hkey fun c hc => by
        obtain rfl : '=' = c := Option.some.inj hc
        decide
    rw [Line.bare, code, Line.withoutComment_of_none (codeFrom_writtenRecord hkey hvalue)]
    rfl
  have squeezed : Text.squeeze (writtenRecord key value) = writtenRecord key value := by
    have written : writtenRecord key value = (key ++ ['=', '"']) ++ (value ++ ['"']) := by
      simp [writtenRecord]
    have solid : ∀ c ∈ key ++ ['=', '"'], isBlank c = false := by
      rw [List.forall_mem_append]
      exact ⟨hkey.not_blank, List.forall_mem_cons.mpr ⟨rfl, List.forall_mem_singleton.mpr rfl⟩⟩
    rw [written, Text.squeeze_append_of_not_blank solid, Text.squeeze_concat hvalue.noRun rfl]
  have blank : Text.allBlank (writtenRecord key value) = false :=
    Text.allBlank_eq_false (c := '"') (by simp [writtenRecord]) rfl
  have trimmed : Text.trim (writtenRecord key value) = writtenRecord key value := by
    obtain ⟨c, rest, front, hc⟩ := head_writtenRecord hkey value
    refine Text.trim_eq_self ?_ ?_
    · rw [front]
      simpa using not_blank_of_isKey hc
    · intro d hd
      rw [getLast?_writtenRecord, Option.some.injEq] at hd
      subst hd
      rfl
  rw [Line.clean?_eq, bare]
  simp [Line.squeezed, squeezed, blank, trimmed]

/-! ### Recognition -/

/-- What begins like a record follows no keyword. -/
theorem afterKeyword?_record {keyword : Text} (plain : '=' ∉ keyword)
    (hkey : WritableKey key) (rest : Text) :
    Form.afterKeyword? keyword (key ++ '=' :: rest) = none := by
  have front : Text.trimLeft (key ++ '=' :: rest) = key ++ '=' :: rest := by
    obtain ⟨c, tail, rfl⟩ := List.exists_cons_of_ne_nil hkey.nonempty
    exact Text.trimLeft_eq_self (by simpa using hkey.not_blank c List.mem_cons_self)
  rw [Form.afterKeyword?, front]
  split
  · rename_i c tail follows
    rw [Text.after?_eq_some_iff, List.append_eq_append_iff] at follows
    have solid : isBlank c = false := by
      obtain ⟨more, hkeyword, hrest⟩ | ⟨more, hkey', hrest⟩ := follows
      · cases more with
        | nil =>
          obtain rfl : '=' = c := (List.cons.inj hrest).1
          rfl
        | cons d more =>
          obtain rfl : '=' = d := (List.cons.inj hrest).1
          exact absurd (by simp [hkeyword]) plain
      · cases more with
        | nil =>
          obtain rfl : c = '=' := (List.cons.inj hrest).1
          rfl
        | cons d more =>
          obtain rfl : c = d := (List.cons.inj hrest).1
          exact hkey.not_blank c (by simp [hkey'])
    rw [solid]
    rfl
  · rfl

theorem payload?_record {keyword : Text} (plain : '=' ∉ keyword) (hkey : WritableKey key)
    (rest : Text) : Form.payload? keyword (key ++ '=' :: rest) = none := by
  rw [Form.payload?, afterKeyword?_record plain hkey]
  rfl

/-- A key, an equals sign with blanks in front of it or none, and a value are read as the record
of them. -/
theorem record?_key (nonempty : key ≠ []) (alphabet : ∀ c ∈ key, isKey c = true) {gap rest : Text}
    (blank : ∀ c ∈ gap, isBlank c) (free : '\n' ∉ Text.trim rest) :
    Form.record? (key ++ (gap ++ '=' :: rest)) = some (key, .ofText (Text.trim rest)) := by
  have front : Text.trimLeft (key ++ (gap ++ '=' :: rest)) = key ++ (gap ++ '=' :: rest) := by
    obtain ⟨c, tail, rfl⟩ := List.exists_cons_of_ne_nil nonempty
    exact Text.trimLeft_eq_self
      (by simpa using not_blank_of_isKey (alphabet c List.mem_cons_self))
  have stop : (gap ++ '=' :: rest).head?.any isKey = false := by
    cases gap with
    | nil => rfl
    | cons c gap => simpa using not_key_of_isBlank (blank c List.mem_cons_self)
  obtain ⟨taken, left⟩ := Text.takeWhile_append_stop alphabet stop
  have equals : Text.trimLeft (gap ++ '=' :: rest) = '=' :: rest := by
    rw [Text.trimLeft, List.dropWhile_append_of_pos blank]
    exact Text.trimLeft_eq_self rfl
  simp only [Form.record?, front, taken, left, equals]
  simp [nonempty, free]

structure IsRecord (line key value : Text) : Prop where
  plain : splitEcho line = (false, line)
  builtin : ∃ written : WrittenValue, written.text = value ∧
    Kind.records.builtin? line = some (.record key written)

theorem IsRecord.recognized {line : Text} (h : IsRecord line key value) :
    Kind.records.recognizes line = true := by
  obtain ⟨written, -, builtin⟩ := h.builtin
  rw [← Kind.isSome_builtin? (by decide), withoutEcho, h.plain, builtin]
  rfl

/-- What has the form of a record is one, if no other form is tried with success before. -/
theorem isRecord_of_unclaimed {line : Text} {written : WrittenValue}
    (echo : Form.echo? line = none) (basic : Builtin.basic? line = none)
    (script : Builtin.script? line = none) (form : Form.record? line = some (key, written)) :
    IsRecord line key written.text := by
  refine ⟨by rw [splitEcho, echo], written, rfl, ?_⟩
  rw [Kind.builtin?, basic, script, Builtin.record?, form]
  rfl

/-- What begins with a key and an equals sign is a record, if it is one in form. -/
theorem isRecord_of_form (hkey : WritableKey key) {rest : Text} {written : WrittenValue}
    (form : Form.record? (key ++ '=' :: rest) = some (key, written)) :
    IsRecord (key ++ '=' :: rest) key written.text := by
  have unclaimed {keyword : Text} (plain : '=' ∉ keyword) :
      Form.payload? keyword (key ++ '=' :: rest) = none := payload?_record plain hkey rest
  have set : Form.setProperty? (key ++ '=' :: rest) = none := by
    rw [Form.setProperty?, afterKeyword?_record (by decide) hkey]
    rfl
  have load : Form.properties? (key ++ '=' :: rest) = none := by
    rw [Form.properties?, unclaimed (by decide)]
    rfl
  have basic : Builtin.basic? (key ++ '=' :: rest) = none := by
    rw [Builtin.basic?, Form.include?, Form.print?, unclaimed (by decide), unclaimed (by decide)]
    rfl
  have script : Builtin.script? (key ++ '=' :: rest) = none := by
    rw [Builtin.script?, Form.sleep?, unclaimed (by decide), set, load]
    rfl
  have echo : Form.echo? (key ++ '=' :: rest) = none := by
    rw [Form.echo?, unclaimed (by decide)]
    rfl
  exact isRecord_of_unclaimed echo basic script form

theorem WrittenValue.insideOf?_cons (quote c : Char) (t : Text) :
    WrittenValue.insideOf? quote (c :: t) =
      if c = quote ∧ t.getLast? = some quote then some t.dropLast else none := by
  cases t <;> simp [WrittenValue.insideOf?]

theorem WrittenValue.insideOf?_eq_some_iff {quote : Char} {t inside : Text} :
    WrittenValue.insideOf? quote t = some inside ↔ t = quote :: (inside ++ [quote]) := by
  cases t with
  | nil => simp [WrittenValue.insideOf?]
  | cons c t =>
    rw [WrittenValue.insideOf?_cons]
    constructor
    · intro h
      split at h
      · rename_i both
        obtain ⟨rfl, last⟩ := both
        obtain ⟨front, rfl⟩ := List.getLast?_eq_some_iff.mp last
        rw [List.dropLast_concat] at h
        rw [Option.some.inj h]
      · cases h
    · intro whole
      obtain ⟨rfl, rfl⟩ := List.cons.inj whole
      simp

/-- A written record is the record of the key and the value that were written. -/
theorem isRecord_written (hkey : WritableKey key) (hvalue : WritableValue value) :
    IsRecord (writtenRecord key value) key value := by
  have quoted : Text.trim ('"' :: (value ++ ['"'])) = '"' :: (value ++ ['"']) := by
    refine Text.trim_eq_self rfl fun c hc => ?_
    rw [← List.cons_append, List.getLast?_concat, Option.some.injEq] at hc
    subst hc
    rfl
  have form : Form.record? (writtenRecord key value) = some (key, .doubleQuoted value) := by
    have read := @record?_key key hkey.nonempty hkey.alphabet [] ('"' :: (value ++ ['"'])) (by simp)
      (by simp [quoted, hvalue.noFeed])
    rwa [quoted, WrittenValue.ofText, WrittenValue.insideOf?_eq_some_iff.mpr rfl] at read
  exact isRecord_of_form hkey form

/-! ### Execution -/

/-- Executing a record defines its key, and does nothing else outside the log. -/
theorem executeLine_record (resources : Resources) {settings : Settings}
    (kind : settings.kind = .records) (load : Text → Act Store Table) (place : Text) {line : Line}
    (record : IsRecord line.text key value) {s : Store} {k v t : Text}
    (hk : settings.expander.expand s.registry key = .ok k)
    (hv : settings.expander.expand s.registry value = .ok v)
    (ht : settings.expander.expand s.registry line.text = .ok t) :
    Act.Quietly (executeLine resources settings load place line) s .done
      { s with target := s.target.insert k v } := by
  obtain ⟨written, rfl, builtin⟩ := record.builtin
  refine .bind (.onlyIf_debug ..) (.bind (quietly_surface place record.plain ht) ?_)
  rw [withoutEcho, record.plain, kind, builtin]
  exact .bind (quietly_expand _ hk) (.bind (quietly_expand _ hv)
    (.bind (.modify _) (.bind (.onlyIf_debug ..) .pure)))

end

end CommandScript
