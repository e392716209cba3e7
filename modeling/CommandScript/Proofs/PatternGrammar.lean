import CommandScript.Proofs.LinePatterns

/-!
# The grammar of records, payloads and assignments

What the patterns of lines accept is said here without a search: how the text is put together from
a key or a keyword, blanks and a value or a payload. There is one way at most to read a text so,
and the search finds it.
-/

namespace CommandScript

open Text

def Text.IsQuoted (quote : Char) (t : Text) : Prop := ∃ inside, t = quote :: (inside ++ [quote])

namespace WrittenValue

/-- How a value without blanks at its ends is to be read. -/
def Spells : WrittenValue → Text → Prop
  | doubleQuoted inside, t => t = '"' :: (inside ++ ['"'])
  | singleQuoted inside, t => t = '\'' :: (inside ++ ['\''])
  | bare value, t => t = value ∧ ¬ IsQuoted '"' t ∧ ¬ IsQuoted '\'' t

theorem not_isQuoted_iff {quote : Char} {t : Text} :
    ¬ IsQuoted quote t ↔ insideOf? quote t = none := by
  rw [Option.eq_none_iff_forall_ne_some, IsQuoted, not_exists]
  exact forall_congr' fun inside => not_congr insideOf?_eq_some_iff.symm

theorem ofText_eq_iff {t : Text} {written : WrittenValue} :
    ofText t = written ↔ written.Spells t := by
  constructor
  · rintro rfl
    rw [ofText]
    cases double : insideOf? '"' t with
    | some inside => exact insideOf?_eq_some_iff.mp double
    | none =>
      cases single : insideOf? '\'' t with
      | some inside => exact insideOf?_eq_some_iff.mp single
      | none =>
        exact ⟨rfl, not_isQuoted_iff.mpr double, not_isQuoted_iff.mpr single⟩
  · intro spells
    cases written with
    | doubleQuoted inside => rw [ofText, insideOf?_eq_some_iff.mpr spells]
    | singleQuoted inside =>
      have other : insideOf? '"' t = none := by
        rw [spells, insideOf?_cons]
        rfl
      rw [ofText, other, insideOf?_eq_some_iff.mpr spells]
    | bare value =>
      obtain ⟨rfl, double, single⟩ := spells
      rw [ofText, not_isQuoted_iff.mp double, not_isQuoted_iff.mp single]

end WrittenValue

namespace Form

/-- A record: a key, an equals sign and a value, with blanks around each. -/
structure HoldsRecord (key : Text) (written : WrittenValue) (line : Text) : Prop where
  nonempty : key ≠ []
  alphabet : ∀ c ∈ key, isKey c = true
  whole : ∃ lead gap rest, (∀ c ∈ lead, isBlank c) ∧ (∀ c ∈ gap, isBlank c) ∧
    line = lead ++ (key ++ (gap ++ '=' :: rest)) ∧ written.Spells (trim rest)

/-- A keyword, blanks and a payload of so many characters at least, with blanks around the whole. -/
structure HoldsPayload (keyword : Text) (least : Nat) (payload line : Text) : Prop where
  solid : payload.head?.any isBlank = false
  long : least ≤ payload.length
  whole : ∃ gap, gap ≠ [] ∧ (∀ c ∈ gap, isBlank c) ∧ trim line = keyword ++ (gap ++ payload)

/-- An assignment: a name perhaps marked as guarded, an equals sign and a value of inline
characters, behind which nothing but blanks follows, the first of them not inline. -/
structure HoldsAssignment (key value line : Text) : Prop where
  named : ∃ name, name.isName = true ∧ (key = name ∨ key = '?' :: name)
  nonempty : value ≠ []
  inline : ∀ c ∈ value, isInline c = true
  whole : ∃ lead gap trail, (∀ c ∈ lead, isBlank c) ∧ (∀ c ∈ gap, isBlank c) ∧ gap ≠ [] ∧
    (∀ c ∈ trail, isBlank c) ∧ trail.head?.any isInline = false ∧
    line = lead ++ ("setProperty".toList ++ (gap ++ (key ++ '=' :: (value ++ trail))))

variable {t : Text}

theorem record?_iff_holds (oneLine : '\n' ∉ t) {key : Text} {written : WrittenValue} :
    record? t = some (key, written) ↔ HoldsRecord key written t := by
  constructor
  · intro h
    obtain ⟨lead, hlead, whole⟩ := exists_trimLeft t
    obtain ⟨gap, hgap, behind⟩ := exists_trimLeft ((trimLeft t).dropWhile isKey)
    rw [record?] at h
    split at h
    · rename_i rest equals
      obtain ⟨tests, same⟩ := Option.ite_none_right_eq_some.mp h
      obtain ⟨rfl, rfl⟩ := Prod.mk.inj (Option.some.inj same)
      refine ⟨by simpa using (Bool.and_eq_true_iff.mp tests).1,
        fun c hc => List.mem_takeWhile_imp hc, lead, gap, rest, hlead, hgap, ?_,
        WrittenValue.ofText_eq_iff.mp rfl⟩
      rw [← equals, ← behind, List.takeWhile_append_dropWhile]
      exact whole
    · cases h
  · rintro ⟨nonempty, alphabet, lead, gap, rest, hlead, hgap, rfl, spells⟩
    have free : '\n' ∉ trim rest := by
      have free : '\n' ∉ rest := fun mem => oneLine (by simp [mem])
      exact not_mem_trimRight (not_mem_trimLeft free)
    have read := record?_key nonempty alphabet hgap free
    have front : record? (lead ++ (key ++ (gap ++ '=' :: rest))) =
        record? (key ++ (gap ++ '=' :: rest)) := by
      simp only [record?, trimLeft_append hlead]
    rw [front, read, WrittenValue.ofText_eq_iff.mpr spells]

theorem payload_iff_holds {keyword payload : Text} {least : Nat} (word : IsWord keyword)
    (least_pos : 0 < least) (oneLine : '\n' ∉ t) :
    ((payload? keyword t).filter fun p => least ≤ p.length && !p.contains '\n') = some payload ↔
      HoldsPayload keyword least payload t := by
  have nonempty (long : least ≤ payload.length) : payload ≠ [] :=
    List.ne_nil_of_length_pos (least_pos.trans_le long)
  rw [Option.filter_eq_some_iff]
  constructor
  · rintro ⟨read, tests⟩
    have long : least ≤ payload.length := by simpa using (Bool.and_eq_true_iff.mp tests).1
    obtain ⟨solid, whole⟩ :=
      (spaced_iff word (nonempty long)).mp (spaced_of_payload? read (nonempty long))
    exact ⟨solid, long, whole⟩
  · rintro ⟨solid, long, whole⟩
    have spaced := (spaced_iff word (nonempty long)).mpr ⟨solid, whole⟩
    have free : '\n' ∉ payload := by
      obtain ⟨lead, gap, trail, -, -, -, -, rfl⟩ := spaced.whole
      intro mem
      simp [mem] at oneLine
    exact ⟨spaced.payload? word (nonempty long), by simp [long, free]⟩

/-- An inline value is followed by blanks, and the first of them is not inline. -/
theorem inlineValue?_eq_some_iff {value : Text} :
    inlineValue? t = some value ↔
      value ≠ [] ∧ (∀ c ∈ value, isInline c = true) ∧
        ∃ trail, (∀ c ∈ trail, isBlank c) ∧ trail.head?.any isInline = false ∧
          t = value ++ trail := by
  rw [inlineValue?]
  constructor
  · intro h
    obtain ⟨tests, same⟩ := Option.ite_none_right_eq_some.mp h
    obtain rfl := Option.some.inj same
    obtain ⟨nonempty, blank⟩ := Bool.and_eq_true_iff.mp tests
    refine ⟨by simpa using nonempty, fun c hc => List.mem_takeWhile_imp hc, _,
      List.all_eq_true.mp blank, ?_, List.takeWhile_append_dropWhile.symm⟩
    have stop := List.head?_dropWhile_not isInline t
    cases front : (t.dropWhile isInline).head? with
    | none => rfl
    | some c => simpa [front] using stop
  · rintro ⟨nonempty, inline, trail, blank, stop, rfl⟩
    obtain ⟨taken, left⟩ := takeWhile_append_stop inline stop
    have behind : allBlank trail = true := List.all_eq_true.mpr blank
    simp [taken, left, nonempty, behind]

/-- A guarded name begins with no blank and holds no equals sign. -/
theorem plain_of_isGuardedName {key : Text} (h : key.isGuardedName = true) :
    '=' ∉ key ∧ key ≠ [] ∧ ∀ c ∈ key, isBlank c = false := by
  obtain ⟨name, hname, whole⟩ := isGuardedName_iff.mp h
  have keys := isKey_of_isName hname
  have word := unquestioned_of_isName hname
  have free : '=' ∉ name := fun mem => ne_of_isKey (keys _ mem) (by decide) rfl
  rcases whole with rfl | rfl
  · exact ⟨free, word.nonempty, word.solid⟩
  · exact ⟨by simp [free], by simp, List.forall_mem_cons.mpr ⟨by decide, word.solid⟩⟩

theorem setProperty?_iff_holds {key value : Text} :
    setProperty? t = some (key, value) ↔ HoldsAssignment key value t := by
  rw [setProperty?_eq_some_iff]
  constructor
  · rintro ⟨rest, behind, follows, parts, read, guarded⟩
    obtain ⟨lead, gap, hlead, hgap, apart, rfl, -⟩ := exists_of_afterKeyword? follows
    obtain ⟨rfl, -⟩ := splitFirst?_eq_some_iff.mp parts
    obtain ⟨nonempty, inline, trail, htrail, stop, rfl⟩ := inlineValue?_eq_some_iff.mp read
    exact ⟨isGuardedName_iff.mp guarded, nonempty, inline, lead, gap, trail, hlead, hgap, apart,
      htrail, stop, rfl⟩
  · rintro ⟨named, nonempty, inline, lead, gap, trail, hlead, hgap, apart, htrail, stop, rfl⟩
    have guarded := isGuardedName_iff.mpr named
    obtain ⟨free, present, solid⟩ := plain_of_isGuardedName guarded
    have front : (key ++ '=' :: (value ++ trail)).head?.any isBlank = false := by
      obtain ⟨c, rest, rfl⟩ := List.exists_cons_of_ne_nil present
      simpa using solid c List.mem_cons_self
    exact ⟨_, _,
      (afterKeyword?_eq_some_iff (by decide)).mpr
        ⟨lead, gap, hlead, hgap, apart, rfl, front⟩,
      splitFirst?_eq_some_iff.mpr ⟨rfl, free⟩,
      inlineValue?_eq_some_iff.mpr ⟨nonempty, inline, trail, htrail, stop, rfl⟩, guarded⟩

end Form

/-- The search for a pattern finds what a form reads, and that is what a grammar says. -/
structure Pattern.Reads {α : Type} (p : Pattern) (form? : Text → Option α) (groups : α → Groups)
    (grammar : α → Text → Prop) (t : Text) : Prop where
  captures : p.captures t = (form? t).map groups
  accepts : ∀ a, form? t = some a ↔ grammar a t

/-- **The patterns of records and payloads accept exactly their grammar.** On a text without line
feeds, a pattern has a match if and only if the grammar reads the text, and the groups of the first
match are what it reads: of a record the key and, in the group of its quotes, the value. -/
theorem patterns_read_their_grammar {t : Text} (oneLine : '\n' ∉ t) :
    Pattern.record.Reads Form.record? (fun r => [(1, r.1), r.2.group])
      (fun r => Form.HoldsRecord r.1 r.2) t ∧
    Pattern.echo.Reads Form.echo? (fun payload => [(1, payload)])
      (Form.HoldsPayload "echo" 2) t ∧
    Pattern.print.Reads Form.print? (fun payload => [(1, payload)])
      (Form.HoldsPayload "print" 1) t ∧
    Pattern.setProperty.Reads Form.setProperty? (fun a => [(1, a.1), (2, a.2)])
      (fun a => Form.HoldsAssignment a.1 a.2) t := by
  refine ⟨⟨Pattern.captures_record oneLine, fun _ => Form.record?_iff_holds oneLine⟩,
    ⟨Pattern.captures_echo oneLine, fun _ => ?_⟩, ⟨Pattern.captures_print oneLine, fun _ => ?_⟩,
    ⟨Pattern.captures_setProperty t, fun _ => Form.setProperty?_iff_holds⟩⟩
  · exact Form.payload_iff_holds (by decide) (by decide) oneLine
  · exact Form.payload_iff_holds (by decide) (by decide) oneLine

/-- Double quotes within double quotes belong to the value, and so do an equals sign and a single
quote. -/
theorem patterns_read_their_grammar_quotes :
    let t : Text := "\tkey = \"a\" = 'b\" "
    let inside : Text := "a\" = 'b"
    '\n' ∉ t ∧ Pattern.record.captures t = some [(1, "key".toList), (2, inside)] ∧
      Form.HoldsRecord "key" (.doubleQuoted inside) t := by
  intro t inside
  have oneLine : '\n' ∉ t := by decide
  have form : Form.record? t = some ("key".toList, .doubleQuoted inside) := by decide +kernel
  obtain ⟨record, -⟩ := patterns_read_their_grammar oneLine
  refine ⟨oneLine, ?_, (record.accepts _).mp form⟩
  rw [record.captures, form]
  rfl

end CommandScript
