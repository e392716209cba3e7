import Mathlib.Data.List.Nodup
import CommandScript.Proofs.Blanks
import CommandScript.Scanner.Builtin

/-!
# Keywords

Every form of line is known by its first word: the keyword that it asks for, in letters of
either case where the keyword stands alone. The keywords differ, so a line has at most one
form, and it does not matter in which order the forms are tried.
-/

namespace CommandScript

namespace Form

open Text

def keyword? (line : Text) : Option Text := (firstWord? line).map (·.map Char.toLower)

/-- A keyword is a word: it is not empty and holds no blank. -/
structure IsWord (keyword : Text) : Prop where
  nonempty : keyword ≠ []
  solid : ∀ c ∈ keyword, isBlank c = false

instance (keyword : Text) : Decidable (IsWord keyword) :=
  decidable_of_iff (keyword ≠ [] ∧ keyword.all (!isBlank ·) = true)
    ⟨fun h => ⟨h.1, by simpa using h.2⟩, fun h => ⟨h.nonempty, by simpa using h.solid⟩⟩

/-! ### The first word -/

section

variable {keyword line : Text}

/-- The first word of a line is the word that it begins with. -/
theorem firstWord?_of_append {behind : Text} (word : IsWord keyword)
    (h : trimLeft line = keyword ++ behind) (stop : behind = [] ∨ behind.head?.any isBlank) :
    firstWord? line = some keyword := by
  have ends : behind.head?.any (!isBlank ·) = false := by
    cases behind with
    | nil => rfl
    | cons c rest => simpa using stop
  obtain ⟨front, -⟩ := takeWhile_append_stop (by simpa using word.solid) ends
  rw [firstWord?, h]
  split
  · rename_i none
    exact absurd (List.append_eq_nil_iff.mp none).1 word.nonempty
  · exact congrArg some front

theorem keyword?_of_after? {rest : Text} {c : Char} (word : IsWord keyword)
    (h : after? keyword (trimLeft line) = some (c :: rest)) (hc : isBlank c = true) :
    keyword? line = some (keyword.map Char.toLower) := by
  rw [after?_eq_some_iff] at h
  rw [keyword?, firstWord?_of_append word h (Or.inr (by simpa using hc)), Option.map_some]

/-- A line that begins with a word and a blank follows the keyword that is this word, and no
other. -/
theorem afterKeyword?_append {word gap rest : Text} (hkeyword : IsWord keyword)
    (hword : IsWord word) (blank : ∀ c ∈ gap, isBlank c) (apart : gap ≠ [])
    (front : rest.head?.any isBlank = false) :
    afterKeyword? keyword (word ++ (gap ++ rest)) = if word = keyword then some rest else none := by
  obtain ⟨b, gap, rfl⟩ := List.exists_cons_of_ne_nil apart
  rw [List.forall_mem_cons] at blank
  have whole : trimLeft (word ++ (b :: gap ++ rest)) = word ++ (b :: gap ++ rest) := by
    obtain ⟨c, tail, rfl⟩ := List.exists_cons_of_ne_nil hword.nonempty
    exact trimLeft_eq_self (by simpa using hword.solid c List.mem_cons_self)
  rw [afterKeyword?, whole]
  by_cases same : word = keyword
  · subst same
    have follows : after? word (word ++ (b :: gap ++ rest)) = some (b :: (gap ++ rest)) :=
      (after?_eq_some_iff ..).mpr rfl
    have behind : trimLeft (gap ++ rest) = rest := by
      rw [trimLeft, List.dropWhile_append_of_pos blank.2]
      exact trimLeft_eq_self front
    rw [follows]
    simp only [blank.1, behind, if_true]
  · rw [if_neg same]
    split
    · rename_i c tail follows
      rw [after?_eq_some_iff] at follows
      split
      · -- Both words would be the first one of the line.
        rename_i hc
        have mine : firstWord? (word ++ (b :: gap ++ rest)) = some word :=
          firstWord?_of_append hword whole (.inr (by simpa using blank.1))
        have other : firstWord? (word ++ (b :: gap ++ rest)) = some keyword :=
          firstWord?_of_append hkeyword (whole.trans follows) (.inr (by simpa using hc))
        exact absurd (Option.some.inj (mine.symm.trans other)) same
      · rfl
    · rfl

/-- What follows a keyword stands behind it and blanks, and begins with none. -/
theorem exists_of_afterKeyword? {rest : Text} (h : afterKeyword? keyword line = some rest) :
    ∃ lead gap, (∀ c ∈ lead, isBlank c) ∧ (∀ c ∈ gap, isBlank c) ∧ gap ≠ [] ∧
      line = lead ++ (keyword ++ (gap ++ rest)) ∧ rest.head?.any isBlank = false := by
  obtain ⟨lead, hlead, hline⟩ := exists_trimLeft line
  revert h
  rw [afterKeyword?]
  split
  · rename_i c tail after
    split
    · rename_i hc
      rintro ⟨⟩
      obtain ⟨gap, hgap, htail⟩ := exists_trimLeft tail
      refine ⟨lead, c :: gap, hlead, List.forall_mem_cons.mpr ⟨hc, hgap⟩, List.cons_ne_nil _ _, ?_,
        head_trimLeft tail⟩
      rw [List.cons_append, ← htail, ← (after?_eq_some_iff ..).mp after]
      exact hline
    · rintro ⟨⟩
  · rintro ⟨⟩

theorem afterKeyword?_eq_some_iff {rest : Text} (word : IsWord keyword) :
    afterKeyword? keyword line = some rest ↔
      ∃ lead gap, (∀ c ∈ lead, isBlank c) ∧ (∀ c ∈ gap, isBlank c) ∧ gap ≠ [] ∧
        line = lead ++ (keyword ++ (gap ++ rest)) ∧ rest.head?.any isBlank = false := by
  constructor
  · exact exists_of_afterKeyword?
  · rintro ⟨lead, gap, hlead, hgap, apart, rfl, front⟩
    rw [afterKeyword?, trimLeft_append hlead]
    exact (afterKeyword?_append word word hgap apart front).trans (if_pos rfl)

theorem keyword?_of_afterKeyword? {rest : Text} (word : IsWord keyword)
    (h : afterKeyword? keyword line = some rest) :
    keyword? line = some (keyword.map Char.toLower) := by
  revert h
  rw [afterKeyword?]
  split
  · rename_i c tail follows
    split
    · intro _
      exact keyword?_of_after? word follows ‹_›
    · rintro ⟨⟩
  · rintro ⟨⟩

/-- A payload that passes a test stands behind its keyword. -/
theorem keyword?_of_payload? {test : Text → Bool} {payload : Text} (word : IsWord keyword)
    (h : (payload? keyword line).filter test = some payload) :
    keyword? line = some (keyword.map Char.toLower) := by
  obtain ⟨whole, -⟩ := Option.filter_eq_some_iff.mp h
  obtain ⟨rest, hrest, -⟩ := Option.map_eq_some_iff.mp whole
  exact keyword?_of_afterKeyword? word hrest

/-- Small letters are made of letters only, and a blank is none. -/
theorem toLower_of_isBlank {c : Char} (h : isBlank c = true) : c.toLower = c := by
  apply dif_neg
  rintro ⟨low, high⟩
  rw [ge_iff_le, UInt32.le_iff_toNat_le] at low
  rw [UInt32.le_iff_toNat_le] at high
  have value : c.val.toNat = c.toNat := rfl
  have first : 'A'.val.toNat = 65 := rfl
  have last : 'Z'.val.toNat = 90 := rfl
  simp [isBlank] at h
  omega

/-- A line that is one word begins with it. -/
theorem keyword?_of_isKeywordLine (word : IsWord keyword) (h : isKeywordLine keyword line = true) :
    keyword? line = some keyword := by
  have same : (trim line).map Char.toLower = keyword := by simpa [isKeywordLine] using h
  have whole : IsWord (trim line) := by
    constructor
    · intro none
      rw [none] at same
      exact word.nonempty same.symm
    · intro c hc
      rw [Bool.eq_false_iff]
      intro blank
      have inside : c.toLower ∈ keyword := same ▸ List.mem_map_of_mem hc
      rw [toLower_of_isBlank blank] at inside
      rw [word.solid c inside] at blank
      cases blank
  obtain ⟨blanks, hblanks, hline⟩ := exists_trimRight (trimLeft line)
  have stop : blanks = [] ∨ blanks.head?.any isBlank := by
    cases blanks with
    | nil => exact Or.inl rfl
    | cons b rest => exact Or.inr (by simpa using hblanks b List.mem_cons_self)
  rw [keyword?, firstWord?_of_append whole hline stop, Option.map_some, same]

theorem keyword?_of_setProperty? {payload : Text × Text} (h : setProperty? line = some payload) :
    keyword? line = some "setproperty".toList := by
  simp only [setProperty?, Option.bind_eq_bind, Option.bind_eq_some_iff] at h
  obtain ⟨rest, hrest, -⟩ := h
  exact keyword?_of_afterKeyword? (by decide) hrest

theorem keyword?_of_properties? {payload : Text × Text} (h : properties? line = some payload) :
    keyword? line = some "properties".toList := by
  simp only [properties?, Option.bind_eq_bind, Option.bind_eq_some_iff] at h
  obtain ⟨rest, hrest, -⟩ := h
  obtain ⟨behind, hbehind, -⟩ := Option.map_eq_some_iff.mp hrest
  exact keyword?_of_afterKeyword? (by decide) hbehind

theorem keyword?_of_useAsInput? {value : Text} (h : useAsInput? line = some value) :
    keyword? line = some "useasinput".toList := by
  revert h
  rw [useAsInput?]
  split
  · rename_i c rest follows
    split
    · rintro ⟨⟩
    · rename_i blank
      intro _
      exact keyword?_of_after? (by decide) follows (by simpa using blank)
  · rintro ⟨⟩

theorem keyword?_of_include? {reference : Text} (h : include? line = some reference) :
    keyword? line = some "include".toList :=
  keyword?_of_payload? (by decide) h

/-- A line that is known by one word has no form that is known by another. -/
theorem eq_none_of_keyword? {α : Type} {form? : Option α} {word other : Text}
    (h : keyword? line = some word) (keyed : ∀ a, form? = some a → keyword? line = some other)
    (differ : other ≠ word) : form? = none := by
  refine Option.eq_none_iff_forall_ne_some.mpr fun a fits => differ ?_
  exact Option.some.inj ((keyed a fits).symm.trans h)

end

end Form

namespace Command

open Form

/-- The forms of commands in the order in which they are tried, each under its keyword in
small letters. -/
def forms : List (Text × (Text → Option Command)) :=
  [("makenewroot", fun line => (makeNewRoot? line).map makeNewRoot),
    ("batch", fun line => (batch? line).map batch),
    ("foreach", fun line => if isForeach line then some foreach else none),
    ("end", fun line => if isEnd line then some endOfLoop else none),
    ("properties", fun line => (properties? line).map fun p => properties p.1 p.2),
    ("setproperty", fun line => (setProperty? line).map fun p => setProperty p.1 p.2),
    ("print", fun line => (print? line).map print),
    ("saveto", fun line => (saveTo? line).map saveTo),
    ("useasinput", fun line => (useAsInput? line).map useAsInput),
    ("sleep", fun line => (sleep? line).map sleep)]

/-- The first form that fits decides. -/
theorem recognize?_eq_findSome? (line : Text) :
    recognize? line = forms.findSome? (·.2 line) := by
  have step (form : Text × (Text → Option Command)) (rest : List (Text × (Text → Option Command))) :
      (form :: rest).findSome? (·.2 line) = (form.2 line <|> rest.findSome? (·.2 line)) := by
    rw [List.findSome?_cons]
    cases form.2 line <;> rfl
  have last (command? : Option Command) : (command? <|> none) = command? := by
    cases command? <;> rfl
  simp only [recognize?, forms, step, List.findSome?_nil, last]

/-- A form fits only lines that begin with its keyword. -/
theorem keyword?_of_mem_forms {form : Text × (Text → Option Command)} (h : form ∈ forms)
    {line : Text} (fits : (form.2 line).isSome) : keyword? line = some form.1 := by
  obtain ⟨command, hcommand⟩ := Option.isSome_iff_exists.mp fits
  simp only [forms, List.mem_cons, List.not_mem_nil, or_false] at h
  rcases h with rfl | rfl | rfl | rfl | rfl | rfl | rfl | rfl | rfl | rfl
  all_goals simp only [Option.map_eq_some_iff, Option.ite_none_right_eq_some] at hcommand
  · obtain ⟨name, hname, -⟩ := hcommand
    exact keyword?_of_payload? (by decide) hname
  · obtain ⟨reference, hreference, -⟩ := hcommand
    exact keyword?_of_payload? (by decide) hreference
  · exact keyword?_of_isKeywordLine (by decide) hcommand.1
  · exact keyword?_of_isKeywordLine (by decide) hcommand.1
  · obtain ⟨payload, hpayload, -⟩ := hcommand
    exact keyword?_of_properties? hpayload
  · obtain ⟨payload, hpayload, -⟩ := hcommand
    exact keyword?_of_setProperty? hpayload
  · obtain ⟨expression, hexpression, -⟩ := hcommand
    exact keyword?_of_payload? (by decide) hexpression
  · obtain ⟨reference, hreference, -⟩ := hcommand
    exact keyword?_of_payload? (by decide) hreference
  · obtain ⟨value, hvalue, -⟩ := hcommand
    exact keyword?_of_useAsInput? hvalue
  · obtain ⟨digits, hdigits, -⟩ := hcommand
    exact keyword?_of_payload? (by decide) hdigits

/-- No two forms of commands have the same keyword, and none has that of an inclusion. -/
theorem nodup_keywords : (forms.map (·.1) ++ ["include".toList]).Nodup := by decide

/-! ### One form at most -/

/-- Of things that are so only where one word is their own, at most one is so. -/
theorem count_le_one_of_keyed {word? : Option Text} {rows : List (Text × Bool)}
    (distinct : (rows.map (·.1)).Nodup) (keyed : ∀ row ∈ rows, row.2 = true → word? = some row.1) :
    (rows.map (·.2)).count true ≤ 1 := by
  induction rows with
  | nil => exact Nat.zero_le 1
  | cons row rows ih =>
    rw [List.map_cons, List.nodup_cons] at distinct
    rw [List.forall_mem_cons] at keyed
    rw [List.map_cons, List.count_cons]
    by_cases here : row.2 = true
    · have others : (rows.map (·.2)).count true = 0 := by
        rw [List.count_eq_zero]
        intro again
        obtain ⟨other, hother, there⟩ := List.mem_map.mp again
        have same : some row.1 = some other.1 :=
          (keyed.1 here).symm.trans (keyed.2 other hother there)
        exact distinct.1 (List.mem_map.mpr ⟨other, hother, (Option.some.inj same).symm⟩)
      rw [others, here]
      simp
    · have rest := ih distinct.2 keyed.2
      simp [here, rest]

/-- A line has at most one form, an inclusion being one of them. -/
theorem count_forms_le_one (line : Text) :
    (forms.map (fun form => (form.2 line).isSome) ++ [(include? line).isSome]).count true ≤ 1 := by
  have rows := @count_le_one_of_keyed (keyword? line)
    (forms.map (fun form => (form.1, (form.2 line).isSome)) ++
      [("include".toList, (include? line).isSome)])
  rw [List.map_append, List.map_map, List.map_append, List.map_map] at rows
  refine rows nodup_keywords ?_
  intro row hrow fits
  rw [List.mem_append, List.mem_map, List.mem_singleton] at hrow
  rcases hrow with ⟨form, hform, rfl⟩ | rfl
  · exact keyword?_of_mem_forms hform fits
  · obtain ⟨reference, hreference⟩ := Option.isSome_iff_exists.mp fits
    exact keyword?_of_include? hreference

/-- Only one form can make a command of a line. -/
theorem eq_of_fits {form other : Text × (Text → Option Command)} (h : form ∈ forms)
    (h' : other ∈ forms) {line : Text} (fits : (form.2 line).isSome)
    (fits' : (other.2 line).isSome) : form = other := by
  have same : some form.1 = some other.1 :=
    (keyword?_of_mem_forms h fits).symm.trans (keyword?_of_mem_forms h' fits')
  have distinct : (forms.map (·.1)).Nodup := (List.nodup_append.mp nodup_keywords).1
  exact List.inj_on_of_nodup_map distinct h h' (Option.some.inj same)

theorem findSome?_eq_some_iff {order : List (Text × (Text → Option Command))}
    (h : ∀ form, form ∈ order ↔ form ∈ forms) (line : Text) (command : Command) :
    order.findSome? (·.2 line) = some command ↔ ∃ form ∈ forms, form.2 line = some command := by
  constructor
  · intro found
    obtain ⟨form, hform, fits⟩ := List.exists_of_findSome?_eq_some found
    exact ⟨form, (h form).mp hform, fits⟩
  · rintro ⟨form, hform, fits⟩
    have succeeds : (order.findSome? (·.2 line)).isSome :=
      List.findSome?_isSome_iff.mpr ⟨form, (h form).mpr hform, by simp [fits]⟩
    obtain ⟨found, hfound⟩ := Option.isSome_iff_exists.mp succeeds
    obtain ⟨other, hother, fits'⟩ := List.exists_of_findSome?_eq_some hfound
    have here : (form.2 line).isSome := by simp [fits]
    have there : (other.2 line).isSome := by simp [fits']
    obtain rfl : other = form := eq_of_fits ((h other).mp hother) hform there here
    rw [hfound, ← fits', fits]

theorem recognize?_eq_some_iff (line : Text) (command : Command) :
    recognize? line = some command ↔ ∃ form ∈ forms, form.2 line = some command := by
  rw [recognize?_eq_findSome?]
  exact findSome?_eq_some_iff (fun _ => Iff.rfl) line command

/-- The order in which the forms are tried does not matter. -/
theorem findSome?_of_perm {order : List (Text × (Text → Option Command))} (h : order.Perm forms)
    (line : Text) : order.findSome? (·.2 line) = recognize? line := by
  apply Option.ext
  intro command
  rw [recognize?_eq_some_iff]
  exact findSome?_eq_some_iff (fun _ => h.mem_iff) line command

/-! ### Built-in lines -/

def isExecuted : Command → Bool
  | print _ | sleep _ | setProperty .. | properties .. => true
  | _ => false

theorem isExecuted_ofText_iff (line : Text) :
    (ofText line).isExecuted = true ↔
      (properties? line).isSome ∨ (setProperty? line).isSome ∨ (print? line).isSome ∨
        (sleep? line).isSome := by
  have found : (ofText line).isExecuted = true ↔
      ∃ form ∈ forms, ∃ command, form.2 line = some command ∧ command.isExecuted = true := by
    constructor
    · intro h
      cases hline : recognize? line with
      | none => simp [ofText, hline, isExecuted] at h
      | some command =>
        obtain ⟨form, hform, fits⟩ := (recognize?_eq_some_iff line command).mp hline
        exact ⟨form, hform, command, fits, by simpa [ofText, hline] using h⟩
    · rintro ⟨form, hform, command, fits, h⟩
      have hline := (recognize?_eq_some_iff line command).mpr ⟨form, hform, fits⟩
      simpa [ofText, hline] using h
  rw [found]
  simp [forms, isExecuted, Option.isSome_iff_exists]

end Command

end CommandScript
