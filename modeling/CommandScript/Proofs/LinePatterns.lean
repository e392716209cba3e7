import CommandScript.Proofs.OptionalForms
import CommandScript.Proofs.Patterns

/-!
# Patterns of records, payloads and assignments

Records, echoed and printed payloads and assignments are each given by a pattern, in which blanks
may belong to the payload or stand around it, and a value has three alternatives. What the search
finds for a pattern is what the form of the line reads, whichever ways it tries and gives up before.
-/

namespace CommandScript

def WrittenValue.group : WrittenValue → Nat × Text
  | doubleQuoted inside => (2, inside)
  | singleQuoted inside => (3, inside)
  | bare value => (4, value)

namespace Pattern

/-! ### The patterns -/

def statement (keyword : Text) (payload : Pattern) : Pattern :=
  sequence [blanks, word keyword, run isBlank, payload, blanks, finish]

def visible (c : Char) : Bool := !isBlank c

/-- At least two characters within a line, the first and the last of them visible. -/
def enclosed : Pattern := sequence [one visible, many within, one visible]

def echo : Pattern := statement "echo" (group 1 enclosed)

def print : Pattern := statement "print" (group 1 (either enclosed (one visible)))

def guardedName : Pattern :=
  sequence [either (one (· == '?')) nothing, one startsName, many continuesName]

/-- A name perhaps marked as guarded, an equals sign and inline characters. -/
def assignment : Pattern :=
  sequence [group 1 guardedName, one (· == '='), group 2 (run isInline)]

def setProperty : Pattern := statement "setProperty" assignment

def quoted (number : Nat) (quote : Char) : Pattern :=
  sequence [one (· == quote), group number (many within), one (· == quote)]

def value : Pattern := either (quoted 2 '"') (either (quoted 3 '\'') (group 4 (few within)))

def record : Pattern :=
  sequence [blanks, group 1 (run isKey), blanks, one (· == '='), blanks, value, blanks, finish]

def behindKey : Pattern := sequence [blanks, one (· == '='), blanks, value, blanks, finish]

/-! ### Statements -/

section

variable {t : Text}

theorem captures_statement {keyword : Text} (isWord : Form.IsWord keyword) {payload : Pattern}
    (solid : payload.Solid) (t : Text) :
    (statement keyword payload).captures t =
      (Form.afterKeyword? keyword t).bind payload.capturesAll := by
  have ending : (both payload (sequence [blanks, finish])).captures = payload.capturesAll :=
    funext (captures_end payload)
  rw [← ending]
  exact captures_keyword isWord (solid.both _) t

/-- The first and the last visible character enclose all between them. -/
theorem capturesAll_enclosed (c : Char) {rest : Text} (oneLine : '\n' ∉ rest) :
    (group 1 enclosed).capturesAll (c :: rest) =
      if visible c = true ∧ Text.trimRight rest ≠ [] then some [(1, c :: Text.trimRight rest)]
      else none := by
  have step : (group 1 enclosed).capturesAll (c :: rest) =
      if visible c then
        longest within rest fun taken rest => rest.head?.bind fun d =>
          if visible d then
            (if Text.allBlank rest.tail then some [(1, c :: (taken ++ [d]))] else none)
          else none
      else none := by
    simp only [capturesAll, enclosed, sequence, find, find_one, List.append_nil, List.nil_append,
      List.singleton_append]
  have solid (d : Char) (hd : visible d = true) : isBlank d = false := by simpa [visible] using hd
  have last := @longest_within Groups rest visible solid
    (fun taken d => [(1, c :: (taken ++ [d]))]) oneLine
  rw [step, last]
  -- What is left without the blanks at the end, if anything, ends with a visible character.
  rcases List.eq_nil_or_concat (Text.trimRight rest) with empty | ⟨front, d, whole⟩
  · simp [empty]
  · have hd : visible d = true := by
      have blank : isBlank d = false := Text.last_trimRight (by rw [whole]; simp)
      simp [visible, blank]
    simp [whole, hd]

theorem solid_visible : (one visible).Solid := solid_one fun c hc => by simp [visible, hc]

theorem solid_enclosed : enclosed.Solid := solid_visible.both _

/-- What stands behind a keyword is part of the line. -/
theorem not_mem_of_afterKeyword? {keyword rest : Text} {c : Char} (free : c ∉ t)
    (h : Form.afterKeyword? keyword t = some rest) : c ∉ rest := by
  obtain ⟨lead, gap, -, -, -, rfl, -⟩ := Form.exists_of_afterKeyword? h
  intro mem
  simp [mem] at free

/-- A pattern for a payload is searched for behind the keyword. -/
theorem captures_payload {keyword : Text} {payload : Pattern} {least : Nat}
    (isWord : Form.IsWord keyword) (solid : payload.Solid)
    (finds : ∀ {rest : Text}, '\n' ∉ rest → rest.head?.any isBlank = false →
      payload.capturesAll rest =
        if least ≤ (Text.trimRight rest).length then some [(1, Text.trimRight rest)] else none)
    (oneLine : '\n' ∉ t) :
    (statement keyword payload).captures t =
      ((Form.payload? keyword t).filter fun p => least ≤ p.length && !p.contains '\n').map
        fun p => [(1, p)] := by
  rw [captures_statement isWord solid, Form.payload?]
  cases follows : Form.afterKeyword? keyword t with
  | none => rfl
  | some rest =>
    have free : '\n' ∉ rest := not_mem_of_afterKeyword? oneLine follows
    have free' : '\n' ∉ Text.trimRight rest := Text.not_mem_trimRight free
    obtain ⟨-, -, -, -, -, -, front⟩ := Form.exists_of_afterKeyword? follows
    rw [Option.bind_some, finds free front, Option.map_some, Option.filter_some]
    split <;> simp_all

theorem capturesAll_echo {rest : Text} (oneLine : '\n' ∉ rest)
    (front : rest.head?.any isBlank = false) :
    (group 1 enclosed).capturesAll rest =
      if 2 ≤ (Text.trimRight rest).length then some [(1, Text.trimRight rest)] else none := by
  cases rest with
  | nil => rfl
  | cons c rest =>
    have hc : isBlank c = false := by simpa using front
    rw [capturesAll_enclosed c fun mem => oneLine (List.mem_cons_of_mem c mem), Text.trimRight_cons]
    simp [visible, hc, Nat.succ_le_iff, List.length_pos_iff]

theorem capturesAll_print {rest : Text} (oneLine : '\n' ∉ rest)
    (front : rest.head?.any isBlank = false) :
    (group 1 (either enclosed (one visible))).capturesAll rest =
      if 1 ≤ (Text.trimRight rest).length then some [(1, Text.trimRight rest)] else none := by
  cases rest with
  | nil => rfl
  | cons c rest =>
    have hc : isBlank c = false := by simpa using front
    -- A payload of one character is left to the second alternative.
    have step : (group 1 (either enclosed (one visible))).capturesAll (c :: rest) =
        ((group 1 enclosed).capturesAll (c :: rest)).or
          (if visible c then (if Text.allBlank rest then some [(1, [c])] else none) else none) :=
      rfl
    rw [step, capturesAll_enclosed c fun mem => oneLine (List.mem_cons_of_mem c mem),
      Text.trimRight_cons]
    cases blank : Text.allBlank rest with
    | true => simp [visible, hc, Text.trimRight_eq_nil_iff.mpr blank]
    | false =>
      have more : Text.trimRight rest ≠ [] := mt Text.trimRight_eq_nil_iff.mp (by simp [blank])
      simp [visible, hc, more]

theorem captures_echo (oneLine : '\n' ∉ t) :
    echo.captures t = (Form.echo? t).map fun payload => [(1, payload)] :=
  captures_payload (by decide) (solid_enclosed.group 1) capturesAll_echo oneLine

theorem captures_print (oneLine : '\n' ∉ t) :
    print.captures t = (Form.print? t).map fun payload => [(1, payload)] :=
  captures_payload (by decide) ((solid_enclosed.either solid_visible).group 1) capturesAll_print
    oneLine

/-! ### Assignments -/

section

variable {α : Type} {f : Text → Text → Option α}

/-- What goes on a name ends in front of the first equals sign. -/
theorem longest_continuesName :
    longest continuesName t (fun taken rest => rest.head?.bind fun c =>
        if c == '=' then f taken rest.tail else none) =
      (Text.splitFirst? '=' t).bind fun p =>
        if p.1.all continuesName then f p.1 p.2 else none := by
  induction t generalizing f with
  | nil => rfl
  | cons c rest ih =>
    by_cases same : c = '='
    · subst same
      rfl
    · rw [longest, Text.splitFirst?, if_neg same, @ih fun taken => f (c :: taken)]
      cases hc : continuesName c <;> cases Text.splitFirst? '=' rest <;>
        simp [same, hc, -List.all_eq_true]

theorem find_name (t : Text) :
    (sequence [one startsName, many continuesName]).find t (fun w =>
        (one (· == '=')).find w.rest fun v => f w.taken v.rest) =
      (Text.splitFirst? '=' t).bind fun p => if p.1.isName then f p.1 p.2 else none := by
  cases t with
  | nil => rfl
  | cons c rest =>
    have behind := @longest_continuesName rest α fun taken => f (c :: taken)
    simp only [sequence, find, find_one, List.append_nil, List.singleton_append, Text.splitFirst?]
    by_cases same : c = '='
    · subst same
      rfl
    · rw [if_neg same, behind]
      cases hc : startsName c <;> cases Text.splitFirst? '=' rest <;>
        simp [Text.isName, hc, -List.all_eq_true]

theorem find_guardedName (t : Text) :
    guardedName.find t (fun w => (one (· == '=')).find w.rest fun v => f w.taken v.rest) =
      (Text.splitFirst? '=' t).bind fun p => if p.1.isGuardedName then f p.1 p.2 else none := by
  have step : guardedName.find t
      (fun w => (one (· == '=')).find w.rest fun v => f w.taken v.rest) =
        ((one (· == '?')).find t fun m =>
          (sequence [one startsName, many continuesName]).find m.rest fun w =>
            (one (· == '=')).find w.rest fun v => f (m.taken ++ w.taken) v.rest).or
          ((sequence [one startsName, many continuesName]).find t fun w =>
            (one (· == '=')).find w.rest fun v => f w.taken v.rest) := rfl
  -- A question mark begins no name, so one of the two alternatives fails at once.
  rw [step, find_name, find_one]
  cases t with
  | nil => rfl
  | cons c rest =>
    by_cases marked : c = '?'
    · subst marked
      have behind := @find_name α (fun name => f ('?' :: name)) rest
      have whole : Text.splitFirst? '=' ('?' :: rest) =
          (Text.splitFirst? '=' rest).map fun p => ('?' :: p.1, p.2) := rfl
      simp only [List.head?_cons, List.tail_cons, Option.bind_some, BEq.rfl, if_true,
        List.singleton_append, behind, whole]
      cases Text.splitFirst? '=' rest with
      | none => rfl
      | some p =>
        have unmarked : Text.isName ('?' :: p.1) = false := rfl
        simp [Text.isGuardedName, Text.withoutMark, unmarked]
    · have unmarked : (c == '?') = false := by simpa using marked
      have same (name : Text) : Text.isGuardedName (c :: name) = Text.isName (c :: name) := by
        simp [Text.isGuardedName, Text.withoutMark, marked]
      simp only [List.head?_cons, Option.bind_some, unmarked, Bool.false_eq_true, if_false,
        Option.none_or, Text.splitFirst?]
      split
      · rfl
      · cases Text.splitFirst? '=' rest <;> simp [same]

/-- All inline characters are taken, and blanks must follow. -/
theorem find_inline {g : Text → α} (t : Text) :
    (run isInline).find t (fun w => if Text.allBlank w.rest then some (g w.taken) else none) =
      (Form.inlineValue? t).map g := by
  cases t with
  | nil => rfl
  | cons c rest =>
    have behind := @longest_allBlank α isInline rest fun taken => g (c :: taken)
    simp only [run, find, List.singleton_append, behind, Form.inlineValue?]
    cases hc : isInline c <;> simp [hc]

theorem solid_guardedName : guardedName.Solid := by
  intro c rest k hc
  have noMark : (c == '?') = false := by simpa using ne_of_blank hc (c := '?') (by decide)
  have noStart : startsName c = false := by
    rw [Bool.eq_false_iff]
    intro starts
    have name : Text.isName [c] = true := by simpa [Text.isName] using starts
    rw [(Text.unquestioned_of_isName name).solid c List.mem_cons_self] at hc
    cases hc
  simp [guardedName, sequence, find, noMark, noStart]

/-- A name, an equals sign and an inline value are found as they are read. -/
theorem capturesAll_assignment (rest : Text) :
    assignment.capturesAll rest =
      (Text.splitFirst? '=' rest).bind fun p =>
        if p.1.isGuardedName then
          (Form.inlineValue? p.2).map fun value => [(1, p.1), (2, value)]
        else none := by
  have behind (w v : Way) : (run isInline).find v.rest (fun u =>
      if Text.allBlank u.rest then
        some (([] ++ [(1, w.taken)]) ++ ([] ++ (u.groups ++ [(2, u.taken)] ++ []))) else none) =
          (Form.inlineValue? v.rest).map fun value => [(1, w.taken), (2, value)] :=
    (find_groupless rfl v.rest _).trans
      (@find_inline Groups (fun value => [(1, w.taken), (2, value)]) v.rest)
  simp only [capturesAll, assignment, sequence, find]
  rw [find_groupless (p := guardedName) rfl]
  have reads := @find_guardedName Groups
    (fun name t => (Form.inlineValue? t).map fun value => [(1, name), (2, value)]) rest
  rw [← reads]
  refine congrArg (guardedName.find rest) (funext fun w => ?_)
  refine (find_groupless rfl w.rest _).trans ?_
  refine congrArg ((one (· == '=')).find w.rest) (funext fun v => ?_)
  exact behind w v

theorem captures_setProperty (t : Text) :
    setProperty.captures t = (Form.setProperty? t).map fun a => [(1, a.1), (2, a.2)] := by
  have solid : assignment.Solid := (solid_guardedName.group 1).both _
  rw [setProperty, captures_statement (by decide) solid, Form.setProperty?]
  cases Form.afterKeyword? "setProperty" t with
  | none => rfl
  | some rest =>
    rw [Option.bind_some, capturesAll_assignment]
    simp only [Option.bind_eq_bind, Option.bind_some]
    cases Text.splitFirst? '=' rest with
    | none => rfl
    | some p =>
      obtain ⟨key, behind⟩ := p
      cases inline : Form.inlineValue? behind <;> cases guarded : key.isGuardedName <;>
        simp [inline, guarded]

end

/-! ### Records -/

section

variable {number : Nat} {quote : Char}

/-- Between quotes stands what stands between them without the blanks around the whole. -/
theorem capturesAll_quoted (solid : isBlank quote = false) (oneLine : '\n' ∉ t) :
    (quoted number quote).capturesAll t =
      (WrittenValue.insideOf? quote (Text.trimRight t)).map fun inside => [(number, inside)] := by
  cases t with
  | nil => rfl
  | cons c rest =>
    have step : (quoted number quote).capturesAll (c :: rest) =
        if c == quote then
          longest within rest fun taken rest => rest.head?.bind fun d =>
            if d == quote then
              (if Text.allBlank rest.tail then some [(number, taken)] else none)
            else none
        else none := by
      simp only [capturesAll, quoted, sequence, find, find_one, List.append_nil, List.nil_append]
    have last := @longest_within Groups rest (· == quote) (by simpa using solid)
      (fun inside _ => [(number, inside)]) fun mem => oneLine (List.mem_cons_of_mem c mem)
    rw [step, last, Text.trimRight_cons]
    by_cases opens : c = quote
    · subst opens
      simp only [solid, Bool.false_and, Bool.false_eq_true, if_false, WrittenValue.insideOf?_cons]
      cases Text.trimRight rest |>.getLast? <;> simp [apply_ite]
    · have other : (c == quote) = false := by simpa using opens
      simp only [other, Bool.false_eq_true, if_false]
      split
      · rfl
      · rw [WrittenValue.insideOf?_cons, if_neg fun both => opens both.1]
        rfl

/-- The value is what stands between double quotes, else between single quotes, else the whole. -/
theorem capturesAll_value (oneLine : '\n' ∉ t) :
    value.capturesAll t = some [(WrittenValue.ofText (Text.trimRight t)).group] := by
  have step : value.capturesAll t =
      ((quoted 2 '"').capturesAll t).or (((quoted 3 '\'').capturesAll t).or
        ((group 4 (few within)).capturesAll t)) := rfl
  have bare : (group 4 (few within)).capturesAll t = some [(4, Text.trimRight t)] :=
    @shortest_within Groups t (fun taken => [(4, taken)]) oneLine
  rw [step, bare, capturesAll_quoted (by decide) oneLine, capturesAll_quoted (by decide) oneLine,
    WrittenValue.ofText]
  cases WrittenValue.insideOf? '"' (Text.trimRight t) with
  | some inside => rfl
  | none => cases WrittenValue.insideOf? '\'' (Text.trimRight t) <;> rfl

/-- The blanks in front of the value are not given back: with any value the search succeeds. -/
theorem captures_behindEquals (oneLine : '\n' ∉ t) :
    (sequence [blanks, value, blanks, finish]).captures t =
      some [(WrittenValue.ofText (Text.trim t)).group] := by
  refine longest_eq_of_eq_some ?_
  exact (captures_end value _).trans (capturesAll_value (Text.not_mem_trimLeft oneLine))

theorem captures_behindKey (oneLine : '\n' ∉ t) :
    behindKey.captures t =
      match Text.trimLeft t with
      | '=' :: rest => some [(WrittenValue.ofText (Text.trim rest)).group]
      | _ => none := by
  have solid : (one (· == '=')).Solid := solid_one fun c hc => by
    simpa using ne_of_blank hc (c := '=') (by decide)
  have free := Text.not_mem_trimLeft oneLine
  refine (captures_blanks (solid.both _) t).trans ?_
  split
  · rename_i rest whole
    rw [whole] at free ⊢
    exact captures_behindEquals fun mem => free (List.mem_cons_of_mem _ mem)
  · rename_i other
    cases whole : Text.trimLeft t with
    | nil => rfl
    | cons c rest =>
      have differ : (c == '=') = false := by
        rw [beq_eq_false_iff_ne]
        rintro rfl
        exact other rest whole
      simp [captures, find, differ]

/-- All key characters are taken: neither a blank nor an equals sign is one. -/
theorem captures_key (t : Text) :
    (both (group 1 (run isKey)) behindKey).captures t =
      if t.takeWhile isKey = [] then none
      else (behindKey.captures (t.dropWhile isKey)).map ((1, t.takeWhile isKey) :: ·) := by
  cases t with
  | nil => rfl
  | cons c rest =>
    have step : (both (group 1 (run isKey)) behindKey).captures (c :: rest) =
        if isKey c then
          longest isKey rest fun taken rest => behindKey.find rest fun v =>
            (some v.groups).map ((1, c :: taken) :: ·)
        else none := rfl
    rw [step]
    split
    · rename_i hc
      rw [longest_eq_of_stops, find_map, List.takeWhile_cons_of_pos hc,
        List.dropWhile_cons_of_pos hc, if_neg (List.cons_ne_nil _ _)]
      · rfl
      · intro taken d rest hd
        have solid := not_blank_of_isKey hd
        have other : (d == '=') = false := by simpa using ne_of_isKey hd (d := '=') (by decide)
        simp [behindKey, sequence, blanks, find, longest, solid, other]
    · rename_i hc
      rw [List.takeWhile_cons_of_neg hc, if_pos rfl]

theorem captures_record (oneLine : '\n' ∉ t) :
    record.captures t = (Form.record? t).map fun r => [(1, r.1), r.2.group] := by
  have solid : (group 1 (run isKey)).Solid :=
    ((solid_one fun c hc => not_key_of_isBlank hc).both _).group 1
  have free : '\n' ∉ (Text.trimLeft t).dropWhile isKey := fun mem =>
    Text.not_mem_trimLeft oneLine ((List.dropWhile_sublist isKey).subset mem)
  refine (captures_blanks (solid.both behindKey) t).trans ?_
  rw [captures_key, captures_behindKey free, Form.record?]
  split
  · rename_i empty
    split <;> simp [empty]
  · rename_i key
    -- The pattern and the form ask for an equals sign at the same place.
    cases whole : Text.trimLeft ((Text.trimLeft t).dropWhile isKey) with
    | nil => rfl
    | cons c rest =>
      by_cases equals : c = '='
      · subst equals
        have behind : '\n' ∉ '=' :: rest := whole ▸ Text.not_mem_trimLeft free
        have line : '\n' ∉ Text.trim rest := Text.not_mem_trimRight
          (Text.not_mem_trimLeft fun mem => behind (List.mem_cons_of_mem _ mem))
        simp [key, line]
      · simp [equals]

/-- A quote that does not end the value is a character like others. -/
example : record.captures " k = 'a'b " = some [(1, ['k']), (4, ['\'', 'a', '\'', 'b'])] := by
  decide +kernel

end

end

end Pattern
end CommandScript
