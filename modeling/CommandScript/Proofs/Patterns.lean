import CommandScript.Proofs.Keywords

/-!
# Patterns and the search for a match

A pattern says how a text may go on from its front. The search tries the ways in which it may do so
in their order of preference, and takes the first one after which the rest of the search succeeds:
a repetition is tried with as many characters as there are and gives them back one by one, or with
none and takes them one by one; and of two alternatives the second is tried where the first fails.
-/

namespace CommandScript

/-- The numbered groups of a match with the characters taken by each, in the order in which they are
closed. A group that took no part in the match is not among them. -/
abbrev Groups := List (Nat × Text)

/-- One way in which a pattern takes the front of a text. -/
structure Way where
  taken : Text
  groups : Groups
  rest : Text
  deriving DecidableEq, Repr

/-- A pattern for the front of a text. -/
inductive Pattern where
  | nothing
  | one (fits : Char → Bool)
  /-- Any number of characters, as many as possible. -/
  | many (fits : Char → Bool)
  /-- Any number of characters, as few as possible. -/
  | few (fits : Char → Bool)
  /-- The end of the text, or a line feed that ends it. -/
  | finish
  | both (first second : Pattern)
  | either (first second : Pattern)
  | group (number : Nat) (inside : Pattern)

namespace Pattern

section

variable {α : Type}

/-- Tries the fronts of a text that hold fitting characters only, the longest one first. -/
def longest (fits : Char → Bool) : Text → (Text → Text → Option α) → Option α
  | [], k => k [] []
  | c :: rest, k =>
    if fits c then (longest fits rest fun taken => k (c :: taken)).or (k [] (c :: rest))
    else k [] (c :: rest)

/-- Tries the fronts of a text that hold fitting characters only, the shortest one first. -/
def shortest (fits : Char → Bool) : Text → (Text → Text → Option α) → Option α
  | [], k => k [] []
  | c :: rest, k =>
    (k [] (c :: rest)).or
      (if fits c then shortest fits rest fun taken => k (c :: taken) else none)

/-- The first answer of `k` to the ways in which a pattern takes the front of a text. -/
def find : Pattern → Text → (Way → Option α) → Option α
  | nothing, t, k => k ⟨[], [], t⟩
  | one _, [], _ => none
  | one fits, c :: rest, k => if fits c then k ⟨[c], [], rest⟩ else none
  | many fits, t, k => longest fits t fun taken rest => k ⟨taken, [], rest⟩
  | few fits, t, k => shortest fits t fun taken rest => k ⟨taken, [], rest⟩
  | finish, t, k => if t = [] ∨ t = ['\n'] then k ⟨[], [], t⟩ else none
  | both p q, t, k =>
    p.find t fun w => q.find w.rest fun v =>
      k ⟨w.taken ++ v.taken, w.groups ++ v.groups, v.rest⟩
  | either p q, t, k => (p.find t k).or (q.find t k)
  | group number p, t, k =>
    p.find t fun w => k { w with groups := w.groups ++ [(number, w.taken)] }

end

def captures (p : Pattern) (t : Text) : Option Groups := p.find t fun w => some w.groups

def sequence : List Pattern → Pattern
  | [] => nothing
  | p :: rest => both p (sequence rest)

def word (t : Text) : Pattern := sequence (t.map fun c => one (· == c))

def run (fits : Char → Bool) : Pattern := both (one fits) (many fits)

def blanks : Pattern := many isBlank

def within (c : Char) : Bool := c != '\n'

def groupless : Pattern → Bool
  | both p q => p.groupless && q.groupless
  | either p q => p.groupless && q.groupless
  | group _ _ => false
  | _ => true

/-- The groups of the first match that leaves nothing but blanks. -/
def capturesAll (p : Pattern) (t : Text) : Option Groups :=
  p.find t fun w => if Text.allBlank w.rest then some w.groups else none

/-- Nothing that begins with a blank matches the pattern. -/
def Solid (p : Pattern) : Prop :=
  ∀ c rest (k : Way → Option Groups), isBlank c = true → p.find (c :: rest) k = none

/-! ### Repetitions -/

section

variable {α : Type} {fits : Char → Bool} {t : Text} {k : Text → Text → Option α}

/-- Where the search goes on behind all fitting characters, it gives none of them back. -/
theorem longest_eq_of_eq_some {a : α}
    (first : k (t.takeWhile fits) (t.dropWhile fits) = some a) : longest fits t k = some a := by
  induction t generalizing k with
  | nil => exact first
  | cons c rest ih =>
    rw [longest]
    split
    · rename_i hc
      rw [List.takeWhile_cons_of_pos hc, List.dropWhile_cons_of_pos hc] at first
      rw [@ih (fun taken => k (c :: taken)) first, Option.some_or]
    · rename_i hc
      rwa [List.takeWhile_cons_of_neg hc, List.dropWhile_cons_of_neg hc] at first

/-- Where the search fails in front of each fitting character, all of them are taken. -/
theorem longest_eq_of_stops (stops : ∀ taken c rest, fits c = true → k taken (c :: rest) = none) :
    longest fits t k = k (t.takeWhile fits) (t.dropWhile fits) := by
  induction t generalizing k with
  | nil => rfl
  | cons c rest ih =>
    rw [longest]
    split
    · rename_i hc
      rw [ih fun taken => stops (c :: taken), stops [] c rest hc, Option.or_none,
        List.takeWhile_cons_of_pos hc, List.dropWhile_cons_of_pos hc]
    · rename_i hc
      rw [List.takeWhile_cons_of_neg hc, List.dropWhile_cons_of_neg hc]

theorem find_one (t : Text) (answer : Way → Option α) :
    (one fits).find t answer =
      t.head?.bind fun c => if fits c then answer ⟨[c], [], t.tail⟩ else none := by
  cases t <;> rfl

theorem longest_map {β : Type} (f : α → β) :
    longest fits t (fun taken rest => (k taken rest).map f) = (longest fits t k).map f := by
  induction t generalizing k with
  | nil => rfl
  | cons c rest ih =>
    simp only [longest, @ih (fun taken => k (c :: taken))]
    split
    · rw [Option.map_or]
    · rfl

theorem shortest_map {β : Type} (f : α → β) :
    shortest fits t (fun taken rest => (k taken rest).map f) = (shortest fits t k).map f := by
  induction t generalizing k with
  | nil => rfl
  | cons c rest ih =>
    simp only [shortest, @ih (fun taken => k (c :: taken))]
    split
    · rw [Option.map_or]
    · rw [Option.or_none, Option.or_none]

/-- What an answer is turned into does not change the search for it. -/
theorem find_map {β : Type} (p : Pattern) (t : Text) (answer : Way → Option α) (f : α → β) :
    p.find t (fun w => (answer w).map f) = (p.find t answer).map f := by
  induction p generalizing t answer with
  | nothing => rfl
  | one fits =>
    cases t with
    | nil => rfl
    | cons c rest =>
      rw [find, find]
      split <;> rfl
  | many fits => exact longest_map f
  | few fits => exact shortest_map f
  | finish =>
    rw [find, find]
    split <;> rfl
  | both p q ihp ihq =>
    simp only [find, ihq]
    exact ihp t _
  | either p q ihp ihq => rw [find, find, ihp, ihq, Option.map_or]
  | group number p ih => exact ih t _

/-- A pattern without groups has none in any of its matches. -/
theorem find_groupless {p : Pattern} (plain : p.groupless = true) (t : Text)
    (answer : Way → Option α) :
    p.find t answer = p.find t fun w => answer ⟨w.taken, [], w.rest⟩ := by
  induction p generalizing t answer with
  | nothing => rfl
  | one fits => rw [find_one, find_one]
  | many fits => rfl
  | few fits => rfl
  | finish => rfl
  | both p q ihp ihq =>
    obtain ⟨hp, hq⟩ := Bool.and_eq_true_iff.mp plain
    rw [find, find, ihp hp]
    refine congrArg (p.find t) (funext fun w => ?_)
    exact ihq hq w.rest _
  | either p q ihp ihq =>
    obtain ⟨hp, hq⟩ := Bool.and_eq_true_iff.mp plain
    rw [find, find, ← ihp hp, ← ihq hq]
  | group number p => cases plain

/-! ### The end of a line -/

/-- Blanks and the end may follow if nothing but blanks follows. -/
theorem longest_finish {answer : Option α} :
    longest isBlank t (fun _ rest => if rest = [] ∨ rest = ['\n'] then answer else none) =
      if Text.allBlank t then answer else none := by
  induction t with
  | nil => rfl
  | cons c rest ih =>
    rw [longest, ih, Text.allBlank_cons]
    cases hc : isBlank c with
    | false =>
      have other : c ≠ '\n' := by
        rintro rfl
        cases hc
      simp [other]
    | true =>
      cases blank : Text.allBlank rest with
      | false =>
        have more : rest ≠ [] := by
          rintro rfl
          cases blank
        simp [more]
      | true => cases answer <;> simp

/-- As many characters as possible are followed by blanks and the end if nothing but blanks follows
all of them. -/
theorem longest_allBlank {g : Text → α} :
    longest fits t (fun taken rest => if Text.allBlank rest then some (g taken) else none) =
      if Text.allBlank (t.dropWhile fits) then some (g (t.takeWhile fits)) else none := by
  induction t generalizing g with
  | nil => rfl
  | cons c rest ih =>
    rw [longest]
    split
    · rename_i hc
      rw [@ih fun taken => g (c :: taken), List.dropWhile_cons_of_pos hc,
        List.takeWhile_cons_of_pos hc]
      split
      · rfl
      · rename_i more
        have later : ¬ Text.allBlank (c :: rest) = true := by
          intro blank
          refine more (List.all_eq_true.mpr fun d hd => List.all_eq_true.mp blank d ?_)
          exact List.mem_cons_of_mem c ((List.dropWhile_sublist fits).subset hd)
        rw [if_neg later, Option.or_none]
    · rename_i hc
      rw [List.dropWhile_cons_of_neg hc, List.takeWhile_cons_of_neg hc]

/-- A search for as few characters as possible in front of blanks and the end leaves the blanks at
the end out. -/
theorem shortest_within {g : Text → α} (oneLine : '\n' ∉ t) :
    shortest within t (fun taken rest =>
        if Text.allBlank rest then some (g taken) else none) =
      some (g (Text.trimRight t)) := by
  induction t generalizing g with
  | nil => rfl
  | cons c rest ih =>
    rw [List.mem_cons, not_or] at oneLine
    have inside : within c = true := by simpa [within] using Ne.symm oneLine.1
    rw [shortest, if_pos inside, @ih (fun taken => g (c :: taken)) oneLine.2, Text.allBlank_cons,
      Text.trimRight_cons]
    split <;> rfl

/-- A search for as many characters as possible in front of one that is no blank, and blanks and the
end behind that, finds the last character that is no blank. -/
theorem longest_within {good : Char → Bool} (solid : ∀ c, good c = true → isBlank c = false)
    {g : Text → Char → α} (oneLine : '\n' ∉ t) :
    longest within t (fun taken rest => rest.head?.bind fun c =>
        if good c then (if Text.allBlank rest.tail then some (g taken c) else none) else none) =
      (Text.trimRight t).getLast?.bind fun c =>
        if good c then some (g (Text.trimRight t).dropLast c) else none := by
  induction t generalizing g with
  | nil => rfl
  | cons c rest ih =>
    rw [List.mem_cons, not_or] at oneLine
    have inside : within c = true := by simpa [within] using Ne.symm oneLine.1
    rw [longest, if_pos inside, @ih (fun taken => g (c :: taken)) oneLine.2, Text.trimRight_cons]
    cases blank : Text.allBlank rest with
    | true =>
      rw [Text.trimRight_eq_nil_iff.mpr blank]
      cases hc : isBlank c with
      | true =>
        have bad : good c = false := by
          rw [Bool.eq_false_iff]
          intro hgood
          rw [solid c hgood] at hc
          cases hc
        simp [bad]
      | false => simp [blank]
    | false =>
      obtain ⟨d, u, more⟩ : ∃ d u, Text.trimRight rest = d :: u :=
        List.exists_cons_of_ne_nil (mt Text.trimRight_eq_nil_iff.mp (by simp [blank]))
      simp [blank, more]

end

/-! ### Parts of a line -/

section

variable {p q : Pattern} {t : Text}

theorem solid_one {fits : Char → Bool} (h : ∀ c, isBlank c = true → fits c = false) :
    (one fits).Solid := by
  intro c rest k hc
  simp [find, h c hc]

theorem Solid.both (solid : p.Solid) (q : Pattern) : (both p q).Solid :=
  fun c rest _ hc => solid c rest _ hc

theorem Solid.either (hp : p.Solid) (hq : q.Solid) : (either p q).Solid := by
  intro c rest k hc
  rw [find, hp c rest k hc, hq c rest k hc, Option.or_none]

theorem Solid.group (solid : p.Solid) (number : Nat) : (group number p).Solid :=
  fun c rest _ hc => solid c rest _ hc

/-- At the end of a line a match leaves nothing but blanks. -/
theorem captures_end (p : Pattern) (t : Text) :
    (both p (sequence [blanks, finish])).captures t = p.capturesAll t := by
  have ending (w : Way) : (sequence [blanks, finish]).find w.rest
      (fun v => some (w.groups ++ v.groups)) =
        if Text.allBlank w.rest then some w.groups else none := by
    simp only [sequence, blanks, find, List.append_nil]
    exact longest_finish
  exact congrArg (p.find t) (funext ending)

/-- In front of something that begins with no blank, all blanks are taken. -/
theorem captures_blanks (solid : q.Solid) (t : Text) :
    (both blanks q).captures t = q.captures (Text.trimLeft t) :=
  longest_eq_of_stops fun _ c rest hc => solid c rest _ hc

theorem find_word {α : Type} (w t : Text) (k : Way → Option α) :
    (word w).find t k = (Text.after? w t).bind fun rest => k ⟨w, [], rest⟩ := by
  induction w generalizing t k with
  | nil => simp [word, sequence, find]
  | cons c w ih =>
    cases t with
    | nil => rfl
    | cons d t =>
      have step : (word (c :: w)).find (d :: t) k =
          if d == c then (word w).find t fun v => k ⟨d :: v.taken, v.groups, v.rest⟩ else none :=
        rfl
      rw [step, ih, Text.after?]
      by_cases same : c = d
      · subst same
        simp
      · simp [same, Ne.symm same]

theorem captures_word (w : Text) (q : Pattern) (t : Text) :
    (both (word w) q).captures t = (Text.after? w t).bind q.captures :=
  find_word w t _

theorem captures_gap (solid : q.Solid) (t : Text) :
    (both (run isBlank) q).captures t =
      match t with
      | [] => none
      | c :: rest => if isBlank c then q.captures (Text.trimLeft rest) else none := by
  cases t with
  | nil => rfl
  | cons c rest =>
    have step : (both (run isBlank) q).captures (c :: rest) =
        if isBlank c then (both blanks q).captures rest else none := rfl
    rw [step, captures_blanks solid]

/-- A word begins with no blank. -/
theorem solid_word {keyword : Text} (isWord : Form.IsWord keyword) (q : Pattern) :
    (both (word keyword) q).Solid := by
  intro c rest k hc
  obtain ⟨d, w, rfl⟩ := List.exists_cons_of_ne_nil isWord.nonempty
  have other : d ≠ c := (ne_of_blank hc (isWord.solid d List.mem_cons_self)).symm
  rw [find, find_word, Text.after?, if_neg other, Option.bind_none]

/-- Behind its keyword a statement is searched for the rest. -/
theorem captures_keyword {keyword : Text} (isWord : Form.IsWord keyword) (solid : q.Solid)
    (t : Text) :
    (both blanks (both (word keyword) (both (run isBlank) q))).captures t =
      (Form.afterKeyword? keyword t).bind q.captures := by
  rw [captures_blanks (solid_word isWord _), captures_word, Form.afterKeyword?]
  cases Text.after? keyword (Text.trimLeft t) with
  | none => rfl
  | some rest =>
    rw [Option.bind_some, captures_gap solid]
    cases rest with
    | nil => rfl
    | cons c rest => cases hc : isBlank c <;> simp [hc]

end

end Pattern
end CommandScript
