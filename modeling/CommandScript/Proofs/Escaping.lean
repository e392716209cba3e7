import Mathlib.Data.List.TakeWhile
import CommandScript.Proofs.Blanks
import CommandScript.Screen.Markup

/-!
# Escaped texts

An escaped text has no tags: its pieces are those of the text itself, each tag with an odd number
of backslashes in front. So showing it never fails, and it shows what the text says, whatever
markup stands around it.
-/

namespace CommandScript.Screen

open MarkupPiece (ofTextFrom ofText escaped)

/-! ### Tags -/

def firstBracket? (t : Text) : Option Char := (t.dropWhile fun c => c != '[' && c != ']').head?

theorem firstBracket?_cons {c : Char} (opening : c ≠ '[') (closing : c ≠ ']') (t : Text) :
    firstBracket? (c :: t) = firstBracket? t := by
  simp [firstBracket?, opening, closing]

def IsTag (inside : Text) : Prop :=
  ∃ c body, inside = c :: body ∧ startsTag c = true ∧ ∀ d ∈ body, d ≠ '[' ∧ d ≠ ']'

theorem startsTag_ne {c : Char} (h : startsTag c = true) : c ≠ '[' ∧ c ≠ ']' := by
  constructor <;> (rintro rfl; revert h; decide)

/-- A text starts with a tag if its first bracket behind the opening one closes it. -/
theorem leadingTag?_eq_none_iff {c : Char} {t : Text} :
    leadingTag? ('[' :: c :: t) = none ↔ (startsTag c = true → firstBracket? t ≠ some ']') := by
  simp only [leadingTag?, firstBracket?]
  split <;> simp_all

theorem leadingTag?_of_head? {t : Text} (h : t.head? ≠ some '[') : leadingTag? t = none := by
  unfold leadingTag?
  split
  · exact absurd rfl h
  · rfl

theorem leadingTag?_append {inside : Text} (h : IsTag inside) (rest : Text) :
    leadingTag? ('[' :: inside ++ ']' :: rest) = some inside := by
  obtain ⟨c, body, rfl, starts, plain⟩ := h
  have inner : ∀ d ∈ body, (d != '[' && d != ']') = true := by
    intro d hd
    simp [plain d hd]
  have stop : (']' :: rest).head?.any (fun c => c != '[' && c != ']') = false := rfl
  obtain ⟨front, back⟩ := Text.takeWhile_append_stop inner stop
  simp [leadingTag?, starts, front, back]

theorem isTag_of_leadingTag? {t inside : Text} (h : leadingTag? t = some inside) :
    IsTag inside ∧ ∃ rest, t = '[' :: inside ++ ']' :: rest := by
  unfold leadingTag? at h
  split at h
  · rename_i c t
    simp only [Bool.and_eq_true, decide_eq_true_eq] at h
    split at h
    · rename_i closes
      obtain rfl := Option.some.inj h
      obtain ⟨starts, closing⟩ := closes
      obtain ⟨rest, hrest⟩ := List.head?_eq_some_iff.mp closing
      refine ⟨⟨c, _, rfl, starts, fun d hd => by simpa using List.mem_takeWhile_imp hd⟩, rest, ?_⟩
      have whole := List.takeWhile_append_dropWhile (p := fun c => c != '[' && c != ']') (l := t)
      rw [hrest] at whole
      simp only [List.cons_append, whole]
    · cases h
  · cases h

/-! ### Pieces -/

/-- No tag stands at the front of a text, or behind the backslashes at its front. -/
def Untagged (t : Text) : Prop := leadingTag? (t.dropWhile (· = '\\')) = none

theorem untagged_of_ne {c : Char} (bracket : c ≠ '[') (slash : c ≠ '\\') (t : Text) :
    Untagged (c :: t) := by
  rw [Untagged, List.dropWhile_cons_of_neg (by simpa using slash)]
  exact leadingTag?_of_head? (by simpa using bracket)

theorem drop_slashes (t : Text) :
    t.drop (t.takeWhile (· = '\\')).length = t.dropWhile (· = '\\') := by
  induction t with
  | nil => rfl
  | cons c t ih =>
    by_cases slash : c = '\\'
    · simpa [slash] using ih
    · simp [slash]

theorem slashes_append {c : Char} (slash : c ≠ '\\') (slashes : Nat) (t : Text) :
    (List.replicate slashes '\\' ++ c :: t).takeWhile (· = '\\') = List.replicate slashes '\\' ∧
      (List.replicate slashes '\\' ++ c :: t).dropWhile (· = '\\') = c :: t := by
  have all : ∀ d ∈ List.replicate slashes '\\', decide (d = '\\') = true := by
    intro d hd
    simpa using List.eq_of_mem_replicate hd
  exact Text.takeWhile_append_stop all (by simpa using slash)

def tagged (slashes : Nat) (inside rest : Text) : Text :=
  List.replicate slashes '\\' ++ ('[' :: inside ++ ']' :: rest)

theorem tagged_append (slashes : Nat) (inside rest back : Text) :
    tagged slashes inside rest ++ back = tagged slashes inside (rest ++ back) := by
  simp [tagged]

theorem not_untagged_tagged {inside : Text} (h : IsTag inside) (slashes : Nat) (rest : Text) :
    ¬ Untagged (tagged slashes inside rest) := by
  rw [Untagged, tagged, List.cons_append, (slashes_append (by decide) slashes _).2,
    ← List.cons_append, leadingTag?_append h]
  simp

theorem markup_cases (t : Text) :
    t = [] ∨ (∃ slashes inside rest, IsTag inside ∧ t = tagged slashes inside rest) ∨
      ∃ c rest, t = c :: rest ∧ Untagged t := by
  cases htag : leadingTag? (t.dropWhile (· = '\\')) with
  | none =>
    cases t with
    | nil => exact .inl rfl
    | cons c rest => exact .inr (.inr ⟨c, rest, rfl, htag⟩)
  | some inside =>
    obtain ⟨tag, rest, hrest⟩ := isTag_of_leadingTag? htag
    refine .inr (.inl ⟨(t.takeWhile (· = '\\')).length, inside, rest, tag, ?_⟩)
    have slashes : t.takeWhile (· = '\\') =
        List.replicate (t.takeWhile (· = '\\')).length '\\' :=
      List.eq_replicate_of_mem fun c hc => by simpa using List.mem_takeWhile_imp hc
    rw [tagged, ← slashes, ← hrest, List.takeWhile_append_dropWhile]

/-- Texts are made of tags with backslashes in front, and of other characters. -/
theorem markup_induction {motive : Text → Prop} (nil : motive [])
    (tag : ∀ slashes inside rest, IsTag inside → motive rest → motive (tagged slashes inside rest))
    (char : ∀ c rest, Untagged (c :: rest) → motive rest → motive (c :: rest)) (t : Text) :
    motive t := by
  induction hn : t.length using Nat.strongRecOn generalizing t with
  | ind n ih =>
    rcases markup_cases t with rfl | ⟨slashes, inside, rest, htag, rfl⟩ | ⟨c, rest, rfl, plain⟩
    · exact nil
    · refine tag slashes inside rest htag (ih rest.length ?_ rest rfl)
      rw [← hn]
      simp [tagged]
      omega
    · refine char c rest plain (ih rest.length ?_ rest rfl)
      rw [← hn]
      exact Nat.lt_succ_self _

theorem ofTextFrom_skip (skipped rest : Text) (position : Nat) :
    ofTextFrom skipped.length position (skipped ++ rest) =
      ofTextFrom 0 (position + skipped.length) rest := by
  induction skipped generalizing position with
  | nil => rfl
  | cons c skipped ih =>
    rw [List.length_cons, List.cons_append, ofTextFrom, ih]
    congr 1
    omega

theorem ofTextFrom_tag {inside : Text} (h : IsTag inside) (slashes position : Nat) (rest : Text) :
    ofTextFrom 0 position (tagged slashes inside rest) =
      .tag position slashes inside ::
        ofTextFrom 0 (position + slashes + inside.length + 2) rest := by
  have whole : tagged slashes inside rest =
      (List.replicate slashes '\\' ++ '[' :: inside ++ [']']) ++ rest := by
    simp [tagged]
  obtain ⟨c, skipped, front⟩ : ∃ c skipped,
      List.replicate slashes '\\' ++ '[' :: inside ++ [']'] = c :: skipped :=
    List.exists_cons_of_ne_nil (by simp)
  have length := congrArg List.length front
  have bare : c :: (skipped ++ rest) = List.replicate slashes '\\' ++ '[' :: (inside ++ ']' :: rest) := by
    rw [← List.cons_append, ← front, ← whole]
    rfl
  rw [whole, front, List.cons_append, ofTextFrom]
  simp only [bare, slashes_append (show '[' ≠ '\\' by decide), List.length_replicate]
  have dropped : (List.replicate slashes '\\' ++ '[' :: (inside ++ ']' :: rest)).drop slashes =
      '[' :: inside ++ ']' :: rest := by
    rw [List.drop_append_of_le_length (by simp)]
    simp
  rw [dropped, leadingTag?_append h]
  simp only [List.length_append, List.length_replicate, List.length_cons, List.length_nil] at length
  have skip : slashes + inside.length + 1 = skipped.length := by omega
  simp only [skip, ofTextFrom_skip]
  congr 2
  omega

theorem ofTextFrom_char {c : Char} {t : Text} (h : Untagged (c :: t)) (position : Nat) :
    ofTextFrom 0 position (c :: t) = .char c :: ofTextFrom 0 (position + 1) t := by
  rw [ofTextFrom]
  simp only [drop_slashes]
  rw [Untagged] at h
  rw [h]

/-! ### Escaped pieces -/

def written (position : Nat) (t : Text) : Text := (ofTextFrom 0 position t).flatMap escaped

theorem written_tag {inside : Text} (h : IsTag inside) (slashes position : Nat) (rest : Text) :
    written position (tagged slashes inside rest) =
      tagged (2 * slashes + 1) inside
        (written (position + slashes + inside.length + 2) rest) := by
  rw [written, ofTextFrom_tag h, List.flatMap_cons]
  simp [written, escaped, tagged]

theorem written_char {c : Char} {t : Text} (h : Untagged (c :: t)) (position : Nat) :
    written position (c :: t) = c :: written (position + 1) t := by
  simp [written, ofTextFrom_char h, escaped]

/-- A text behind an escaped one that makes no tag with the end of it. -/
structure Harmless (back : Text) : Prop where
  bracket : firstBracket? back ≠ some ']'
  slashes : (back.dropWhile (· = '\\')).head? ≠ some '['

variable {back : Text}

theorem firstBracket?_tagged (slashes : Nat) (inside rest : Text) :
    firstBracket? (tagged slashes inside rest) = some '[' := by
  have all : ∀ d ∈ List.replicate slashes '\\', (d != '[' && d != ']') = true := by
    intro d hd
    rw [List.eq_of_mem_replicate hd]
    rfl
  rw [firstBracket?, tagged, List.dropWhile_append_of_pos all]
  rfl

/-- Escaping brings no closing bracket in front of an opening one. -/
theorem firstBracket?_written (h : Harmless back) {t : Text} (closing : firstBracket? t ≠ some ']')
    (position : Nat) : firstBracket? (written position t ++ back) ≠ some ']' := by
  induction t using markup_induction generalizing position with
  | nil => exact h.bracket
  | tag slashes inside rest tag ih =>
    rw [written_tag tag, tagged_append, firstBracket?_tagged]
    decide
  | char c rest plain ih =>
    rw [written_char plain, List.cons_append]
    by_cases opens : c = '['
    · subst c
      simp [firstBracket?]
    · by_cases closes : c = ']'
      · subst c
        exact absurd rfl closing
      · rw [firstBracket?_cons opens closes] at closing ⊢
        exact ih closing _

/-- A bracket that starts no tag starts none when the rest is escaped. -/
theorem leadingTag?_written (h : Harmless back) {t : Text} (untagged : leadingTag? ('[' :: t) = none)
    (position : Nat) : leadingTag? ('[' :: (written position t ++ back)) = none := by
  rcases markup_cases t with rfl | ⟨slashes, inside, rest, tag, rfl⟩ | ⟨c, rest, rfl, plain⟩
  · have empty : written position [] = [] := rfl
    rw [empty, List.nil_append]
    cases back with
    | nil => rfl
    | cons c back =>
      rw [leadingTag?_eq_none_iff]
      intro starts
      obtain ⟨opens, closes⟩ := startsTag_ne starts
      rw [← firstBracket?_cons opens closes]
      exact h.bracket
  · rw [written_tag tag, tagged_append, tagged, List.replicate_succ, List.cons_append,
      leadingTag?_eq_none_iff]
    rintro ⟨⟩
  · rw [leadingTag?_eq_none_iff] at untagged
    rw [written_char plain, List.cons_append, leadingTag?_eq_none_iff]
    intro starts
    exact firstBracket?_written h (untagged starts) _

theorem untagged_written (h : Harmless back) {t : Text} (plain : Untagged t) (position : Nat) :
    Untagged (written position t ++ back) := by
  induction t using markup_induction generalizing position with
  | nil => exact leadingTag?_of_head? h.slashes
  | tag slashes inside rest tag ih => exact absurd plain (not_untagged_tagged tag slashes rest)
  | char c rest here ih =>
    rw [written_char here, List.cons_append]
    by_cases slash : c = '\\'
    · subst c
      exact ih plain _
    · by_cases bracket : c = '['
      · subst c
        exact leadingTag?_written h plain _
      · exact untagged_of_ne bracket slash _

/-! ### What an escaped text shows -/

/-- Pieces as they are shown when no tag has a meaning, behind a reversed stretch of text. -/
def literalFrom (stretch : Text) : List MarkupPiece → Text
  | [] => shownStretch stretch.reverse
  | .char c :: rest => literalFrom (c :: stretch) rest
  | .tag _ slashes inside :: rest =>
    shownStretch stretch.reverse ++ List.replicate slashes '\\' ++
      shownStretch ('[' :: inside ++ [']']) ++ literalFrom [] rest

/-- Behind a reversed stretch of text, and with styles that are open, a text is shown so. -/
def Shows (stretch : Text) (opened : List Text) (t visible : Text) : Prop :=
  ∀ position, showPieces stretch opened (ofTextFrom 0 position t) = .ok visible

/-- A text behind an escaped one, with styles that are open there. -/
structure Ends (opened : List Text) (back visible : Text) : Prop extends Harmless back where
  shows : ∀ stretch, Shows stretch opened back (shownStretch stretch.reverse ++ visible)

theorem shows_written {opened : List Text} {visible : Text} (h : Ends opened back visible)
    (t stretch : Text) (position : Nat) :
    Shows stretch opened (written position t ++ back)
      (literalFrom stretch (ofTextFrom 0 position t) ++ visible) := by
  induction t using markup_induction generalizing stretch position with
  | nil => exact h.shows stretch
  | tag slashes inside rest tag ih =>
    intro position'
    have odd : (2 * slashes + 1) % 2 = 1 := by omega
    have half : (2 * slashes + 1) / 2 = slashes := by omega
    rw [written_tag tag, tagged_append, ofTextFrom_tag tag, ofTextFrom_tag tag, showPieces, ih]
    simp [odd, half, literalFrom, Except.map]
  | char c rest plain ih =>
    intro position'
    have untagged : Untagged (c :: (written (position + 1) rest ++ back)) := by
      rw [← List.cons_append, ← written_char plain]
      exact untagged_written h.toHarmless plain position
    rw [written_char plain, List.cons_append, ofTextFrom_char untagged, ofTextFrom_char plain,
      showPieces, ih, literalFrom]

/-! ### Stretches of text -/

theorem bareBrackets_cons {c : Char} (slash : c ≠ '\\') (t : Text) :
    bareBrackets (c :: t) = c :: bareBrackets t := by
  rw [bareBrackets]
  rintro rest ⟨rfl⟩
  exact absurd rfl slash

theorem bareBrackets_front {front : Text} (slash : '\\' ∉ front) (t : Text) :
    bareBrackets (front ++ t) = front ++ bareBrackets t := by
  induction front with
  | nil => rfl
  | cons c front ih =>
    rw [List.mem_cons, not_or] at slash
    rw [List.cons_append, bareBrackets_cons (Ne.symm slash.1), ih slash.2, List.cons_append]

theorem bareBrackets_back {back : Text} (bracket : '[' ∉ back) (t : Text) :
    bareBrackets (t ++ back) = bareBrackets t ++ back := by
  fun_induction bareBrackets t with
  | case1 rest ih => simp only [List.cons_append, bareBrackets, ih]
  | case2 c rest other ih =>
    rw [List.cons_append, bareBrackets, ih, List.cons_append]
    intro more slash joined
    cases rest with
    | nil =>
      rw [List.nil_append] at joined
      exact bracket (joined ▸ List.mem_cons_self)
    | cons d rest =>
      obtain ⟨rfl, -⟩ := List.cons.inj joined
      exact other rest slash rfl
  | case3 =>
    induction back with
    | nil => rfl
    | cons c back ih =>
      rw [List.mem_cons, not_or] at bracket
      have rest := ih bracket.2
      simp only [List.nil_append] at rest ⊢
      rw [bareBrackets, rest]
      rintro more - rfl
      exact bracket.2 List.mem_cons_self

theorem leadingName?_of_ne {c : Char} (colon : c ≠ ':') (t : Text) :
    leadingName? (c :: t) = none := by
  unfold leadingName?
  split
  · rename_i h
    cases h
    exact absurd rfl colon
  · rfl

theorem withEmoji_front {front : Text} (colon : ':' ∉ front) (t : Text) :
    withEmoji (front ++ t) = front ++ withEmoji t := by
  induction front with
  | nil => rfl
  | cons c front ih =>
    rw [List.mem_cons, not_or] at colon
    rw [withEmoji, List.cons_append, emojiFrom, leadingName?_of_ne (Ne.symm colon.1)]
    exact congrArg (c :: ·) (ih colon.2)

theorem stops_append {p : Char → Bool} {t : Text} (stops : t.dropWhile p ≠ []) (back : Text) :
    (t ++ back).takeWhile p = t.takeWhile p ∧ (t ++ back).dropWhile p = t.dropWhile p ++ back := by
  induction t with
  | nil => exact absurd rfl stops
  | cons c t ih =>
    by_cases h : p c = true
    · rw [List.dropWhile_cons_of_pos h] at stops
      simp [h, ih stops]
    · simp [h]

theorem leadingName?_of_not_mem {t : Text} (colon : ':' ∉ t) : leadingName? t = none := by
  cases t with
  | nil => rfl
  | cons c t =>
    refine leadingName?_of_ne ?_ t
    rintro rfl
    exact colon List.mem_cons_self

/-- A text without a colon ends no name. -/
theorem leadingName?_back {back : Text} (colon : ':' ∉ back) (t : Text) :
    leadingName? (t ++ back) = leadingName? t := by
  cases t with
  | nil => exact leadingName?_of_not_mem colon
  | cons c t =>
    by_cases first : c = ':'
    · subst c
      simp only [leadingName?, List.cons_append]
      by_cases stops : t.dropWhile (fun c => c != ':' && !isBlank c) = []
      · rw [List.dropWhile_append_of_pos (List.dropWhile_eq_nil_iff.mp stops), stops]
        have later : ':' ∉ back.dropWhile fun c => c != ':' && !isBlank c :=
          fun mem => colon ((List.dropWhile_sublist _).subset mem)
        split
        · rename_i rest found
          rw [found] at later
          exact absurd List.mem_cons_self later
        · rfl
      · obtain ⟨front, rest⟩ := stops_append stops back
        rw [front, rest]
        obtain ⟨d, more, hd⟩ := List.exists_cons_of_ne_nil stops
        rw [hd, List.cons_append]
        split <;> split <;> simp_all
    · rw [List.cons_append, leadingName?_of_ne first, leadingName?_of_ne first]

theorem length_of_leadingName? {c : Char} {t name : Text} (h : leadingName? (c :: t) = some name) :
    name.length + 1 ≤ t.length := by
  unfold leadingName? at h
  split at h
  · rename_i t' same
    cases same
    split at h
    · rename_i rest found
      obtain rfl := Option.some.inj h
      have whole := congrArg List.length
        (List.takeWhile_append_dropWhile (p := fun c => c != ':' && !isBlank c) (l := t))
      rw [found, List.length_append, List.length_cons] at whole
      omega
    · cases h
  · cases h

theorem withEmoji_back {back : Text} (colon : ':' ∉ back) (t : Text) :
    withEmoji (t ++ back) = withEmoji t ++ back := by
  have plain : withEmoji back = back := by
    have front := withEmoji_front colon []
    simpa [withEmoji, emojiFrom] using front
  have skipping (skip : Nat) (inside : skip ≤ t.length) :
      emojiFrom skip (t ++ back) = emojiFrom skip t ++ back := by
    induction t generalizing skip with
    | nil =>
      obtain rfl := Nat.le_zero.mp inside
      exact plain
    | cons c t ih =>
      cases skip with
      | succ skip => exact ih skip (Nat.le_of_succ_le_succ inside)
      | zero =>
        have same := leadingName?_back colon (c :: t)
        rw [List.cons_append] at same ⊢
        rw [emojiFrom, emojiFrom, same]
        cases name : leadingName? (c :: t) with
        | none => simp only [ih 0 (Nat.zero_le _), List.cons_append]
        | some name =>
          simp only [ih _ (length_of_leadingName? ‹_›), List.append_assoc]
  exact skipping 0 (Nat.zero_le _)

/-- What stands around a stretch, without colons, backslashes and brackets, is shown as it is. -/
theorem shownStretch_around {front back : Text} (colon : ':' ∉ front ++ back)
    (slash : '\\' ∉ front) (bracket : '[' ∉ back) (t : Text) :
    shownStretch (front ++ t ++ back) = front ++ shownStretch t ++ back := by
  rw [List.mem_append, not_or] at colon
  rw [shownStretch, List.append_assoc, bareBrackets_front slash, bareBrackets_back bracket,
    withEmoji_front colon.1, withEmoji_back colon.2, ← List.append_assoc]
  rfl

/-! ### What an escaped text shows -/

theorem literalFrom_front {front : Text} (colon : ':' ∉ front) (slash : '\\' ∉ front)
    (stretch : Text) (pieces : List MarkupPiece) :
    literalFrom (stretch ++ front.reverse) pieces = front ++ literalFrom stretch pieces := by
  have around (t : Text) : shownStretch (front ++ t) = front ++ shownStretch t := by
    have shown := @shownStretch_around front [] (by simpa using colon) slash (by simp) t
    simpa using shown
  induction pieces generalizing stretch with
  | nil => simp [literalFrom, around]
  | cons piece pieces ih =>
    cases piece with
    | char c => exact ih (c :: stretch)
    | tag position slashes inside => simp [literalFrom, around]

/-- The backslash that escaping a text puts behind it, if it ends in a single one. -/
def doubled (t : Text) : Text :=
  if Text.endsWith (written 0 t) "\\" && !Text.endsWith (written 0 t) "\\\\" then ['\\'] else []

theorem escape_eq (t : Text) : escape t = written 0 t ++ doubled t := by
  have merged (single : Bool) (front : Text) :
      (if single then front ++ ['\\'] else front) = front ++ if single then ['\\'] else [] := by
    cases single <;> simp
  exact merged _ _

/-- What an escaped text shows: tags and all, names of emoji replaced, a backslash in front of any
other bracket taken off, and a single backslash at the end doubled. -/
def literal (t : Text) : Text := literalFrom [] (ofText t) ++ doubled t

theorem Ends.nil (opened : List Text) : Ends opened [] [] := by
  refine ⟨⟨by decide, by decide⟩, fun stretch position => ?_⟩
  rw [List.append_nil]
  rfl

theorem Ends.slash {opened : List Text} {visible : Text} (h : Ends opened back visible) :
    Ends opened ('\\' :: back) ('\\' :: visible) := by
  refine ⟨⟨?_, h.slashes⟩, fun stretch position => ?_⟩
  · rw [firstBracket?_cons (by decide) (by decide)]
    exact h.bracket
  · have untagged : Untagged ('\\' :: back) := leadingTag?_of_head? h.slashes
    have shown := @shownStretch_around [] ['\\'] (by decide) (by decide) (by decide) stretch.reverse
    rw [ofTextFrom_char untagged, showPieces, h.shows, List.reverse_cons, ← List.nil_append
      stretch.reverse, shown]
    simp

theorem Ends.doubled {opened : List Text} {visible : Text} (h : Ends opened back visible)
    (t : Text) : Ends opened (doubled t ++ back) (doubled t ++ visible) := by
  rw [Screen.doubled]
  split
  · exact h.slash
  · exact h

namespace Shows

variable {stretch : Text} {opened : List Text} {rest visible : Text}

/-- **An escaped text is shown literally**, behind text without markup and in front of text that
makes no markup with it. -/
theorem escape {front : Text} (h : Ends opened back visible) (colon : ':' ∉ front)
    (slash : '\\' ∉ front) (t : Text) :
    Shows front.reverse opened (escape t ++ back) (front ++ literal t ++ visible) := by
  have shows := shows_written (h.doubled t) t front.reverse 0
  rw [← List.nil_append front.reverse, literalFrom_front colon slash] at shows
  rw [escape_eq, List.append_assoc, literal]
  simpa [ofText] using shows

theorem plain {front : Text} (bracket : '[' ∉ front) (slash : '\\' ∉ front)
    (h : Shows (front.reverse ++ stretch) opened rest visible) :
    Shows stretch opened (front ++ rest) visible := by
  induction front generalizing stretch with
  | nil => exact h
  | cons c front ih =>
    intro position
    rw [List.mem_cons, not_or] at bracket slash
    rw [List.reverse_cons, List.append_assoc] at h
    rw [List.cons_append, ofTextFrom_char (untagged_of_ne (Ne.symm bracket.1) (Ne.symm slash.1) _)]
    exact ih bracket.2 slash.2 h _

theorem nil (stretch : Text) (opened : List Text) :
    Shows stretch opened [] (shownStretch stretch.reverse) := fun _ => rfl

theorem tag {inside : Text} {opened' : List Text} (tag : IsTag inside)
    (applies : ∀ position, applyTag position inside opened = .ok opened')
    (h : Shows [] opened' rest visible) :
    Shows stretch opened ('[' :: inside ++ ']' :: rest)
      (shownStretch stretch.reverse ++ visible) := by
  intro position
  have pieces := ofTextFrom_tag tag 0 position rest
  rw [tagged, List.replicate_zero, List.nil_append] at pieces
  rw [pieces, showPieces]
  simp [applies, h _, Except.map]

end Shows

/-! ### Styles -/

/-- A name that opens a style, which the name behind a slash closes. -/
structure IsStyle (name : Text) : Prop where
  opens : IsTag name
  closes : IsTag ('/' :: name)
  slash : name.head? ≠ some '/'
  equals : '=' ∉ name
  named : Text.trim name ≠ []

namespace IsStyle

variable {name : Text}

theorem takeWhile (h : IsStyle name) : name.takeWhile (· != '=') = name := by
  refine List.takeWhile_eq_self_iff.mpr fun c hc => ?_
  simpa using ne_of_mem_of_not_mem hc h.equals

theorem applyTag_open (h : IsStyle name) (opened : List Text) (position : Nat) :
    applyTag position name opened = .ok (styleName name :: opened) := by
  simp only [applyTag, h.takeWhile]
  split
  · exact absurd rfl h.slash
  · rfl

theorem applyTag_close (h : IsStyle name) (opened : List Text) (position : Nat) :
    applyTag position ('/' :: name) (styleName name :: opened) = .ok opened := by
  have front : ('/' :: name).takeWhile (· != '=') = '/' :: name := by
    rw [List.takeWhile_cons_of_pos (by decide), h.takeWhile]
  simp [applyTag, front, h.named]

end IsStyle

def visible (t : Text) : Text := t.filter (!isUnshown ·)

/-- A text without a bracket is one stretch. -/
theorem shows_stretch {t : Text} (bracket : '[' ∉ t) (stretch : Text) (opened : List Text) :
    Shows stretch opened t (shownStretch (stretch.reverse ++ t)) := by
  induction t generalizing stretch with
  | nil =>
    rw [List.append_nil]
    exact .nil stretch opened
  | cons c t ih =>
    intro position
    rw [List.mem_cons, not_or] at bracket
    have untagged : Untagged (c :: t) := by
      refine leadingTag?_of_head? fun opens => ?_
      have mem := (List.dropWhile_sublist _).subset (List.mem_of_mem_head? opens)
      rcases List.mem_cons.mp mem with rfl | mem
      · exact bracket.1 rfl
      · exact bracket.2 mem
    rw [ofTextFrom_char untagged, showPieces, ih bracket.2]
    simp

theorem shown_eq (t : Text) : shown t = (showPieces [] [] (ofText t)).map visible := by
  rw [shown]
  split
  · rfl
  · rename_i absent
    have bracket : '[' ∉ t := by simpa using absent
    have bare := bareBrackets_back bracket []
    have stretch : shownStretch t = withEmoji t := congrArg withEmoji bare
    rw [ofText, shows_stretch bracket [] [] 0, List.reverse_nil, List.nil_append, stretch]
    rfl

theorem Shows.shown {t r : Text} (h : Shows [] [] t r) : shown t = .ok (visible r) := by
  rw [shown_eq, ofText, h 0]
  rfl

/-! ### Plain texts -/

theorem getLast?_written (t : Text) (position : Nat) :
    (written position t).getLast? = t.getLast? := by
  induction t using markup_induction generalizing position with
  | nil => rfl
  | tag slashes inside rest tag ih =>
    have last (slashes : Nat) (rest : Text) :
        (tagged slashes inside rest).getLast? = rest.getLast?.or (some ']') := by
      have whole : tagged slashes inside rest =
          (List.replicate slashes '\\' ++ '[' :: inside ++ [']']) ++ rest := by
        simp [tagged]
      rw [whole, List.getLast?_append, List.getLast?_concat]
    rw [written_tag tag, last, last, ih]
  | char c rest plain ih => rw [written_char plain, List.getLast?_cons, List.getLast?_cons, ih]

theorem shownStretch_plain {t : Text} (colon : ':' ∉ t) (slash : '\\' ∉ t) :
    shownStretch t = t := by
  have around := @shownStretch_around t [] (by simpa using colon) slash (by simp) []
  rw [List.append_nil, List.append_nil, List.append_nil] at around
  rw [around]
  exact List.append_nil t

theorem literalFrom_plain {t stretch : Text} (colon : ':' ∉ stretch ++ t)
    (slash : '\\' ∉ stretch ++ t) (position : Nat) :
    literalFrom stretch (ofTextFrom 0 position t) = stretch.reverse ++ t := by
  induction t using markup_induction generalizing stretch position with
  | nil =>
    rw [List.append_nil] at colon slash
    have shown := @shownStretch_plain stretch.reverse (by simpa using colon) (by simpa using slash)
    rw [List.append_nil]
    exact shown
  | tag slashes inside rest tag ih =>
    have unslashed : slashes = 0 := by
      by_contra some
      exact slash (by simp [tagged, some])
    subst unslashed
    have whole : tagged 0 inside rest = '[' :: inside ++ [']'] ++ rest := by simp [tagged]
    rw [whole, List.mem_append, List.mem_append, not_or, not_or] at colon slash
    obtain ⟨colon, inner, later⟩ := colon
    obtain ⟨slash, inner', later'⟩ := slash
    have before := @shownStretch_plain stretch.reverse (by simpa using colon) (by simpa using slash)
    have bracketed := shownStretch_plain inner inner'
    rw [ofTextFrom_tag tag, literalFrom, ih later later', before, bracketed]
    simp [tagged]
  | char c rest plain ih =>
    simp only [List.mem_append, List.mem_cons, not_or] at colon slash
    rw [ofTextFrom_char plain, literalFrom, ih]
    · simp
    · simp [colon]
    · simp [slash]

/-- A text without colons and backslashes is shown as it is, tags and all. -/
theorem literal_eq_self {t : Text} (colon : ':' ∉ t) (slash : '\\' ∉ t) : literal t = t := by
  have single : doubled t = [] := by
    have ends : Text.endsWith (written 0 t) "\\" = false := by
      by_contra ends
      obtain ⟨rest, hrest⟩ := Option.isSome_iff_exists.mp (Bool.of_not_eq_false ends)
      have last : (written 0 t).getLast? = some '\\' := by
        rw [← List.head?_reverse, (Text.after?_eq_some_iff ..).mp hrest]
        rfl
      rw [getLast?_written] at last
      exact slash (List.mem_of_getLast? last)
    rw [doubled, ends]
    rfl
  rw [literal, single, ofText, literalFrom_plain colon slash]
  simp

end CommandScript.Screen
