import Mathlib.Data.Nat.Find
import CommandScript.Proofs.Comments

/-!
# Closed quotes

A comment marker counts where it is neither escaped nor inside a closed pair of quotes. Pairs are
read from left to right: an unescaped quote outside the pairs before it, with the next unescaped
quote of its kind. The scan for comments opens a quote as soon as any quote of its kind follows,
but closes it at an unescaped one only. So a quote that only escaped ones follow hides every marker
behind it, and no other marker is missed.
-/

namespace CommandScript

namespace Line

/-! ### Quotes and markers at their places -/

/-- The character at a place is escaped: it stands behind a backslash that is not. -/
def escapedAt (text : Text) : Nat → Bool
  | 0 => false
  | i + 1 => text[i]? == some '\\' && !escapedAt text i

structure QuoteAt (text : Text) (quote : Char) (i : Nat) : Prop where
  here : text[i]? = some quote
  kind : isQuote quote
  unescaped : escapedAt text i = false

structure NextQuote (text : Text) (quote : Char) (a b : Nat) : Prop where
  behind : a < b
  closes : QuoteAt text quote b
  first : ∀ j, a < j → j < b → ¬ QuoteAt text quote j

/-- A closed pair: an unescaped quote outside the pairs before it, with the next unescaped
quote of its kind. -/
def ClosedPair (text : Text) (a b : Nat) : Prop :=
  (∃ quote, QuoteAt text quote a ∧ NextQuote text quote a b) ∧
    ∀ a' < a, ∀ b', ClosedPair text a' b' → b' < a
termination_by a

def Outside (text : Text) (n : Nat) : Prop := ∀ a < n, ∀ b, ClosedPair text a b → b < n

/-- A marker that is neither escaped nor inside a closed pair. -/
structure FreeMarker (text : Text) (i : Nat) : Prop where
  starts : startsComment (text.drop i)
  unescaped : escapedAt text i = false
  unprotected : ∀ a b, ClosedPair text a b → ¬ (a < i ∧ i < b)

def FirstMarker (text : Text) (i : Nat) : Prop :=
  FreeMarker text i ∧ ∀ j < i, ¬ FreeMarker text j

/-- An unescaped quote outside all pairs, which only escaped quotes of its kind follow, one at
least. -/
structure HalfOpen (text : Text) (i : Nat) : Prop where
  outside : Outside text i
  opens : ∃ quote, QuoteAt text quote i ∧ (∀ j, i < j → ¬ QuoteAt text quote j) ∧
    ∃ j, i < j ∧ text[j]? = some quote

variable {text t : Text} {c quote : Char} {a b i n : Nat}

theorem closedPair_iff : ClosedPair text a b ↔
    (∃ quote, QuoteAt text quote a ∧ NextQuote text quote a b) ∧ Outside text a := by
  rw [ClosedPair]
  rfl

theorem escapedAt_succ (h : text[i]? = some c) :
    escapedAt text (i + 1) = (c == '\\' && !escapedAt text i) := by
  simp [escapedAt, h]

theorem getElem?_of_drop (h : text.drop n = c :: t) : text[n]? = some c := by
  rw [← List.head?_drop, h, List.head?_cons]

theorem drop_of_drop (h : text.drop n = c :: t) : text.drop (n + 1) = t := by
  rw [← List.drop_drop, h, List.drop_one, List.tail_cons]

theorem mem_of_behind {j : Nat} (h : text.drop n = t) (le : n ≤ j) (found : text[j]? = some c) :
    c ∈ t := by
  have there : (text.drop n)[j - n]? = some c := by
    rw [List.getElem?_drop, Nat.add_sub_of_le le, found]
  rw [h] at there
  exact List.mem_of_getElem? there

theorem behind_of_mem (h : text.drop n = t) (mem : c ∈ t) : ∃ j, n ≤ j ∧ text[j]? = some c := by
  obtain ⟨k, found⟩ := List.mem_iff_getElem?.mp mem
  rw [← h, List.getElem?_drop] at found
  exact ⟨n + k, Nat.le_add_right n k, found⟩

/-- The character behind a backslash is escaped, and the one behind that is not. -/
theorem escapedAt_pair (h : text.drop n = '\\' :: c :: t) (unescaped : escapedAt text n = false) :
    escapedAt text (n + 1) = true ∧ escapedAt text (n + 2) = false := by
  have one : escapedAt text (n + 1) = true := by
    simp [escapedAt_succ (getElem?_of_drop h), unescaped]
  refine ⟨one, ?_⟩
  simp [escapedAt_succ (getElem?_of_drop (drop_of_drop h)), one]

theorem escapedAt_plain (h : text.drop n = c :: t) (plain : c ≠ '\\') :
    escapedAt text (n + 1) = false := by
  simp [escapedAt_succ (getElem?_of_drop h), plain]

theorem QuoteAt.not_free (h : QuoteAt text quote n) : ¬ FreeMarker text n := by
  intro free
  have starts := free.starts
  obtain ⟨t, ht⟩ : ∃ t, text.drop n = quote :: t := by
    rw [← List.head?_eq_some_iff, List.head?_drop, h.here]
  rw [ht] at starts
  exact not_startsComment_of_isQuote h.kind starts

/-! ### The scan -/

/-- From a place on, the result is the distance to the first free marker, unless a half-open quote
comes first. -/
def Finds (text : Text) (n : Nat) (found? : Option Nat) : Prop :=
  ∀ i, found? = some i ↔
    FreeMarker text (n + i) ∧ ∀ j, n ≤ j → j < n + i → ¬ FreeMarker text j ∧ ¬ HalfOpen text j

theorem exists_firstMarker (h : ∃ i, FreeMarker text i) : ∃ i, FirstMarker text i := by
  classical
  exact ⟨Nat.find h, Nat.find_spec h, fun j lt => Nat.find_min h lt⟩

namespace Finds

variable {found? : Option Nat}

theorem pass (free : ¬ FreeMarker text n) (half : ¬ HalfOpen text n)
    (h : Finds text (n + 1) found?) : Finds text n (found?.map (· + 1)) := by
  intro i
  cases i with
  | zero => simp [free]
  | succ i =>
    have shift : n + (i + 1) = n + 1 + i := by omega
    rw [Option.map_eq_some_iff, shift]
    simp only [Nat.add_right_cancel_iff, exists_eq_right]
    rw [h i]
    refine and_congr_right fun _ => ⟨fun clear j le lt => ?_, fun clear j le => clear j (by omega)⟩
    by_cases hj : j = n
    · subst hj
      exact ⟨free, half⟩
    · exact clear j (by omega) lt

theorem here (free : FreeMarker text n) : Finds text n (some 0) := by
  intro i
  cases i with
  | zero =>
    refine ⟨fun _ => ⟨free, fun j le lt => ?_⟩, fun _ => rfl⟩
    omega
  | succ i =>
    refine ⟨fun h => (Nat.succ_ne_zero i (Option.some.inj h).symm).elim, fun ⟨_, clear⟩ => ?_⟩
    exact absurd free (clear n (Nat.le_refl n) (by omega)).1

theorem none_of_halfOpen (half : HalfOpen text n) : Finds text n none := by
  intro i
  refine ⟨fun h => absurd h (by simp), fun ⟨free, clear⟩ => ?_⟩
  obtain ⟨quote, opening, -⟩ := half.opens
  cases i with
  | zero => exact absurd free opening.not_free
  | succ i => exact absurd half (clear n (Nat.le_refl n) (by omega)).2

theorem none_of_end (h : text.drop n = []) : Finds text n none := by
  intro i
  refine ⟨fun h => absurd h (by simp), fun ⟨free, _⟩ => ?_⟩
  have starts := free.starts
  rw [← List.drop_drop, h, List.drop_nil] at starts
  cases starts

end Finds

theorem QuoteAt.eq (h : QuoteAt text quote n) (here : text[n]? = some c) : quote = c :=
  Option.some.inj (h.here.symm.trans here)

theorem NextQuote.eq {b' : Nat} (h : NextQuote text quote a b) (h' : NextQuote text quote a b') :
    b = b' := by
  by_contra ne
  rcases Nat.lt_or_gt_of_ne ne with lt | gt
  · exact h'.first b h.behind lt h.closes
  · exact h.first b' h'.behind gt h'.closes

theorem exists_nextQuote {j : Nat} (behind : a < j) (again : QuoteAt text quote j) :
    ∃ b, NextQuote text quote a b := by
  classical
  have some : ∃ b, a < b ∧ QuoteAt text quote b := ⟨j, behind, again⟩
  obtain ⟨lt, closes⟩ := Nat.find_spec some
  exact ⟨Nat.find some, lt, closes, fun k above below here => Nat.find_min some below ⟨above, here⟩⟩

theorem Outside.succ (h : Outside text n) (alone : ∀ b, ¬ ClosedPair text n b) :
    Outside text (n + 1) := by
  intro a lt b pair
  by_cases ha : a = n
  · subst ha
    exact absurd pair (alone b)
  · have before := h a (by omega) b pair
    omega

/-- No pair begins where no quote stands unescaped. -/
theorem Outside.plain (h : Outside text n) (plain : ∀ quote, ¬ QuoteAt text quote n) :
    Outside text (n + 1) := by
  refine h.succ fun b pair => ?_
  obtain ⟨⟨quote, opens, -⟩, -⟩ := closedPair_iff.mp pair
  exact plain quote opens

/-- Where the scan stands: outside all pairs, or inside the pair that a quote has opened. -/
def Stands (text : Text) (n : Nat) : Option Char → Prop
  | none => Outside text n
  | some quote => ∃ a b, QuoteAt text quote a ∧ NextQuote text quote a b ∧ Outside text a ∧
      a < n ∧ n ≤ b

/-- Behind the closing quote the scan is outside all pairs again. -/
theorem outside_of_closes (opens : QuoteAt text quote a) (next : NextQuote text quote a n)
    (outside : Outside text a) : Outside text (n + 1) := by
  intro a' lt b' pair'
  have pair : ClosedPair text a n := closedPair_iff.mpr ⟨⟨quote, opens, next⟩, outside⟩
  obtain ⟨⟨quote', opens', next'⟩, outside'⟩ := closedPair_iff.mp pair'
  rcases Nat.lt_trichotomy a' a with before | same | within
  · have ended := outside a' before b' pair'
    have := next.behind
    omega
  · subst same
    obtain rfl := opens'.eq opens.here
    have := next.eq next'
    omega
  · have ended := outside' a within n pair
    omega

/-- A place inside a closed pair is no marker that counts, and no half-open quote. -/
theorem passed_of_pair (pair : ClosedPair text a b) (behind : a < n) (before : n < b) :
    ¬ FreeMarker text n ∧ ¬ HalfOpen text n := by
  constructor
  · intro free
    exact free.unprotected a b pair ⟨behind, before⟩
  · intro half
    have ended := half.outside a behind b pair
    omega

theorem Stands.plain {open? : Option Char} (h : Stands text n open?)
    (plain : ∀ quote, ¬ QuoteAt text quote n) : Stands text (n + 1) open? := by
  cases open? with
  | none => exact Outside.plain h plain
  | some quote =>
    obtain ⟨a, b, opens, next, outside, behind, before⟩ := h
    have apart : n ≠ b := by
      rintro rfl
      exact plain quote next.closes
    exact ⟨a, b, opens, next, outside, by omega, by omega⟩

theorem not_quoteAt (h : text.drop n = c :: t) (hc : isQuote c = false) :
    ¬ QuoteAt text quote n := by
  intro here
  obtain rfl := here.eq (getElem?_of_drop h)
  rw [here.kind] at hc
  cases hc

theorem not_halfOpen (plain : ∀ quote, ¬ QuoteAt text quote n) : ¬ HalfOpen text n := by
  intro half
  obtain ⟨quote, here, -⟩ := half.opens
  exact plain quote here

theorem not_free (h : text.drop n = t) (plain : ¬ startsComment t) : ¬ FreeMarker text n := by
  intro free
  have starts := free.starts
  rw [h] at starts
  exact plain starts

/-- A quote without a partner stays open to the end of the scan. -/
theorem commentFrom_of_unclosed (kind : isQuote quote)
    (unclosed : ∀ j, n ≤ j → ¬ QuoteAt text quote j) (h : text.drop n = t)
    (unescaped : escapedAt text n = false) : commentFrom (some quote) t = none := by
  generalize hopen : some quote = open?
  fun_induction commentFrom open? t generalizing n with
  | case1 => rfl
  | case2 => rfl
  | case3 open? c rest ih =>
    have behind : text.drop (n + 2) = rest := drop_of_drop (drop_of_drop h)
    rw [ih (fun j le => unclosed j (by omega)) behind (escapedAt_pair h unescaped).2 hopen]
    rfl
  | case4 c rest alone escape quote' ih =>
    obtain rfl : quote = quote' := Option.some.inj hopen
    have other : c ≠ quote := by
      rintro rfl
      exact unclosed n (Nat.le_refl n) ⟨getElem?_of_drop h, kind, unescaped⟩
    rw [ih (fun j le => unclosed j (by omega)) (drop_of_drop h)
      (escapedAt_plain h (ne_backslash alone escape)) (by rw [if_neg other])]
    rfl
  | case5 | case6 | case7 => cases hopen

/-- The scan finds the first free marker, unless a half-open quote comes first. -/
theorem finds_commentFrom {open? : Option Char} (stands : Stands text n open?)
    (h : text.drop n = t) (unescaped : escapedAt text n = false) :
    Finds text n (commentFrom open? t) := by
  fun_induction commentFrom open? t generalizing n with
  | case1 => exact .none_of_end h
  | case2 =>
    have ends : Finds text (n + 1) none := .none_of_end (drop_of_drop h)
    exact ends.pass (not_free h (by decide)) (not_halfOpen fun _ => not_quoteAt h rfl)
  | case3 open? c rest ih =>
    obtain ⟨escaped, after⟩ := escapedAt_pair h unescaped
    have second : ∀ quote, ¬ QuoteAt text quote (n + 1) := by
      intro quote here
      exact absurd (escaped.symm.trans here.unescaped) (by decide)
    have first : ∀ quote, ¬ QuoteAt text quote n := fun _ => not_quoteAt h rfl
    have rest' := ih ((stands.plain first).plain second) (drop_of_drop (drop_of_drop h)) after
    have notFree : ¬ FreeMarker text (n + 1) := by
      intro free
      exact absurd (escaped.symm.trans free.unescaped) (by decide)
    have plain : ¬ startsComment ('\\' :: c :: rest) := by simp [startsComment]
    have both := (rest'.pass notFree (not_halfOpen second)).pass (not_free h plain)
      (not_halfOpen first)
    rwa [Option.map_map] at both
  | case4 c rest alone escape quote ih =>
    obtain ⟨a, b, opens, next, outside, behind, before⟩ := stands
    have pair : ClosedPair text a b := closedPair_iff.mpr ⟨⟨quote, opens, next⟩, outside⟩
    have after := escapedAt_plain h (ne_backslash alone escape)
    by_cases same : c = quote
    · subst same
      have closes : QuoteAt text c n := ⟨getElem?_of_drop h, opens.kind, unescaped⟩
      obtain rfl : n = b := by
        by_contra apart
        exact next.first n behind (by omega) closes
      have half : ¬ HalfOpen text n := by
        intro half
        have ended := half.outside a behind n pair
        omega
      rw [if_pos rfl] at ih ⊢
      exact (ih (outside_of_closes opens next outside) (drop_of_drop h) after).pass closes.not_free
        half
    · have apart : n ≠ b := by
        rintro rfl
        exact same (next.closes.eq (getElem?_of_drop h)).symm
      obtain ⟨free, half⟩ := passed_of_pair pair behind (by omega)
      rw [if_neg same] at ih ⊢
      exact (ih ⟨a, b, opens, next, outside, by omega, by omega⟩ (drop_of_drop h) after).pass free
        half
  | case5 c rest alone escape opens ih =>
    obtain ⟨kind, later⟩ := Bool.and_eq_true_iff.mp opens
    have here : QuoteAt text c n := ⟨getElem?_of_drop h, kind, unescaped⟩
    have after := escapedAt_plain h (ne_backslash alone escape)
    by_cases closed : ∃ b, NextQuote text c n b
    · obtain ⟨b, next⟩ := closed
      have half : ¬ HalfOpen text n := by
        intro half
        obtain ⟨quote, again, unclosed, -⟩ := half.opens
        obtain rfl := again.eq here.here
        exact unclosed b next.behind next.closes
      exact (ih ⟨n, b, here, next, stands, by omega, next.behind⟩ (drop_of_drop h) after).pass
        here.not_free half
    · have unclosed : ∀ j, n < j → ¬ QuoteAt text c j := by
        intro j lt again
        exact closed (exists_nextQuote lt again)
      have half : HalfOpen text n :=
        ⟨stands, c, here, unclosed, behind_of_mem (drop_of_drop h) (by simpa using later)⟩
      rw [commentFrom_of_unclosed kind (fun j le => unclosed j (by omega)) (drop_of_drop h) after]
      exact .none_of_halfOpen half
  | case6 c rest alone escape closed starts =>
    refine .here ⟨by rwa [h], unescaped, fun a b pair within => ?_⟩
    have ended := stands a within.1 b pair
    omega
  | case7 c rest alone escape closed plain ih =>
    have unpaired : ∀ quote, QuoteAt text quote n → ∀ j, n < j → text[j]? ≠ some quote := by
      intro quote here j lt found
      obtain rfl := here.eq (getElem?_of_drop h)
      refine closed ?_
      simp [here.kind, mem_of_behind (drop_of_drop h) lt found]
    have half : ¬ HalfOpen text n := by
      intro half
      obtain ⟨quote, here, -, j, lt, found⟩ := half.opens
      exact unpaired quote here j lt found
    have alone' : ∀ b, ¬ ClosedPair text n b := by
      intro b pair
      obtain ⟨⟨quote, here, next⟩, -⟩ := closedPair_iff.mp pair
      exact unpaired quote here b next.behind next.closes.here
    exact (ih (Outside.succ stands alone') (drop_of_drop h)
      (escapedAt_plain h (ne_backslash alone escape))).pass (not_free h plain) half

/-- **Where a comment starts.** It starts at the first marker that is neither escaped nor inside a
closed pair of quotes, unless a half-open quote stands in front of that marker. There is no comment
where there is no such marker, or where a half-open quote stands in front of all of them, and
nowhere else. A text in which no quote is escaped has no half-open quote. -/
theorem comment_starts_at_free_marker (text : Text) :
    (∀ i, commentStart? text = some i ↔ FirstMarker text i ∧ ∀ j < i, ¬ HalfOpen text j) ∧
      (commentStart? text = none ↔
        (∀ i, ¬ FreeMarker text i) ∨ ∃ j, HalfOpen text j ∧ ∀ i, FreeMarker text i → j < i) ∧
      ((∀ i quote, text[i]? = some quote → isQuote quote → escapedAt text i = false) →
        ∀ j, ¬ HalfOpen text j) := by
  have start : Stands text 0 none := fun a lt => absurd lt (Nat.not_lt_zero a)
  have finds : Finds text 0 (commentStart? text) := finds_commentFrom start rfl rfl
  have found (i : Nat) : commentStart? text = some i ↔
      FirstMarker text i ∧ ∀ j < i, ¬ HalfOpen text j := by
    rw [finds i, FirstMarker, Nat.zero_add, and_assoc]
    refine and_congr_right fun _ => ⟨fun clear => ?_, fun clear j _ lt => ?_⟩
    · exact ⟨fun j lt => (clear j (Nat.zero_le j) lt).1, fun j lt => (clear j (Nat.zero_le j) lt).2⟩
    · exact ⟨clear.1 j lt, clear.2 j lt⟩
  refine ⟨found, ?_, ?_⟩
  · constructor
    · intro missed
      by_cases some : ∃ i, FreeMarker text i
      · right
        obtain ⟨i, first⟩ := exists_firstMarker some
        by_contra none
        have clear : ∀ j < i, ¬ HalfOpen text j := by
          intro j lt half
          refine none ⟨j, half, fun k free => ?_⟩
          by_contra before
          exact first.2 k (by omega) free
        rw [(found i).mpr ⟨first, clear⟩] at missed
        cases missed
      · left
        intro i free
        exact some ⟨i, free⟩
    · intro hidden
      cases h : commentStart? text with
      | none => rfl
      | some i =>
        obtain ⟨first, clear⟩ := (found i).mp h
        rcases hidden with none | ⟨j, half, before⟩
        · exact absurd first.1 (none i)
        · exact absurd half (clear j (before i first.1))
  · intro unescaped j half
    obtain ⟨quote, here, unclosed, k, lt, again⟩ := half.opens
    exact unclosed k lt ⟨again, here.kind, unescaped k quote again here.kind⟩

/-- A closed pair protects its marker, and a lone apostrophe protects none. -/
theorem comment_starts_at_free_marker_lone :
    let text : Text := "a '#' don't // b"
    (∀ i quote, text[i]? = some quote → isQuote quote → escapedAt text i = false) ∧
      commentStart? text = some 12 ∧ FirstMarker text 12 := by
  intro text
  have unescaped : ∀ i < text.length, escapedAt text i = false := by decide +kernel
  have found : commentStart? text = some 12 := by decide +kernel
  obtain ⟨iff, -, -⟩ := comment_starts_at_free_marker text
  refine ⟨fun i quote here _ => ?_, found, ((iff 12).mp found).1⟩
  exact unescaped i (List.getElem?_eq_some_iff.mp here).1

/-- The second quote is escaped, so it closes nothing; yet the scan has opened the first one and
misses the marker. -/
theorem free_marker_hidden :
    let text : Text := "'\\'# c"
    FirstMarker text 3 ∧ HalfOpen text 0 ∧ commentStart? text = none := by
  intro text
  have quotes : ∀ j < text.length,
      (text[j]?.any isQuote && !escapedAt text j) = true → j = 0 := by decide
  have only : ∀ quote j, QuoteAt text quote j → j = 0 := by
    intro quote j here
    refine quotes j (List.getElem?_eq_some_iff.mp here.here).1 ?_
    simp [here.here, here.kind, here.unescaped]
  have early : ∀ j < 3, startsComment (text.drop j) = false := by decide
  refine ⟨⟨⟨rfl, rfl, fun a b pair within => ?_⟩, fun j lt free => ?_⟩, ⟨?_, ?_⟩, rfl⟩
  · obtain ⟨⟨quote, -, next⟩, -⟩ := closedPair_iff.mp pair
    have front := only quote b next.closes
    omega
  · exact absurd (free.starts.symm.trans (early j lt)) (by decide)
  · intro a lt
    omega
  · refine ⟨'\'', ⟨rfl, rfl, rfl⟩, fun j lt again => ?_, 2, by decide, rfl⟩
    have front := only _ j again
    omega

end Line

end CommandScript
