import CommandScript.Expansion

/-!
# Expanding texts

A pass treats a text piece by piece, so what stands in front of the first dollar sign
stays as it is. Unless expansion is strict it succeeds on every text.
-/

namespace CommandScript

namespace Expander

variable {e : Expander} (registry : Registry)

theorem pieces_ok (h : e.strict = false) (ps : List Piece) : ∃ t, e.pieces registry ps = .ok t := by
  induction ps with
  | nil => exact ⟨[], rfl⟩
  | cons p rest ih =>
    obtain ⟨back, hback⟩ := ih
    have front : ∃ t, e.piece registry p = .ok t := by
      cases p with
      | plain c => exact ⟨[c], rfl⟩
      | reference name =>
        cases hv : registry.lookup name with
        | none => exact ⟨(Piece.reference name).written, by simp [piece, hv, h]⟩
        | some value => exact ⟨value, by simp [piece, hv]⟩
    obtain ⟨t, ht⟩ := front
    exact ⟨t ++ back, by simp only [pieces, ht, hback]⟩

/-- Expansion that is not strict succeeds on every text. -/
theorem expand_ok (h : e.strict = false) (t : Text) : ∃ u, e.expand registry t = .ok u := by
  have run (n : Nat) : ∀ t, ∃ u, e.run registry n t = .ok u := by
    induction n with
    | zero => exact fun t => ⟨t, rfl⟩
    | succ n ih =>
      intro t
      obtain ⟨u, hu⟩ := pieces_ok registry h (Piece.ofText t)
      by_cases same : u = t
      · exact ⟨t, by simp [Expander.run, pass, hu, same]⟩
      · obtain ⟨v, hv⟩ := ih u
        exact ⟨v, by simp only [Expander.run, pass, hu, if_neg same, hv]⟩
  exact run e.passes t

theorem pieces_error {ps : List Piece} {fault : Error} (h : e.pieces registry ps = .error fault) :
    ∃ reference, fault = .undefinedReference reference := by
  induction ps with
  | nil => cases h
  | cons p rest ih =>
    have front {fault : Error} (hp : e.piece registry p = .error fault) :
        ∃ reference, fault = .undefinedReference reference := by
      cases p with
      | plain c => cases hp
      | reference name =>
        revert hp
        simp only [piece]
        split
        · rintro ⟨⟩
        · split
          · rintro ⟨⟩
            exact ⟨_, rfl⟩
          · rintro ⟨⟩
    revert h
    simp only [pieces]
    split
    · rintro ⟨⟩
      exact front ‹_›
    · split
      · rintro ⟨⟩
        exact ih ‹_›
      · rintro ⟨⟩

/-- Expansion fails on an unknown reference only. -/
theorem expand_error {t : Text} {fault : Error} (h : e.expand registry t = .error fault) :
    ∃ reference, fault = .undefinedReference reference := by
  have run (n : Nat) : ∀ t, e.run registry n t = .error fault →
      ∃ reference, fault = .undefinedReference reference := by
    induction n with
    | zero => rintro t ⟨⟩
    | succ n ih =>
      intro t
      simp only [Expander.run]
      split
      · rintro ⟨⟩
        exact pieces_error registry ‹_›
      · split
        · rintro ⟨⟩
        · exact ih _
  exact run e.passes t h

/-- A pass leaves a first character that is no dollar sign. -/
theorem pass_cons {c : Char} (hc : c ≠ '$') (t : Text) :
    e.pass registry (c :: t) = (e.pass registry t).map (c :: ·) := by
  have none : Piece.leading? (c :: t) = none := by
    unfold Piece.leading?
    split
    · exact absurd (by simp_all) hc
    · rfl
  have pieces : Piece.ofText (c :: t) = .plain c :: Piece.ofText t := by
    simp only [Piece.ofText, Piece.ofTextFrom, none]
  simp only [pass, pieces, Expander.pieces, piece]
  cases e.pieces registry (Piece.ofText t) <;> rfl

theorem run_cons {c : Char} (hc : c ≠ '$') (n : Nat) (t : Text) :
    e.run registry n (c :: t) = (e.run registry n t).map (c :: ·) := by
  induction n generalizing t with
  | zero => rfl
  | succ n ih =>
    simp only [run, pass_cons registry hc]
    cases e.pass registry t with
    | error fault => rfl
    | ok u =>
      by_cases same : u = t
      · simp [Except.map, same]
      · simp [Except.map, same, ih u]

/-- Expansion leaves a first character that is no dollar sign. -/
theorem expand_cons {c : Char} (hc : c ≠ '$') (t : Text) :
    e.expand registry (c :: t) = (e.expand registry t).map (c :: ·) :=
  run_cons registry hc e.passes t

/-- What stands in front of the first dollar sign stays as it is. -/
theorem expand_append {t : Text} (h : '$' ∉ t) (u : Text) :
    e.expand registry (t ++ u) = (e.expand registry u).map (t ++ ·) := by
  induction t with
  | nil =>
    rw [List.nil_append]
    cases e.expand registry u <;> rfl
  | cons c t ih =>
    obtain ⟨hc, ht⟩ : '$' ≠ c ∧ '$' ∉ t := by simpa using h
    rw [List.cons_append, expand_cons registry hc.symm, ih ht]
    cases e.expand registry u <;> rfl

theorem expand_cons_ok {c : Char} (hc : c ≠ '$') {t u : Text}
    (h : e.expand registry (c :: t) = .ok u) : ∃ v, e.expand registry t = .ok v ∧ u = c :: v := by
  rw [expand_cons registry hc] at h
  cases ht : e.expand registry t with
  | error fault => simp [ht, Except.map] at h
  | ok v =>
    rw [ht] at h
    cases h
    exact ⟨v, rfl, rfl⟩

/-- A text without dollar signs stays as it is. -/
theorem expand_plain {t : Text} (h : '$' ∉ t) : e.expand registry t = .ok t := by
  induction t with
  | nil =>
    cases hp : e.passes with
    | zero => simp [expand, hp, run]
    | succ n => simp [expand, hp, run, pass, Piece.ofText, Piece.ofTextFrom, pieces]
  | cons c t ih =>
    obtain ⟨hc, ht⟩ : '$' ≠ c ∧ '$' ∉ t := by simpa using h
    rw [expand_cons registry hc.symm, ih ht]
    rfl

/-- Expansion asks a registry for nothing but the values of names. -/
theorem expand_congr {r r' : Registry} (h : ∀ name, r.lookup name = r'.lookup name) (t : Text) :
    e.expand r t = e.expand r' t := by
  have piece (p : Piece) : e.piece r p = e.piece r' p := by
    cases p with
    | plain c => rfl
    | reference name => simp only [Expander.piece, h]
  have pieces (ps : List Piece) : e.pieces r ps = e.pieces r' ps := by
    induction ps with
    | nil => rfl
    | cons p rest ih => simp only [Expander.pieces, piece, ih]
  have run (n : Nat) : ∀ t, e.run r n t = e.run r' n t := by
    induction n with
    | zero => exact fun t => rfl
    | succ n ih => simp only [Expander.run, pass, pieces, ih, implies_true]
  exact run e.passes t

end Expander

namespace Registry

theorem insertEntry_of_new {α : Type} {key : Text} (value : α) {entries : List (Text × α)}
    (new : entries.find? (·.1 = key) = none) :
    Ordered.insertEntry key value entries = entries ++ [(key, value)] := by
  induction entries with
  | nil => rfl
  | cons entry entries ih =>
    rw [List.find?_cons] at new
    split at new
    · cases new
    · rename_i other
      rw [Ordered.insertEntry, if_neg (by simpa using other), ih new]
      rfl

/-- A new table without entries gives no name a value. -/
theorem lookup_ensure (r : Registry) (label name : Text) :
    (r.ensure label).lookup name = r.lookup name := by
  rw [ensure]
  split
  · rfl
  · rename_i new
    rw [Ordered.contains, Ordered.find?, Option.isSome_map, Option.not_isSome_iff_eq_none] at new
    rw [lookup, Ordered.insert, insertEntry_of_new _ new, List.findSome?_append]
    exact Option.or_none

end Registry

end CommandScript
