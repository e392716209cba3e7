import Mathlib.Logic.Function.Iterate
import CommandScript.Proofs.Occurrences

/-!
# Passes

A pass replaces the references that a table defines, each for itself. The others stay, so that a
reference that is missed once is missed for ever, unless expansion is strict and the pass fails.
A run is as many passes as are allowed, for behind the first one that changes nothing the
others change nothing either.
-/

namespace CommandScript

namespace Registry

variable (registry : Registry) {t name : Text}

/-- What stands in the place of a piece where the references that a table defines are replaced. -/
def replacement : Piece → Text
  | .plain c => [c]
  | .reference name => (registry.lookup name).getD (Piece.reference name).written

/-- The text with every reference that a table defines replaced by its value. -/
def substitute (t : Text) : Text := (Piece.ofText t).flatMap registry.replacement

def Misses (t : Text) : Prop := ∃ o : Occurrence t, registry.lookup o.name = none

def IsExpanded (t : Text) : Prop := ∀ o : Occurrence t, registry.lookup o.name = none

theorem misses_iff :
    registry.Misses t ↔ ∃ name ∈ Piece.names (Piece.ofText t), registry.lookup name = none := by
  simp [Misses, Piece.mem_names_ofText_iff]

theorem isExpanded_iff :
    registry.IsExpanded t ↔
      ∀ name ∈ Piece.names (Piece.ofText t), registry.lookup name = none := by
  simp [IsExpanded, Piece.mem_names_ofText_iff]

instance (t : Text) : Decidable (registry.Misses t) := decidable_of_iff _ registry.misses_iff.symm

instance (t : Text) : Decidable (registry.IsExpanded t) :=
  decidable_of_iff _ registry.isExpanded_iff.symm

theorem substitute_cons {c : Char} (h : Piece.leading? (c :: t) = none) :
    registry.substitute (c :: t) = c :: registry.substitute t := by
  simp [substitute, Piece.ofText_cons h, replacement]

theorem substitute_written (named : IsReferenceName name) (rest : Text) :
    registry.substitute ((Piece.reference name).written ++ rest) =
      registry.replacement (.reference name) ++ registry.substitute rest := by
  rw [substitute, Piece.ofText_written named, List.flatMap_cons]
  rfl

/-- A pass replaces each reference in its place. -/
theorem substitute_occurrence (o : Occurrence t) :
    registry.substitute t = registry.substitute o.before ++
      (registry.replacement (.reference o.name) ++ registry.substitute o.behind) := by
  rw [substitute, o.pieces, List.flatMap_append, List.flatMap_cons]
  rfl

/-- A reference that no table defines is still missed after a pass. -/
theorem Misses.substitute {registry : Registry} (h : registry.Misses t) :
    registry.Misses (registry.substitute t) := by
  obtain ⟨o, unknown⟩ := h
  refine ⟨⟨registry.substitute o.before, o.name, registry.substitute o.behind, o.named, ?_⟩,
    unknown⟩
  rw [registry.substitute_occurrence o, replacement, unknown]
  rfl

def substituted (n : Nat) (t : Text) : Text := registry.substitute^[n] t

theorem substituted_succ (n : Nat) (t : Text) :
    registry.substituted (n + 1) t = registry.substituted n (registry.substitute t) := rfl

theorem substituted_succ' (n : Nat) (t : Text) :
    registry.substituted (n + 1) t = registry.substitute (registry.substituted n t) :=
  Function.iterate_succ_apply' ..

/-- Behind a pass that changes nothing no pass changes anything. -/
theorem substituted_of_stable {k n : Nat} (stable : registry.substituted (k + 1) t =
    registry.substituted k t) (later : k ≤ n) :
    registry.substituted n t = registry.substituted k t := by
  induction n, later using Nat.le_induction with
  | base => rfl
  | succ n later ih => rw [substituted_succ', ih, ← substituted_succ', stable]

theorem Misses.later {registry : Registry} {k n : Nat} (h : registry.Misses (registry.substituted k t))
    (later : k ≤ n) : registry.Misses (registry.substituted n t) := by
  induction n, later using Nat.le_induction with
  | base => exact h
  | succ n later ih =>
    rw [substituted_succ']
    exact ih.substitute

end Registry

namespace Expander

variable {registry : Registry} {e : Expander} {ps : List Piece} {t : Text}

theorem pieces_eq
    (known : e.strict = false ∨ ∀ name ∈ Piece.names ps, registry.lookup name ≠ none) :
    e.pieces registry ps = .ok (ps.flatMap registry.replacement) := by
  induction ps with
  | nil => rfl
  | cons p ps ih =>
    cases p with
    | plain c => simp only [pieces, piece, ih known, List.flatMap_cons, Registry.replacement]
    | reference name =>
      have back := ih (known.imp_right fun h => (List.forall_mem_cons.mp h).2)
      cases found : registry.lookup name with
      | some value =>
        simp only [pieces, piece, found, back, List.flatMap_cons, Registry.replacement,
          Option.getD_some]
      | none =>
        have lenient : e.strict = false :=
          known.resolve_right fun h => (List.forall_mem_cons.mp h).1 found
        simp [pieces, piece, found, lenient, back, Registry.replacement]

/-- A pass that is not strict, or misses no reference, replaces the references that a table
defines. -/
theorem pass_eq (known : e.strict = false ∨ ¬ registry.Misses t) :
    e.pass registry t = .ok (registry.substitute t) := by
  refine pieces_eq (known.imp_right fun h name mem unknown => h ?_)
  exact registry.misses_iff.mpr ⟨name, mem, unknown⟩

theorem pieces_missing (strict : e.strict = true)
    (missing : ∃ name ∈ Piece.names ps, registry.lookup name = none) :
    ∃ name, registry.lookup name = none ∧
      e.pieces registry ps = .error (.undefinedReference (Piece.reference name).written) := by
  induction ps with
  | nil => simp [Piece.names] at missing
  | cons p ps ih =>
    have later (front : Text) (hfront : e.piece registry p = .ok front)
        (missing : ∃ name ∈ Piece.names ps, registry.lookup name = none) :
        ∃ name, registry.lookup name = none ∧ e.pieces registry (p :: ps) =
          .error (.undefinedReference (Piece.reference name).written) := by
      obtain ⟨name, unknown, back⟩ := ih missing
      exact ⟨name, unknown, by simp only [pieces, hfront, back]⟩
    cases p with
    | plain c => exact later [c] rfl missing
    | reference front =>
      cases found : registry.lookup front with
      | none => exact ⟨front, found, by simp [pieces, piece, found, strict]⟩
      | some value =>
        obtain ⟨name, mem, unknown⟩ := missing
        rcases List.mem_cons.mp mem with rfl | mem
        · rw [found] at unknown
          cases unknown
        · exact later value (by simp [piece, found]) ⟨name, mem, unknown⟩

/-- A strict pass over a text that misses a reference fails on one that no table defines. -/
theorem pass_missing (strict : e.strict = true) (missing : registry.Misses t) :
    ∃ name, registry.lookup name = none ∧
      e.pass registry t = .error (.undefinedReference (Piece.reference name).written) :=
  pieces_missing strict (registry.misses_iff.mp missing)

/-- A run that is not strict, or misses no reference in front of its last pass, makes all its
passes. -/
theorem run_eq {n : Nat} (known : e.strict = false ∨
    ∀ k < n, ¬ registry.Misses (registry.substituted k t)) :
    e.run registry n t = .ok (registry.substituted n t) := by
  induction n generalizing t with
  | zero => rfl
  | succ n ih =>
    have first : e.pass registry t = .ok (registry.substitute t) :=
      pass_eq (known.imp_right fun h => h 0 n.succ_pos)
    have rest := ih (known.imp_right fun h k hk => h (k + 1) (Nat.succ_lt_succ hk))
    simp only [run, first]
    split
    · rename_i same
      rw [Registry.substituted, Function.iterate_fixed same]
    · exact rest

/-- A strict run fails in the first pass that misses a reference. -/
theorem run_missing (strict : e.strict = true) {n k : Nat} (before : k < n)
    (missing : registry.Misses (registry.substituted k t)) :
    ∃ name, registry.lookup name = none ∧
      e.run registry n t = .error (.undefinedReference (Piece.reference name).written) := by
  induction n generalizing k t with
  | zero => omega
  | succ n ih =>
    by_cases now : registry.Misses t
    · obtain ⟨name, unknown, first⟩ := pass_missing strict now
      exact ⟨name, unknown, by simp only [run, first]⟩
    · have first := pass_eq (e := e) (.inr now)
      have changes : registry.substitute t ≠ t := by
        intro same
        rw [Registry.substituted, Function.iterate_fixed same] at missing
        exact now missing
      cases k with
      | zero => exact absurd missing now
      | succ k =>
        obtain ⟨name, unknown, rest⟩ := ih (Nat.lt_of_succ_lt_succ before) missing
        exact ⟨name, unknown, by simp only [run, first, if_neg changes, rest]⟩

end Expander

end CommandScript
