import CommandScript.Proofs.Passes

/-!
# Strict expansion

Strict expansion fails in the first pass over a text that holds a reference no table defines. It
looks at a text only when it passes over it, so what the last pass brings in is never looked at:
a chain of as many definitions as there are passes leads to an unknown reference that stays.
Lenient expansion goes through the same texts, and an unknown reference stays in them once it
is there; so where the text settles in time, the last text tells whether strict expansion fails.
-/

namespace CommandScript

namespace Registry

/-- The first reference that no table defines appears after exactly so many passes. -/
def MissesFirst (registry : Registry) (n : Nat) (t : Text) : Prop :=
  registry.Misses (registry.substituted n t) ∧
    ∀ k < n, ¬ registry.Misses (registry.substituted k t)

instance (registry : Registry) (n : Nat) (t : Text) : Decidable (registry.MissesFirst n t) :=
  inferInstanceAs (Decidable (_ ∧ _))

/-- Where a pass changes nothing, no later one brings in the first unknown reference. -/
theorem not_missesFirst_of_stable {registry : Registry} {k n : Nat} {t : Text} (before : k < n)
    (stable : registry.substituted (k + 1) t = registry.substituted k t) :
    ¬ registry.MissesFirst n t := by
  rintro ⟨missing, known⟩
  rw [registry.substituted_of_stable stable before.le] at missing
  exact known k before missing

end Registry

namespace Expander

variable {registry : Registry} {e : Expander} {t : Text}

def MeetsUnknown (e : Expander) (registry : Registry) (t : Text) : Prop :=
  ∃ name, registry.lookup name = none ∧
    e.expand registry t = .error (.undefinedReference (Piece.reference name).written)

/-- Strict expansion either makes all its passes, over texts whose references are defined, or
fails on a reference that is not. -/
theorem strict_expand (strict : e.strict = true) (registry : Registry) (t : Text) :
    ((∀ k < e.passes, ¬ registry.Misses (registry.substituted k t)) ∧
      e.expand registry t = .ok (registry.substituted e.passes t)) ∨
    ((∃ k < e.passes, registry.Misses (registry.substituted k t)) ∧ e.MeetsUnknown registry t) := by
  by_cases known : ∀ k < e.passes, ¬ registry.Misses (registry.substituted k t)
  · exact .inl ⟨known, run_eq (.inr known)⟩
  · obtain ⟨k, before, missing⟩ : ∃ k < e.passes, registry.Misses (registry.substituted k t) := by
      simpa using known
    exact .inr ⟨⟨k, before, missing⟩, run_missing strict before missing⟩

theorem meetsUnknown_iff (strict : e.strict = true) :
    e.MeetsUnknown registry t ↔ ∃ k < e.passes, registry.Misses (registry.substituted k t) := by
  rcases strict_expand strict registry t with ⟨known, result⟩ | ⟨missing, fails⟩
  · constructor
    · rintro ⟨name, -, fault⟩
      rw [result] at fault
      cases fault
    · rintro ⟨k, before, missing⟩
      exact absurd missing (known k before)
  · exact ⟨fun _ => missing, fun _ => fails⟩

theorem strict_expand_eq_ok_iff (strict : e.strict = true) {u : Text} :
    e.expand registry t = .ok u ↔ u = registry.substituted e.passes t ∧
      ∀ k < e.passes, ¬ registry.Misses (registry.substituted k t) := by
  rcases strict_expand strict registry t with ⟨known, result⟩ | ⟨⟨k, before, missing⟩, _, _, fault⟩
  · rw [result, Except.ok.injEq, eq_comm]
    exact ⟨fun same => ⟨same, known⟩, fun h => h.1⟩
  · rw [fault]
    constructor
    · rintro ⟨⟩
    · rintro ⟨-, known⟩
      exact absurd missing (known k before)

end Expander

/-- **When strict expansion finds an unknown reference.** It fails on one exactly if one stands in
the text in front of some pass; if the first one appears in the very text that the last pass
leaves, that text is the result, with the unknown reference in it; and otherwise the result holds
none. So none gets through where one of the passes changes nothing. -/
theorem strict_expansion_finds_unknown (registry : Registry) {e : Expander}
    (strict : e.strict = true) (t : Text) :
    (e.MeetsUnknown registry t ↔ ∃ k < e.passes, registry.Misses (registry.substituted k t)) ∧
    ((∃ u, e.expand registry t = .ok u ∧ registry.Misses u) ↔
      registry.MissesFirst e.passes t) ∧
    ((∃ u, e.expand registry t = .ok u ∧ ¬ registry.Misses u) ↔
      ∀ k ≤ e.passes, ¬ registry.Misses (registry.substituted k t)) ∧
    ((∃ k < e.passes, registry.substituted (k + 1) t = registry.substituted k t) →
      ¬ registry.MissesFirst e.passes t) := by
  refine ⟨Expander.meetsUnknown_iff strict, ?_, ?_, ?_⟩
  · simp only [Expander.strict_expand_eq_ok_iff strict]
    constructor
    · rintro ⟨u, ⟨rfl, known⟩, missing⟩
      exact ⟨missing, known⟩
    · rintro ⟨missing, known⟩
      exact ⟨_, ⟨rfl, known⟩, missing⟩
  · simp only [Expander.strict_expand_eq_ok_iff strict]
    constructor
    · rintro ⟨u, ⟨rfl, -⟩, known⟩ k before missing
      exact known (missing.later before)
    · intro known
      exact ⟨_, ⟨rfl, fun k before => known k before.le⟩, known _ le_rfl⟩
  · rintro ⟨k, before, stable⟩
    exact Registry.not_missesFirst_of_stable before stable

def definitionChain (n : Nat) : Registry :=
  ⟨[(globalsLabel, ⟨(List.range n).map fun i =>
    (Text.ofNat i, (Piece.reference (Text.ofNat (i + 1))).written)⟩)]⟩

/-- A chain that is shorter than the passes is found out. -/
theorem strict_expansion_finds_unknown_chained :
    let registry := definitionChain 15
    let e : Expander := { strict := true }
    let t : Text := "$\x7b0\x7d"
    e.strict = true ∧ registry.MissesFirst 15 t ∧ e.MeetsUnknown registry t := by
  intro registry e t
  have first : registry.MissesFirst 15 t := by decide +kernel
  obtain ⟨fails, -⟩ := strict_expansion_finds_unknown registry (e := e) rfl t
  exact ⟨rfl, first, fails.mpr ⟨15, by decide, first.1⟩⟩

/-- A chain that is as long as the passes is not: strict expansion succeeds, and what it gives is
a reference that no table defines. -/
theorem strict_expansion_keeps_unknown :
    let registry := definitionChain 16
    let u : Text := "$\x7b16\x7d"
    ({ strict := true } : Expander).expand registry "$\x7b0\x7d" = .ok u ∧
      registry.lookup ['1', '6'] = none ∧ registry.Misses u := by
  decide +kernel

/-- **Strict and lenient expansion agree.** What strict expansion gives, lenient expansion gives
too; and where one of the passes changes nothing, strict expansion fails on an unknown reference
exactly if the lenient result holds one. -/
theorem strict_agrees_with_lenient (registry : Registry) (t : Text) (n : Nat) :
    let strict : Expander := { strict := true, passes := n }
    let lenient : Expander := { passes := n }
    (∀ u, strict.expand registry t = .ok u → lenient.expand registry t = .ok u) ∧
    ∃ u, lenient.expand registry t = .ok u ∧
      ((∃ k < n, ∃ v, ({ passes := k } : Expander).expand registry t = .ok v ∧
          lenient.pass registry v = .ok v) →
        (strict.MeetsUnknown registry t ↔ registry.Misses u)) := by
  intro strict lenient
  have gives (k : Nat) :
      ({ passes := k } : Expander).expand registry t = .ok (registry.substituted k t) :=
    Expander.run_eq (.inl rfl)
  refine ⟨fun u h => ?_, registry.substituted n t, gives n, ?_⟩
  · obtain ⟨rfl, -⟩ := (Expander.strict_expand_eq_ok_iff rfl).mp h
    exact gives n
  · rintro ⟨k, before, v, hv, stable⟩
    obtain rfl : registry.substituted k t = v := Except.ok.inj ((gives k).symm.trans hv)
    have stays : registry.substituted (k + 1) t = registry.substituted k t := by
      rw [Registry.substituted_succ']
      exact Except.ok.inj ((Expander.pass_eq (.inl rfl)).symm.trans stable)
    rw [Expander.meetsUnknown_iff rfl]
    constructor
    · rintro ⟨j, early, missing⟩
      exact missing.later early.le
    · intro missing
      rw [registry.substituted_of_stable stays before.le] at missing
      exact ⟨k, before, missing⟩

/-- A definition that is itself defined, and one that leads to an unknown reference. -/
theorem strict_agrees_with_lenient_unknown :
    let registry : Registry := ⟨[(globalsLabel, ⟨[("x", "1"), ("y", "$\x7bx\x7d$\x7bz\x7d")]⟩)]⟩
    let strict : Expander := { strict := true }
    let lenient : Expander := {}
    lenient.expand registry "$\x7bx\x7d" = .ok "1" ∧
      lenient.expand registry "$\x7by\x7d" = .ok "1$\x7bz\x7d" ∧
      strict.MeetsUnknown registry "$\x7by\x7d" := by
  intro registry strict lenient
  have known : strict.expand registry "$\x7bx\x7d" = .ok "1" := by decide +kernel
  have result : lenient.expand registry "$\x7by\x7d" = .ok "1$\x7bz\x7d" := by decide +kernel
  obtain ⟨u, hu, fails⟩ := (strict_agrees_with_lenient registry "$\x7by\x7d" 16).2
  obtain rfl := Except.ok.inj (result.symm.trans hu)
  refine ⟨(strict_agrees_with_lenient registry "$\x7bx\x7d" 16).1 _ known, result, ?_⟩
  refine (fails ⟨2, by decide, "1$\x7bz\x7d", ?_, ?_⟩).mpr ?_
  all_goals decide +kernel

end CommandScript
