import Mathlib.Logic.Relation
import CommandScript.Proofs.Expansion
import CommandScript.Proofs.Passes

/-!
# Confluent expansion

One step replaces one reference by its value, at any place of a text. A value may bring in the
parts of a reference or a whole one, also one that leads back; still the order of the steps does
not matter: two different steps from one text go on to a common text in one step each, because
neither touches the reference of the other. A pass is a row of such steps, so where expansion
leaves no defined reference, it has found the only text without any that steps lead to.
-/

namespace CommandScript

namespace Registry

/-- One reference that a table defines is replaced by its value. -/
def Rewrites (registry : Registry) (t u : Text) : Prop :=
  ∃ (o : Occurrence t) (value : Text), registry.lookup o.name = some value ∧
    u = o.replacedBy value

/-- References are replaced one after the other, in any order and any number. -/
abbrev RewritesTo (registry : Registry) : Text → Text → Prop :=
  Relation.ReflTransGen registry.Rewrites

section

variable {registry : Registry} {t u v name value : Text}

/-! ### One step -/

theorem rewrites_written (named : IsReferenceName name) (found : registry.lookup name = some value)
    (before behind : Text) :
    registry.Rewrites (before ++ ((Piece.reference name).written ++ behind))
      (before ++ (value ++ behind)) :=
  ⟨⟨before, name, behind, named, rfl⟩, value, found, rfl⟩

theorem Rewrites.append_left (h : registry.Rewrites t u) (front : Text) :
    registry.Rewrites (front ++ t) (front ++ u) := by
  obtain ⟨o, value, found, rfl⟩ := h
  have step := rewrites_written o.named found (front ++ o.before) o.behind
  rwa [List.append_assoc, ← o.whole, List.append_assoc] at step

/-- Two references are replaced in either order. -/
theorem rewrites_both {o p : Occurrence t} {between x y : Text} (h : o.Precedes p between)
    (hx : registry.lookup o.name = some x) (hy : registry.lookup p.name = some y) :
    ∃ w, registry.Rewrites (o.replacedBy x) w ∧ registry.Rewrites (p.replacedBy y) w := by
  obtain ⟨before, behind⟩ := h
  refine ⟨o.before ++ (x ++ (between ++ (y ++ p.behind))), ?_, ?_⟩
  · have step := rewrites_written p.named hy (o.before ++ (x ++ between)) p.behind
    simpa only [Occurrence.replacedBy, behind, List.append_assoc] using step
  · have step := rewrites_written o.named hx o.before (between ++ (y ++ p.behind))
    simpa only [Occurrence.replacedBy, before, List.append_assoc] using step

/-- Different steps from one text go on to a common text. -/
theorem Rewrites.diamond (h : registry.Rewrites t u) (h' : registry.Rewrites t v) (other : u ≠ v) :
    ∃ w, registry.Rewrites u w ∧ registry.Rewrites v w := by
  obtain ⟨o, x, hx, rfl⟩ := h
  obtain ⟨p, y, hy, rfl⟩ := h'
  rcases o.eq_or_precedes p with rfl | ⟨between, precedes⟩ | ⟨between, precedes⟩
  · obtain rfl : x = y := Option.some.inj (hx.symm.trans hy)
    exact absurd rfl other
  · exact rewrites_both precedes hx hy
  · obtain ⟨w, hv, hu⟩ := rewrites_both precedes hy hx
    exact ⟨w, hu, hv⟩

/-! ### Many steps -/

theorem RewritesTo.append_left (h : registry.RewritesTo t u) (front : Text) :
    registry.RewritesTo (front ++ t) (front ++ u) :=
  h.lift (front ++ ·) fun _ _ step => step.append_left front

/-- Whatever two rows of steps lead to can be led on to a common text. -/
theorem confluent (h : registry.RewritesTo t u) (h' : registry.RewritesTo t v) :
    ∃ w, registry.RewritesTo u w ∧ registry.RewritesTo v w := by
  refine Relation.church_rosser (fun t u v hu hv => ?_) h h'
  by_cases same : u = v
  · subst same
    exact ⟨u, .refl, .refl⟩
  · obtain ⟨w, hu, hv⟩ := hu.diamond hv same
    exact ⟨w, .single hu, .single hv⟩

/-- No step leads on from a text without defined references. -/
theorem IsExpanded.eq (h : registry.IsExpanded t) (steps : registry.RewritesTo t u) : u = t := by
  rcases steps.cases_head with same | ⟨v, ⟨o, value, found, -⟩, -⟩
  · exact same.symm
  · rw [h o] at found
    cases found

/-- Steps lead to one text at most that holds no defined reference. -/
theorem IsExpanded.unique (hu : registry.IsExpanded u) (hv : registry.IsExpanded v)
    (toU : registry.RewritesTo t u) (toV : registry.RewritesTo t v) : u = v := by
  obtain ⟨w, uw, vw⟩ := confluent toU toV
  rw [← hu.eq uw, hv.eq vw]

/-! ### Passes and runs -/

/-- A pass is a row of steps, one for each defined reference of the text. -/
theorem rewritesTo_substitute (t : Text) : registry.RewritesTo t (registry.substitute t) := by
  induction t using Piece.text_induction with
  | nil => exact .refl
  | reference name rest named ih =>
    rw [substitute_written _ named]
    have back (front : Text) := RewritesTo.append_left ih front
    cases found : registry.lookup name with
    | none =>
      rw [replacement, found]
      exact back (Piece.reference name).written
    | some value =>
      rw [replacement, found]
      exact (back value).head (rewrites_written named found [] rest)
  | plain c rest none ih =>
    rw [substitute_cons _ none]
    exact ih.append_left [c]

theorem rewritesTo_substituted (n : Nat) (t : Text) :
    registry.RewritesTo t (registry.substituted n t) := by
  induction n with
  | zero => exact .refl
  | succ n ih =>
    rw [substituted_succ']
    exact ih.trans (rewritesTo_substitute _)

end

end Registry

open Registry

/-- **Expansion does not depend on the order of replacement.** References do not overlap; two
different steps from one text go on to a common text in one step each; a pass is a row of steps;
and where the expanded text holds no defined reference, every row of steps that ends in a text
without any ends in that text. -/
theorem expansion_is_confluent (registry : Registry) {e : Expander} (lenient : e.strict = false)
    (t : Text) :
    (∀ o p : Occurrence t, o = p ∨ o.stop ≤ p.start ∨ p.stop ≤ o.start) ∧
    (∀ u v, registry.Rewrites t u → registry.Rewrites t v → u ≠ v →
      ∃ w, registry.Rewrites u w ∧ registry.Rewrites v w) ∧
    (∃ u, e.pass registry t = .ok u ∧ registry.RewritesTo t u) ∧
    ∃ u, e.expand registry t = .ok u ∧ registry.RewritesTo t u ∧
      (registry.IsExpanded u →
        ∀ v, registry.RewritesTo t v → registry.IsExpanded v → v = u) := by
  refine ⟨Occurrence.apart, fun u v hu hv => hu.diamond hv, ?_, ?_⟩
  · exact ⟨registry.substitute t, Expander.pass_eq (.inl lenient), rewritesTo_substitute t⟩
  · refine ⟨registry.substituted e.passes t, Expander.run_eq (.inl lenient),
      rewritesTo_substituted e.passes t, fun expanded v steps done => ?_⟩
    exact done.unique expanded steps (rewritesTo_substituted e.passes t)

/-- The values of two neighbours make up a reference to a third name, beside a definition that
leads back to itself. -/
theorem expansion_is_confluent_joined :
    let registry : Registry := ⟨[("G", ⟨[("d", "$\x7bd\x7d"), ("a", "$"), ("b", "\x7bc\x7d")]⟩),
      ("H", ⟨[("c", "x")]⟩)]⟩
    let e : Expander := {}
    let t : Text := "$\x7ba\x7d$\x7bb\x7d"
    let u : Text := "$$\x7bb\x7d"
    let v : Text := "$\x7ba\x7d\x7bc\x7d"
    e.strict = false ∧ registry.Rewrites t u ∧ registry.Rewrites t v ∧ u ≠ v ∧
      (∃ w, registry.Rewrites u w ∧ registry.Rewrites v w) ∧
      e.expand registry t = .ok ['x'] ∧ registry.IsExpanded ['x'] ∧
      ∀ w, registry.RewritesTo t w → registry.IsExpanded w → w = ['x'] := by
  intro registry e t u v
  have hu : registry.Rewrites t u :=
    @rewrites_written registry "a" "$" (by decide) rfl [] "$\x7bb\x7d"
  have hv : registry.Rewrites t v :=
    @rewrites_written registry "b" "\x7bc\x7d" (by decide) rfl "$\x7ba\x7d" []
  have different : u ≠ v := by decide
  have result : e.expand registry t = .ok ['x'] := by decide +kernel
  have expanded : registry.IsExpanded ['x'] := by decide +kernel
  obtain ⟨-, diamond, -, w, hw, -, only⟩ := expansion_is_confluent registry (e := e) rfl t
  obtain rfl : w = ['x'] := Except.ok.inj (hw.symm.trans result)
  exact ⟨rfl, hu, hv, different, diamond u v hu hv different, result, expanded, only expanded⟩

end CommandScript
