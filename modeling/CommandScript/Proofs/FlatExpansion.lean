import CommandScript.Proofs.NestedReferences
import CommandScript.Proofs.Passes

/-!
# Flat registries

Where no value holds a dollar sign or a brace and none is empty, a value neither brings in a
reference nor closes one. New references come from the enclosing ones only, once those inside
have been replaced, so a pass replaces the innermost references of a text and leaves its nesting
otherwise as it is. As many passes as references stand in one another expand a text completely.
-/

namespace CommandScript

namespace Registry

/-- No value is empty, and none holds a dollar sign or a brace. -/
def Flat (registry : Registry) : Prop :=
  ∀ table ∈ registry.entries, ∀ entry ∈ table.2.entries,
    entry.2 ≠ [] ∧ ∀ c ∈ entry.2, inReference c

instance (registry : Registry) : Decidable registry.Flat :=
  decidable_of_iff
    ((registry.entries.all fun table => table.2.entries.all fun entry =>
      !entry.2.isEmpty && entry.2.all inReference) = true)
    (by simp [Flat])

def value? (registry : Registry) (inside : Text) : Option Text :=
  if IsReferenceName inside then registry.lookup inside else none

variable {registry : Registry} {name value inside : Text}

theorem value?_eq_some_iff :
    registry.value? inside = some value ↔
      IsReferenceName inside ∧ registry.lookup inside = some value := by
  by_cases named : IsReferenceName inside <;> simp [value?, named]

theorem Flat.of_lookup (flat : registry.Flat) (found : registry.lookup name = some value) :
    value ≠ [] ∧ ∀ c ∈ value, inReference c := by
  obtain ⟨table, hmem, hfind⟩ := List.exists_of_findSome?_eq_some found
  obtain ⟨entry, hentry, rfl⟩ := Option.map_eq_some_iff.mp hfind
  exact flat table hmem entry (List.mem_of_find?_eq_some hentry)

end Registry

namespace Nest

open Registry (value?_eq_some_iff)

/-- The row with its references expanded from the inside out: a reference becomes the value of
what is inside it when that has been expanded. One that has no value stays, with what is expanded
inside. -/
def expanded (registry : Registry) : Nest → Text
  | nil => []
  | plain c rest => c :: rest.expanded registry
  | reference inside rest =>
    let name := inside.expanded registry
    (registry.value? name).getD (Piece.reference name).written ++ rest.expanded registry

/-- The row behind one pass: references that have a value are replaced, and where one has none,
those inside it. -/
def step (registry : Registry) : Nest → Nest
  | nil => nil
  | plain c rest => plain c (rest.step registry)
  | reference inside rest =>
    match registry.value? inside.written with
    | some value => chars value (rest.step registry)
    | none => reference (inside.step registry) (rest.step registry)

def replaced (registry : Registry) (inside : Nest) : Text :=
  (registry.value? inside.written).getD (Piece.reference (inside.step registry).written).written

section

variable {registry : Registry} {n inside rest : Nest} {t name : Text}

theorem written_step_reference :
    ((reference inside rest).step registry).written =
      inside.replaced registry ++ (rest.step registry).written := by
  simp only [step, replaced]
  cases registry.value? inside.written <;> simp [written]

/-- A row of characters in which nothing opens or closes stays as it is. -/
theorem step_of_inside (h : ∀ c ∈ n.written, inReference c) : n.step registry = n := by
  induction n with
  | nil => rfl
  | plain c rest ih => rw [step, ih (List.forall_mem_cons.mp h).2]
  | reference inside rest =>
    have dollar : inReference '$' := h '$' (by simp [written, Piece.written])
    exact absurd dollar (by decide)

/-! ### A pass over a row -/

/-- The closing brace behind a closed row answers no opening in it. -/
theorem eq_of_closed (h : n.Closed) (within : ∀ c ∈ name, inReference c) {behind : Text}
    (same : name ++ '\x7d' :: behind = n.written ++ '\x7d' :: t) : name = n.written := by
  induction n generalizing name with
  | nil =>
    cases name with
    | nil => rfl
    | cons c name =>
      obtain rfl : c = '\x7d' := (List.cons.inj same).1
      exact absurd (within _ List.mem_cons_self) (by decide)
  | plain d n ih =>
    cases name with
    | nil => exact absurd (List.cons.inj same).1.symm h.1
    | cons c name =>
      obtain ⟨rfl, rest⟩ := List.cons.inj same
      rw [ih h.2.2 (List.forall_mem_cons.mp within).2 rest]
      rfl
  | reference inside n =>
    rw [written, List.append_assoc, Piece.written_reference] at same
    cases name with
    | nil => exact absurd (List.cons.inj same).1 (by decide)
    | cons c name =>
      obtain rfl : c = '$' := (List.cons.inj same).1
      exact absurd (within _ List.mem_cons_self) (by decide)

/-- A row without a closing brace of its own answers no opening in front of it. -/
theorem ne_of_unclosing (h : n.Unclosing) (within : ∀ c ∈ name, inReference c) {behind : Text} :
    name ++ '\x7d' :: behind ≠ n.written := by
  induction n generalizing name with
  | nil => simp [written]
  | plain d n ih =>
    intro same
    cases name with
    | nil => exact h.1 (List.cons.inj same).1.symm
    | cons c name => exact ih h.2 (List.forall_mem_cons.mp within).2 (List.cons.inj same).2
  | reference inside n =>
    intro same
    rw [written, Piece.written_reference] at same
    cases name with
    | nil => exact absurd (List.cons.inj same).1 (by decide)
    | cons c name =>
      obtain rfl : c = '$' := (List.cons.inj same).1
      exact absurd (within _ List.mem_cons_self) (by decide)

theorem leading?_eq_none {c : Char} (noOpening : c = '$' → t.head? ≠ some '\x7b') :
    Piece.leading? (c :: t) = none := by
  by_contra some
  obtain ⟨name, found⟩ := Option.ne_none_iff_exists'.mp some
  obtain ⟨-, behind, whole⟩ := Piece.leading?_eq_some_iff.mp found
  rw [Piece.written_reference] at whole
  obtain ⟨dollar, tail⟩ := List.cons.inj whole
  exact noOpening dollar.symm (by rw [← tail]; rfl)

/-- A pass over a reference without a value passes over what is inside. -/
theorem substitute_unvalued (h : inside.Closed) (none : registry.value? inside.written = none)
    (inner : registry.substitute (inside.written ++ '\x7d' :: t) =
      (inside.step registry).written ++ registry.substitute ('\x7d' :: t)) :
    registry.substitute ((Piece.reference inside.written).written ++ t) =
      (Piece.reference (inside.step registry).written).written ++ registry.substitute t := by
  have brace : registry.substitute ('\x7d' :: t) = '\x7d' :: registry.substitute t :=
    registry.substitute_cons (leading?_eq_none fun h => absurd h (by decide))
  by_cases named : IsReferenceName inside.written
  · have unknown : registry.lookup inside.written = Option.none := by
      simpa [Registry.value?, named] using none
    rw [registry.substitute_written named, Registry.replacement, unknown,
      step_of_inside named.inside]
    rfl
  · have noReference :
        Piece.leading? ((Piece.reference inside.written).written ++ t) = Option.none := by
      by_contra some
      obtain ⟨name, found⟩ := Option.ne_none_iff_exists'.mp some
      obtain ⟨hname, behind, whole⟩ := Piece.leading?_eq_some_iff.mp found
      rw [Piece.written_reference, Piece.written_reference] at whole
      have same := (List.cons.inj (List.cons.inj whole).2).2
      rw [eq_of_closed h hname.inside same] at hname
      exact named hname
    have opening : registry.substitute ('\x7b' :: (inside.written ++ '\x7d' :: t)) =
        '\x7b' :: registry.substitute (inside.written ++ '\x7d' :: t) :=
      registry.substitute_cons (leading?_eq_none fun h => absurd h (by decide))
    rw [Piece.written_reference] at noReference ⊢
    rw [registry.substitute_cons noReference, opening, inner, brace, Piece.written_reference]

theorem substitute_reference (h : inside.Closed)
    (inner : registry.substitute (inside.written ++ '\x7d' :: t) =
      (inside.step registry).written ++ registry.substitute ('\x7d' :: t)) :
    registry.substitute ((Piece.reference inside.written).written ++ t) =
      inside.replaced registry ++ registry.substitute t := by
  cases found : registry.value? inside.written with
  | some value =>
    obtain ⟨named, known⟩ := value?_eq_some_iff.mp found
    rw [registry.substitute_written named, Registry.replacement, known, replaced, found]
    rfl
  | none => rw [substitute_unvalued h found inner, replaced, found, Option.getD_none]

/-- A pass over a closed row does not look beyond it. -/
theorem substitute_closed (h : n.Closed) (apart : t.head? ≠ some '\x7b') :
    registry.substitute (n.written ++ t) = (n.step registry).written ++ registry.substitute t := by
  induction n generalizing t with
  | nil => rfl
  | plain c n ih =>
    obtain ⟨-, noOpening, closed⟩ := h
    have next : c = '$' → (n.written ++ t).head? ≠ some '\x7b' := by
      intro dollar
      cases hn : n.written with
      | nil => exact apart
      | cons d u => simpa [hn] using noOpening dollar
    rw [written, List.cons_append, registry.substitute_cons (leading?_eq_none next),
      ih closed apart]
    rfl
  | reference inside n ihInside ih =>
    have inner := ihInside h.1 (t := '\x7d' :: (n.written ++ t)) (by simp)
    rw [written, List.append_assoc, substitute_reference h.1 inner, ih h.2 apart,
      written_step_reference, List.append_assoc]

/-- A pass over a text is a step of its row. -/
theorem substitute_tidy (h : n.Tidy) :
    registry.substitute n.written = (n.step registry).written := by
  induction n with
  | nil => rfl
  | plain c n ih =>
    have noReference : Piece.leading? (c :: n.written) = none := by
      by_contra some
      obtain ⟨name, found⟩ := Option.ne_none_iff_exists'.mp some
      obtain ⟨named, behind, whole⟩ := Piece.leading?_eq_some_iff.mp found
      rw [Piece.written_reference] at whole
      obtain ⟨dollar, tail⟩ := List.cons.inj whole
      have unclosing : n.Unclosing := h.1 dollar.symm (by rw [← tail]; rfl)
      -- The opening brace is a character of the row, since a reference begins with a dollar sign.
      cases n with
      | nil => cases tail
      | plain d n => exact ne_of_unclosing unclosing.2 named.inside (List.cons.inj tail).2
      | reference inside n =>
        rw [written, Piece.written_reference] at tail
        exact absurd (List.cons.inj tail).1 (by decide)
    rw [written, registry.substitute_cons noReference, ih h.2]
    rfl
  | reference inside n _ ih =>
    have inner := @substitute_closed registry inside ('\x7d' :: n.written) h.1 (by simp)
    rw [written, substitute_reference h.1 inner, ih h.2, written_step_reference]

/-! ### What a pass keeps -/

theorem head_step (flat : registry.Flat) (h : (n.step registry).written.head? = some '\x7b') :
    n.written.head? = some '\x7b' := by
  cases n with
  | nil => exact h
  | plain c n => exact h
  | reference inside n =>
    rw [written_step_reference, replaced] at h
    cases found : registry.value? inside.written with
    | none => simp [found, Piece.written] at h
    | some value =>
      obtain ⟨nonempty, within⟩ := flat.of_lookup (value?_eq_some_iff.mp found).2
      obtain ⟨c, tail, rfl⟩ := List.exists_cons_of_ne_nil nonempty
      obtain rfl : c = '\x7b' := by simpa [found] using h
      exact absurd (within _ List.mem_cons_self) (by decide)

theorem unclosing_chars (within : ∀ c ∈ t, inReference c) (h : n.Unclosing) :
    (chars t n).Unclosing := by
  induction t with
  | nil => exact h
  | cons c t ih =>
    obtain ⟨here, later⟩ := List.forall_mem_cons.mp within
    exact ⟨by rintro rfl; exact absurd here (by decide), ih later⟩

theorem closed_chars (within : ∀ c ∈ t, inReference c) (h : n.Closed) : (chars t n).Closed := by
  induction t with
  | nil => exact h
  | cons c t ih =>
    obtain ⟨here, later⟩ := List.forall_mem_cons.mp within
    refine ⟨by rintro rfl; exact absurd here (by decide), ?_, ih later⟩
    rintro rfl
    exact absurd here (by decide)

theorem tidy_chars (within : ∀ c ∈ t, inReference c) (h : n.Tidy) : (chars t n).Tidy := by
  induction t with
  | nil => exact h
  | cons c t ih =>
    obtain ⟨here, later⟩ := List.forall_mem_cons.mp within
    refine ⟨?_, ih later⟩
    rintro rfl
    exact absurd here (by decide)

theorem Unclosing.step (flat : registry.Flat) (h : n.Unclosing) :
    (n.step registry).Unclosing := by
  induction n with
  | nil => trivial
  | plain c n ih => exact ⟨h.1, ih h.2⟩
  | reference inside n _ ih =>
    simp only [Nest.step]
    cases found : registry.value? inside.written with
    | none => exact ih h
    | some value => exact unclosing_chars (flat.of_lookup (value?_eq_some_iff.mp found).2).2 (ih h)

theorem Closed.step (flat : registry.Flat) (h : n.Closed) : (n.step registry).Closed := by
  induction n with
  | nil => trivial
  | plain c n ih =>
    obtain ⟨noBrace, noOpening, closed⟩ := h
    exact ⟨noBrace, fun dollar opens => noOpening dollar (head_step flat opens), ih closed⟩
  | reference inside n ihInside ih =>
    simp only [Nest.step]
    cases found : registry.value? inside.written with
    | none => exact ⟨ihInside h.1, ih h.2⟩
    | some value => exact closed_chars (flat.of_lookup (value?_eq_some_iff.mp found).2).2 (ih h.2)

theorem Tidy.step (flat : registry.Flat) (h : n.Tidy) : (n.step registry).Tidy := by
  induction n with
  | nil => trivial
  | plain c n ih =>
    exact ⟨fun dollar opens => (h.1 dollar (head_step flat opens)).step flat, ih h.2⟩
  | reference inside n _ ih =>
    simp only [Nest.step]
    cases found : registry.value? inside.written with
    | none => exact ⟨h.1.step flat, ih h.2⟩
    | some value => exact tidy_chars (flat.of_lookup (value?_eq_some_iff.mp found).2).2 (ih h.2)

theorem substituted_tidy (flat : registry.Flat) (h : n.Tidy) (k : Nat) :
    registry.substituted k n.written = ((Nest.step registry)^[k] n).written := by
  induction k generalizing n with
  | zero => rfl
  | succ k ih =>
    rw [Registry.substituted_succ, substitute_tidy h, ih (h.step flat), Function.iterate_succ_apply]

/-! ### How many passes a row needs -/

theorem iterate_step_plain (c : Char) (n : Nest) (k : Nat) :
    (step registry)^[k] (plain c n) = plain c ((step registry)^[k] n) := by
  induction k generalizing n with
  | zero => rfl
  | succ k ih => rw [Function.iterate_succ_apply, Function.iterate_succ_apply, step, ih]

theorem iterate_step_chars (t : Text) (n : Nest) (k : Nat) :
    (step registry)^[k] (chars t n) = chars t ((step registry)^[k] n) := by
  induction t with
  | nil => rfl
  | cons c t ih => rw [chars, iterate_step_plain, ih, chars]

/-- A reference is replaced behind the passes over what is inside it. -/
theorem written_iterate_reference (inside rest : Nest) (k : Nat) :
    ((step registry)^[k + 1] (reference inside rest)).written =
      ((step registry)^[k] inside).replaced registry ++
        ((step registry)^[k + 1] rest).written := by
  induction k generalizing inside rest with
  | zero => exact written_step_reference
  | succ k ih =>
    rw [Function.iterate_succ_apply, Function.iterate_succ_apply (n := k + 1) (x := rest)]
    cases found : registry.value? inside.written with
    | none =>
      rw [step, found]
      simp only
      rw [ih, Function.iterate_succ_apply (n := k) (x := inside)]
    | some value =>
      have stays : step registry inside = inside :=
        step_of_inside (value?_eq_some_iff.mp found).1.inside
      rw [step, found]
      simp only
      rw [iterate_step_chars, written_chars, Function.iterate_fixed stays, replaced, found]
      rfl

/-- As many passes as references stand in one another expand a row from the inside out. -/
theorem written_iterate_step {n : Nest} {k : Nat} (enough : n.depth ≤ k) :
    ((step registry)^[k] n).written = n.expanded registry := by
  induction n generalizing k with
  | nil => rw [Function.iterate_fixed rfl]; rfl
  | plain c n ih => rw [iterate_step_plain, written, ih enough, expanded]
  | reference inside n ihInside ih =>
    obtain ⟨deeper, later⟩ := Nat.max_le.mp enough
    obtain ⟨k, rfl⟩ := Nat.exists_eq_add_one_of_ne_zero (Nat.ne_zero_of_lt deeper)
    have before := ihInside (Nat.le_of_succ_le_succ deeper)
    have behind := ihInside (Nat.le_of_succ_le deeper)
    rw [Function.iterate_succ_apply'] at behind
    rw [written_iterate_reference, ih later, replaced, before, behind, expanded]

end

end Nest

/-! ### Expansion -/

namespace Registry

variable {registry : Registry} {t : Text}

/-- As many passes as openings are open at once expand a text from the inside out. -/
theorem Flat.substituted (flat : registry.Flat) {n : Nest} (tidy : n.Tidy) {k : Nat}
    (enough : Nest.mostOpen 0 n.written ≤ k) :
    registry.substituted k n.written = n.expanded registry := by
  have deep := Nest.depth_le_mostOpen tidy 0
  rw [Nest.substituted_tidy flat tidy k, Nest.written_iterate_step (deep.trans enough)]

theorem Flat.count_dollar (flat : registry.Flat) {name value : Text}
    (found : registry.lookup name = some value) : value.count '$' = 0 :=
  List.count_eq_zero.mpr fun mem => absurd ((flat.of_lookup found).2 _ mem) (by decide)

theorem Flat.count_substitute_le (flat : registry.Flat) (t : Text) :
    (registry.substitute t).count '$' ≤ t.count '$' := by
  induction t using Piece.text_induction with
  | nil => exact le_rfl
  | plain c rest none ih =>
    rw [registry.substitute_cons none, List.count_cons, List.count_cons]
    omega
  | reference name rest named ih =>
    rw [registry.substitute_written named, replacement, List.count_append, List.count_append]
    cases found : registry.lookup name with
    | none =>
      rw [Option.getD_none]
      omega
    | some value =>
      have plain := flat.count_dollar found
      rw [Option.getD_some]
      omega

/-- A text that a pass leaves as it is holds no defined reference. -/
theorem Flat.isExpanded (flat : registry.Flat) (stable : registry.substitute t = t) :
    registry.IsExpanded t := by
  intro o
  by_contra known
  obtain ⟨value, found⟩ := Option.ne_none_iff_exists'.mp known
  -- The pass takes the dollar sign of the reference away and brings none in.
  have fewer : (registry.substitute t).count '$' < t.count '$' := by
    have plain := flat.count_dollar found
    have dollar : 0 < (Piece.reference o.name).written.count '$' :=
      List.count_pos_iff.mpr (by simp [Piece.written])
    have front := flat.count_substitute_le o.before
    have back := flat.count_substitute_le o.behind
    have whole : t.count '$' = o.before.count '$' +
        ((Piece.reference o.name).written.count '$' + o.behind.count '$') := by
      rw [← List.count_append, ← List.count_append, ← o.whole]
    rw [registry.substitute_occurrence o, replacement, found, Option.getD_some,
      List.count_append, List.count_append]
    omega
  rw [stable] at fewer
  exact lt_irrefl _ fewer

end Registry

namespace Expander

/-- How many passes of a run change the text. -/
def changes (e : Expander) (registry : Registry) : Nat → Text → Nat
  | 0, _ => 0
  | n + 1, t =>
    match e.pass registry t with
    | .error _ => 0
    | .ok u => if u = t then 0 else e.changes registry n u + 1

variable {registry : Registry} {e : Expander}

/-- Passes that change nothing are not counted. -/
theorem changes_le (lenient : e.strict = false) {d : Nat} {t : Text}
    (stable : ∀ k, d ≤ k → registry.substituted (k + 1) t = registry.substituted k t) (n : Nat) :
    e.changes registry n t ≤ d := by
  induction n generalizing d t with
  | zero => exact Nat.zero_le d
  | succ n ih =>
    simp only [changes, pass_eq (.inl lenient)]
    split
    · exact Nat.zero_le d
    · rename_i changed
      cases d with
      | zero => exact absurd (stable 0 le_rfl) changed
      | succ d => exact Nat.succ_le_succ (ih fun k later => stable (k + 1) (Nat.succ_le_succ later))

end Expander

/-- **Flat registries are expanded completely.** Where at most as many openings of a text are open
at once as there are passes, expansion gives what the row of references in references that the text
is written as comes to when they are expanded from the inside out. It holds no defined reference,
no expansion changes it again, more passes give the same text, and no more passes change the text
than openings are open at once. -/
theorem flat_registry_expands_completely {registry : Registry} (flat : registry.Flat)
    {e : Expander} (lenient : e.strict = false) {t : Text}
    (fits : Nest.mostOpen 0 t ≤ e.passes) :
    ∃ u, e.expand registry t = .ok u ∧ registry.IsExpanded u ∧
      (∀ n, { e with passes := n }.expand registry u = .ok u) ∧
      (∀ n, e.passes ≤ n → { e with passes := n }.expand registry t = .ok u) ∧
      (Nest.ofText t).Tidy ∧ (Nest.ofText t).written = t ∧
      (∀ n : Nest, n.Tidy → n.written = t → u = n.expanded registry) ∧
      e.changes registry e.passes t ≤ Nest.mostOpen 0 t := by
  have complete {n : Nest} (tidy : n.Tidy) (whole : n.written = t) {k : Nat}
      (enough : Nest.mostOpen 0 t ≤ k) : registry.substituted k t = n.expanded registry := by
    subst whole
    exact flat.substituted tidy enough
  have tidy := Nest.tidy_ofText t
  have whole := Nest.written_ofText t
  have stable (k : Nat) (enough : Nest.mostOpen 0 t ≤ k) :
      registry.substituted (k + 1) t = registry.substituted k t := by
    rw [complete tidy whole enough, complete tidy whole (Nat.le_succ_of_le enough)]
  have still : registry.substitute (registry.substituted e.passes t) =
      registry.substituted e.passes t := by
    have last := stable _ fits
    rwa [Registry.substituted_succ'] at last
  have gives (n : Nat) (u : Text) :
      { e with passes := n }.expand registry u = .ok (registry.substituted n u) :=
    Expander.run_eq (.inl lenient)
  refine ⟨registry.substituted e.passes t, gives e.passes t, flat.isExpanded still, ?_, ?_, tidy,
    whole, ?_, Expander.changes_le lenient stable _⟩
  · intro n
    rw [gives]
    exact congrArg Except.ok (Function.iterate_fixed still n)
  · intro n more
    rw [gives, complete tidy whole (fits.trans more), complete tidy whole fits]
  · intro n tidy' whole'
    exact complete tidy' whole' fits

/-- A name that comes about in two passes, beside a reference without a value around one that has
a value, an opening without an answer and a closing brace without one. -/
theorem flat_registry_expands_completely_nested :
    let registry : Registry := ⟨[("G", ⟨[("a", "b"), ("xb", "c")]⟩), ("H", ⟨[("c", "?@\n")]⟩)]⟩
    let e : Expander := { passes := 3 }
    let t : Text := "\x7d$\x7b$\x7bx$\x7ba\x7d\x7d\x7d$\x7bu$\x7ba\x7d\x7d$\x7b$\x7ba\x7d"
    let u : Text := "\x7d?@\n$\x7bub\x7d$\x7bb"
    registry.Flat ∧ e.strict = false ∧ Nest.mostOpen 0 t ≤ e.passes ∧
      e.expand registry t = .ok u ∧ registry.IsExpanded u ∧
      u = (Nest.ofText t).expanded registry ∧ e.changes registry e.passes t = 3 := by
  intro registry e t u
  have flat : registry.Flat := by decide +kernel
  have fits : Nest.mostOpen 0 t ≤ e.passes := by decide +kernel
  have result : e.expand registry t = .ok u := by decide +kernel
  obtain ⟨v, hv, expanded, -, -, tidy, whole, nested, -⟩ :=
    flat_registry_expands_completely flat (e := e) rfl fits
  obtain rfl : v = u := Except.ok.inj (hv.symm.trans result)
  exact ⟨flat, rfl, fits, result, expanded, nested _ tidy whole, by decide +kernel⟩

end CommandScript
