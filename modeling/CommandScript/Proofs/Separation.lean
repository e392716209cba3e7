import CommandScript.Proofs.Memory

/-!
# Separation

The walkers of a session share no cell, and no step of the session changes that. So a step
on one walker is the step that the walker would take by itself, and it leaves every other
walker as it is.
-/

namespace CommandScript

namespace Handle

open Memory (Owned)

variable {h g : Handle} {m : Memory}

/-- The walker that is written is the walker that lives there. -/
theorem read_write (ho : Owned m h.addresses) (w : Walker) :
    (h.write m w).2.read (h.write m w).1 = w := by
  have contents := Memory.read_write w.cells ho
  simp only [read, write, contents, Walker.ofCells_cells]

/-- Walkers elsewhere are left alone. -/
theorem read_write_other (hg : Owned m g.addresses) (hd : h.addresses.Disjoint g.addresses)
    (w : Walker) : g.read (h.write m w).1 = g.read m := by
  have untouched (a : Nat) (ha : a ∈ g.addresses) : (h.write m w).1[a]? = m[a]? :=
    Memory.getElem?_write (hg.bound a ha) fun hmem => hd hmem ha
  simp only [read, Memory.read_congr untouched]

theorem owned_write (ho : Owned m h.addresses) (w : Walker) :
    Owned (h.write m w).1 (h.write m w).2.addresses :=
  Memory.owned_write ho

theorem disjoint_write (hg : Owned m g.addresses) (hd : h.addresses.Disjoint g.addresses)
    (w : Walker) : (h.write m w).2.addresses.Disjoint g.addresses := by
  intro a hnew ha
  rcases Memory.mem_write hnew with hold | hfresh
  · exact hd hold ha
  · exact absurd (hg.bound a ha) (Nat.not_lt_of_le hfresh)

end Handle

namespace Session

open Memory (Owned)

/-- Every walker owns its cells, and no two walkers share one. -/
structure Separate (se : Session) : Prop where
  owned : ∀ {i : Nat} {h : Handle}, se.handles[i]? = some h → Owned se.memory h.addresses
  disjoint : ∀ {i j : Nat} {h g : Handle}, i ≠ j → se.handles[i]? = some h →
    se.handles[j]? = some g → h.addresses.Disjoint g.addresses

/-- After a step that leaves one walker as `w`, the walkers are still apart, and every
other one is as it was. -/
structure Became (se : Session) (i : Nat) (w : Walker) (after : Session) : Prop where
  separate : after.Separate
  view : after.view i = some w
  others : ∀ j, j ≠ i → after.view j = se.view j

variable {α : Type} {se after : Session} {i : Nat} {h : Handle} {w : Walker}

/-- Writing a walker over cells of its own, or over none, changes that walker only. -/
theorem became_of_write (hsep : se.Separate) (ho : Owned se.memory h.addresses)
    (hd : ∀ j g, j ≠ i → se.handles[j]? = some g → h.addresses.Disjoint g.addresses)
    (hmemory : after.memory = (h.write se.memory w).1)
    (hi : after.handles[i]? = some (h.write se.memory w).2)
    (hothers : ∀ j, j ≠ i → after.handles[j]? = se.handles[j]?) : Became se i w after := by
  have grown : se.memory.length ≤ after.memory.length := by
    rw [hmemory]
    exact Memory.length_le_write ..
  -- A handle after the step is the one just written, or one of before.
  have handle {j : Nat} {g : Handle} (hj : after.handles[j]? = some g) :
      (j = i ∧ g = (h.write se.memory w).2) ∨ (j ≠ i ∧ se.handles[j]? = some g) := by
    by_cases hij : j = i
    · subst hij
      exact Or.inl ⟨rfl, Option.some.inj (hj.symm.trans hi)⟩
    · exact Or.inr ⟨hij, (hothers j hij).symm.trans hj⟩
  have apart {j : Nat} {g : Handle} (hij : j ≠ i) (hj : se.handles[j]? = some g) :
      (h.write se.memory w).2.addresses.Disjoint g.addresses :=
    Handle.disjoint_write (hsep.owned hj) (hd j g hij hj) w
  refine ⟨⟨fun hj => ?_, fun hne hj hk => ?_⟩, ?_, fun j hij => ?_⟩
  · rcases handle hj with ⟨rfl, rfl⟩ | ⟨hij, hj⟩
    · rw [hmemory]
      exact Handle.owned_write ho w
    · exact (hsep.owned hj).mono grown
  · rcases handle hj with ⟨rfl, rfl⟩ | ⟨hij, hj'⟩
    · rcases handle hk with ⟨rfl, rfl⟩ | ⟨hik, hk'⟩
      · exact absurd rfl hne
      · exact apart hik hk'
    · rcases handle hk with ⟨rfl, rfl⟩ | ⟨hik, hk'⟩
      · exact List.disjoint_symm (apart hij hj')
      · exact hsep.disjoint hne hj' hk'
  · simp only [view, hi, hmemory, Option.map_some, Handle.read_write ho]
  · simp only [view, hothers j hij]
    cases hj : se.handles[j]? with
    | none => rfl
    | some g =>
      simp only [Option.map_some, hmemory]
      rw [Handle.read_write_other (hsep.owned hj) (hd j g hij hj)]

/-- A walker that joins is given cells of its own. -/
theorem became_join (hsep : se.Separate) (w : Walker) :
    Became se se.handles.length w (se.join w) := by
  have none (g : Handle) : ([] : List Nat).Disjoint g.addresses := List.disjoint_nil_left _
  refine became_of_write (h := ⟨w.family, []⟩) hsep (Memory.owned_nil _)
    (fun j g _ _ => none g) rfl List.getElem?_concat_length fun j hj => ?_
  show (se.handles ++ [_])[j]? = _
  rcases Nat.lt_or_gt_of_ne hj with hlt | hgt
  · exact List.getElem?_append_left hlt
  · rw [List.getElem?_eq_none (Nat.le_of_lt hgt), List.getElem?_eq_none]
    rw [List.length_append]
    exact hgt

theorem separate_empty (s : Store) : Separate { store := s } :=
  ⟨fun h => by simp at h, fun _ h => by simp at h⟩

/-- What is done with a walker of a session is what the walker does by itself. -/
structure Acts (se : Session) (i : Nat) (p : Outcome (Walker × Store) α)
    (o : Outcome Session α) : Prop where
  result : o.result = p.result
  events : o.events = p.events
  store : o.state.store = p.state.2
  became : Became se i p.state.1 o.state

theorem acts_onWalker (hsep : se.Separate) (hw : se.view i = some w) (x : Run α) :
    Acts se i (x (w, se.store)) (onWalker i x se) := by
  obtain ⟨h, hh, rfl⟩ := Option.map_eq_some_iff.mp hw
  have inside : i < se.handles.length := (List.getElem?_eq_some_iff.mp hh).1
  simp only [onWalker, hh]
  refine ⟨rfl, rfl, rfl, ?_⟩
  exact became_of_write hsep (hsep.owned hh) (fun j g hj hg => hsep.disjoint hj.symm hh hg) rfl
    (List.getElem?_set_self inside) fun j hj => List.getElem?_set_ne hj.symm

/-- A number that no walker has gives an error. -/
theorem onWalker_none (hw : se.view i = none) (x : Run α) :
    onWalker i x se = ⟨.error (.defect "no such walker"), se, []⟩ := by
  have hh : se.handles[i]? = none := Option.map_eq_none_iff.mp hw
  simp only [onWalker, hh]

theorem isSome_view (se : Session) (i : Nat) : (se.view i).isSome ↔ i < se.handles.length := by
  simp [view]

end Session

end CommandScript
