import CommandScript.Proofs.Walk

/-!
# More depth

A walk stops where sources nest deeper than its bound. A walk that never stops there does
not notice the bound: with more depth it is the same walk. So a walk that does not end
with that error is the walk of the recursion without any bound.
-/

namespace CommandScript

namespace Act

variable {σ α β : Type}

/-- The second action does what the first does, unless that one nests too deep. -/
def Deeper (x x' : Act σ α) : Prop := ∀ s, (x s).result ≠ .error .tooDeep → x' s = x s

namespace Deeper

variable {x x' : Act σ α} {f f' : α → Act σ β}

protected theorem rfl : Deeper x x := fun _ _ => Eq.refl _

theorem bind (hx : Deeper x x') (hf : ∀ a, Deeper (f a) (f' a)) :
    Deeper (x >>= f) (x' >>= f') := by
  intro s h
  have first := hx s
  simp only [bind_apply] at h ⊢
  generalize x s = o at h first
  obtain ⟨e | a, t, events⟩ := o
  · rw [first fun deep => h (by cases deep; rfl)]
  · rw [first (by rintro ⟨⟩)]
    exact congrArg (Outcome.after events) (hf a t h)

/-- An action whose error is handled is still too deep, if its handler says so. -/
theorem attempt_bind {f : Except Error α → Act σ β} (hx : Deeper x x')
    (hf : ∀ t, (f (.error .tooDeep) t).result = .error .tooDeep) :
    Deeper (attempt x >>= f) (attempt x' >>= f) := by
  intro s h
  have inner : (x s).result ≠ .error .tooDeep := by
    intro deep
    refine h ?_
    simp only [bind_apply, attempt_apply, deep, Outcome.result_after]
    exact hf _
  simp only [bind_apply, attempt_apply, hx s inner]

end Deeper

end Act

open Act

section

variable {resources : Resources} {settings : Settings} {load load' : Text → Act Store Table}

theorem deeper_executeProperties (hload : ∀ reference, Deeper (load reference) (load' reference))
    (place label reference : Text) :
    Deeper (executeProperties settings load place label reference)
      (executeProperties settings load' place label reference) := by
  refine .bind .rfl fun label => .bind .rfl fun u => ?_
  refine .bind (.attempt_bind (hload _) fun t => rfl) fun values => .rfl

theorem deeper_executeLine (hload : ∀ reference, Deeper (load reference) (load' reference))
    (place : Text) (line : Line) :
    Deeper (executeLine resources settings load place line)
      (executeLine resources settings load' place line) := by
  refine .bind .rfl fun _ => .bind .rfl fun _ => ?_
  cases settings.kind.builtin? (withoutEcho line.text) with
  | none => exact .rfl
  | some builtin =>
    cases builtin with
    | properties label reference => exact deeper_executeProperties hload place label reference
    | _ => exact .rfl

def Walked.Deeper (w w' : Walked) : Prop := w.fault ≠ some .tooDeep → w' = w

theorem deeper_andThen {w w' : Walked} {next next' : Store → Walked} (hw : w.Deeper w')
    (hnext : ∀ s, (next s).Deeper (next' s)) : (w.andThen next).Deeper (w'.andThen next') := by
  intro h
  obtain ⟨lines, _ | e, s, events⟩ := w
  · rw [hw (by rintro ⟨⟩)]
    have more := hnext s h
    simp only [Walked.andThen, more]
  · rw [hw h]
    rfl

theorem deeper_walkLine {site : Site} {visit visit' : Text → Frame → Store → Walked}
    (hload : ∀ reference, Deeper (load reference) (load' reference))
    (hvisit : ∀ place g s, (visit place g s).Deeper (visit' place g s))
    (name : Text) (line : Line) (s : Store) :
    (walkLine resources site load visit name line s).Deeper
      (walkLine resources site load' visit' name line s) := by
  intro h
  have exec : (executeLine resources site.settings load (line.place name) line s).result ≠
      .error .tooDeep → executeLine resources site.settings load' (line.place name) line s =
        executeLine resources site.settings load (line.place name) line s :=
    deeper_executeLine hload (line.place name) line s
  simp only [walkLine] at h ⊢
  split
  · rw [if_pos ‹_›] at h
    generalize executeLine resources site.settings load (line.place name) line s = o at h exec ⊢
    obtain ⟨e | effect, s', events⟩ := o
    · rw [exec fun deep => h (by cases deep; rfl)]
    · rw [exec (by rintro ⟨⟩)]
      cases effect with
      | entered g =>
        have inner := hvisit (line.place name) g s' h
        simp only [inner]
      | _ => rfl
  · rfl

theorem deeper_walkLines {site : Site} {visit visit' : Text → Frame → Store → Walked}
    (hload : ∀ reference, Deeper (load reference) (load' reference))
    (hvisit : ∀ place g s, (visit place g s).Deeper (visit' place g s))
    (name : Text) (lines : List Line) (s : Store) :
    (walkLines resources site load visit name lines s).Deeper
      (walkLines resources site load' visit' name lines s) := by
  induction lines generalizing s with
  | nil => exact fun _ => rfl
  | cons line rest ih => exact deeper_andThen (deeper_walkLine hload hvisit name line s) ih

theorem deeper_loadByWalk {visit visit' : Frame → Store → Walked}
    (hvisit : ∀ g s, (visit g s).Deeper (visit' g s)) (reference : Text) :
    Deeper (loadByWalk resources settings visit reference)
      (loadByWalk resources settings visit' reference) := by
  intro s h
  simp only [loadByWalk, withOwnTarget] at h ⊢
  generalize openFrame resources settings.forRecords (.text reference)
    { s with target := ∅ } = o at h ⊢
  obtain ⟨e | g, s', events⟩ := o
  · rfl
  · have inner := hvisit g s'
    dsimp only at h ⊢
    generalize visit g s' = w at h inner ⊢
    obtain ⟨lines, _ | e, s'', more⟩ := w
    · rw [inner (by rintro ⟨⟩)]
    · rw [inner fun deep => h (by cases deep; rfl)]

/-- A walk that does not nest too deep is the same with more depth. -/
theorem deeper_walk (depth : Nat) (site : Site) (name : Text) (lines : List Line) (s : Store) :
    (walk resources depth site name lines s).Deeper
      (walk resources (depth + 1) site name lines s) := by
  induction depth generalizing site name lines s with
  | zero => exact fun h => absurd rfl h
  | succ depth ih =>
    exact deeper_walkLines (deeper_loadByWalk fun g s => ih _ _ _ s) (fun _ g s => ih _ _ _ s) name
      lines s

theorem walk_eq_of_le {depth more : Nat} {site : Site} {name : Text} {lines : List Line}
    {s : Store} (h : (walk resources depth site name lines s).fault ≠ some .tooDeep)
    (hle : depth ≤ more) :
    walk resources more site name lines s = walk resources depth site name lines s := by
  induction hle with
  | refl => rfl
  | step hle ih =>
    rw [← ih] at h ⊢
    exact deeper_walk _ site name lines s h

end

end CommandScript
