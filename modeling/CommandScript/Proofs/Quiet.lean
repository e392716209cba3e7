import CommandScript.Proofs.Conditions
import CommandScript.Proofs.Settling

/-!
# Scanners that write nothing

A scanner that only prints and includes never writes to the store, whatever it walks and
wherever it fails.
-/

namespace CommandScript

section

open Act

variable {resources : Resources} {settings : Settings} {load : Text → Act Store Table} {s : Store}

theorem Builtin.of_basic? {line : Text} {builtin : Builtin}
    (h : Builtin.basic? line = some builtin) :
    (∃ reference, builtin = .includeSource reference) ∨
      ∃ expression, builtin = .print expression := by
  revert h
  simp only [Builtin.basic?]
  cases Form.include? line <;> cases Form.print? line <;> simp +contextual [eq_comm]

theorem store_execute (hkind : settings.kind = .basic) (place : Text) {line : Text}
    {builtin : Builtin} (form : settings.kind.builtin? line = some builtin) :
    Leaves (execute resources settings load place builtin) (· = s) s := by
  have basic : Builtin.basic? line = some builtin := by
    rw [hkind] at form
    exact form
  rcases Builtin.of_basic? basic with ⟨reference, rfl⟩ | ⟨expression, rfl⟩
  · simp only [execute, wp_executeInclude]
    split
    · trivial
    · split
      · trivial
      · split <;> trivial
      · trivial
  · simp only [execute, wp_executePrint]
    split
    · trivial
    · split <;> trivial

theorem store_executeLine (hkind : settings.kind = .basic) (place : Text) (line : Line) :
    Leaves (executeLine resources settings load place line) (· = s) s := by
  rw [Leaves, executeLine, Wp.bind_iff, Wp.onlyIf_debug_iff, Wp.bind_iff, wp_surface]
  split
  · split
    · rename_i builtin form
      exact store_execute hkind place form
    · exact Eq.refl s
  · rfl

/-- Settling writes nothing. -/
theorem store_settle (hkind : settings.kind = .basic) {depth : Nat} {f : Frame}
    {included : List Frame} :
    (settle resources depth settings f included s).state.2 = s :=
  settle_preserves (R := fun s _ t => t = s) (P := fun settings => settings.kind = .basic)
    (fun _ => rfl) (fun first next => next.trans first)
    (fun _ _ hkind _ place line _ => leaves_iff.mp (store_executeLine hkind place line)) hkind

/-- Taking a line writes nothing, whatever the scanner. -/
theorem store_takeNext {f : Frame} {included : List Frame} :
    (takeNext settings f included s).state.2 = s := by
  induction included generalizing f with
  | nil =>
    cases hahead : f.cursor.ahead with
    | nil => simp only [takeNext, hahead]
    | cons line ahead =>
      simp only [takeNext, hahead]
      exact state_surface settings _ line s
  | cons g rest ih => exact ih

/-- Asking for the next line writes nothing. -/
theorem store_nextLine (hkind : settings.kind = .basic) {depth : Nat} {f : Frame}
    {included : List Frame} :
    (nextLine resources depth settings f included s).state.2 = s := by
  rw [nextLine_eq]
  have settled := @store_settle resources settings s hkind depth f included
  generalize settle resources depth settings f included s = o at settled ⊢
  obtain ⟨_ | _ | _, ⟨c, s'⟩, events⟩ := o
  · exact settled
  · exact settled
  · exact store_takeNext.trans settled

end

end CommandScript
