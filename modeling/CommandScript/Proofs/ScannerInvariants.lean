import CommandScript.Proofs.Histories
import CommandScript.Proofs.Inclusion

/-!
# Invariants of scanners

A scanner opens a source, starts over, settles, takes a line, or executes its current line again;
all else that is done with it only asks. So what holds of a scanner that has opened nothing, and
what none of these five takes away, holds of every scanner of every history.
-/

namespace CommandScript

open Act

namespace Scanner

/-- What holds of a scanner that has opened nothing, and what no scanner loses. -/
structure Lasting (resources : Resources) (P : Scanner → Prop) : Prop where
  unopened : ∀ settings, P (.new settings)
  opened : ∀ settings name raw,
    P ⟨settings, ⟨{ cursor := .opened name (settings.linesOf raw) }, []⟩⟩
  rewound : ∀ {sc}, P sc →
    P { sc with chain := { sc.chain with frame := sc.chain.frame.rewound } }
  settled : ∀ {sc}, sc.chain.Sound → P sc → ∀ s,
    P { sc with chain := (settle resources resources.depthBound sc.settings sc.chain.frame
      sc.chain.included s).state.1 }
  taken : ∀ {sc}, P sc → ∀ s,
    P { sc with chain := (takeNext sc.settings sc.chain.frame sc.chain.included s).state.1 }
  executed : ∀ {sc line builtin}, P sc → sc.chain.frame.cursor.current? = some line →
    sc.settings.kind.builtin? (withoutEcho line.text) = some builtin → ∀ load place s,
      Wp (execute resources sc.settings load place builtin)
        (fun effect _ => P { sc with chain := applyEffect effect sc.chain }) (fun _ _ => True) s

namespace Lasting

variable {resources : Resources} {P : Scanner → Prop} {sc : Scanner} {s : Store}

theorem openSource (h : Lasting resources P) (source : Source) (trim compress : Option Bool) :
    Leaves (openSource resources source trim compress) (P ·.1) (sc, s) := by
  simp only [Scanner.openSource, modifyChain, Leaves, Wp.bind_iff, Wp.modify_iff, Wp.get_iff,
    wp_openFrame]
  split
  · exact h.opened ..
  · exact h.unopened _

theorem next? (h : Lasting resources P) (sound : sc.chain.Sound) (hsc : P sc) :
    Leaves (next? resources) (P ·.1) (sc, s) := by
  have settled := h.settled sound hsc s
  rw [leaves_iff, Scanner.next?, nextLine_eq]
  generalize settle resources resources.depthBound sc.settings sc.chain.frame sc.chain.included s =
    o at settled ⊢
  obtain ⟨e | _ | _, ⟨c, s'⟩, events⟩ := o
  · exact settled
  · exact settled
  · exact h.taken settled s'

theorem next (h : Lasting resources P) (sound : sc.chain.Sound) (hsc : P sc) :
    Leaves (next resources) (P ·.1) (sc, s) := by
  refine (h.next? sound hsc).bind fun text t ht => ?_
  cases text <;> exact ht

theorem executeCurrent (h : Lasting resources P) (hsc : P sc) :
    Leaves (executeCurrent resources) (P ·.1) (sc, s) := by
  simp only [Scanner.executeCurrent, Leaves, Wp.bind_iff, Wp.get_iff]
  split
  · exact hsc
  · rename_i line taken
    split
    · exact hsc
    · split
      · exact hsc
      · rename_i builtin form
        rw [Wp.bind_iff, onStore, Wp.onSnd_iff]
        exact (h.executed hsc taken form _ _ s).mono (fun _ _ applied => applied)
          fun _ _ _ => hsc

end Lasting

end Scanner

/-! ### Walkers -/

def Walker.OfScanner (P : Scanner → Prop) : Walker → Prop
  | .scanner sc => P sc
  | _ => True

/-- The operation only asks: it does not move a scanner that stands before an ordinary line. -/
def Operation.Asks : Operation → Prop
  | .hasNext | .current | .current? | .ask _ | .expand _ | .loadTable _ | .determine _ => True
  | _ => False

namespace Run

variable {α : Type} {resources : Resources} {w : Walker} {s : Store} {P : Scanner → Prop}

theorem leaves_byFamily {sc : Scanner} {r : Act Reader α} {c : Act Classifier α}
    {x : Scanner.Scan α} (h : Leaves x (P ·.1) (sc, s)) :
    Leaves (byFamily r c x) (·.1.OfScanner P) (.scanner sc, s) :=
  leaves_iff.mpr (leaves_iff.mp h)

theorem rests_byFamily {sc : Scanner} {r : Act Reader α} {c : Act Classifier α}
    {x : Scanner.Scan α} (rests : Leaves x (·.1 = sc) (sc, s)) :
    Leaves (byFamily r c x) (·.1 = .scanner sc) (.scanner sc, s) :=
  leaves_iff.mpr (congrArg Walker.scanner (leaves_iff.mp rests))

/-- What only asks leaves a scanner as it is, if that need not settle any more. -/
theorem rests_perform (sc : Scanner) (s : Store) {op : Operation} (asks : op.Asks)
    (settled : op = .hasNext → Leaves (Scanner.hasNext resources) (·.1 = sc) (sc, s)) :
    Leaves (perform resources op) (·.1 = .scanner sc) (.scanner sc, s) := by
  cases op with
  | hasNext => exact (rests_byFamily (settled rfl)).map _
  | current => exact (rests_byFamily ((Scanner.rests_current _).of_rests rfl)).map _
  | current? => exact (rests_byFamily ((Scanner.rests_current? _).of_rests rfl)).map _
  | ask q => rfl
  | expand t => exact (rests_byFamily ((Scanner.rests_expand t _).of_rests rfl)).map _
  | loadTable reference =>
    refine (rests_byFamily ?_).map _
    rw [Leaves, Wp.bind_iff, Wp.get_iff]
    by_cases loads : sc.settings.kind.loadsTables
    · simp only [loads, if_true]
      exact leaves_iff.mpr rfl
    · simp only [loads]
      rfl
  | determine line => exact (rests_byFamily (leaves_iff.mpr rfl)).map _
  | openSource | reset | rewind | next | next? | executeCurrent => exact asks.elim

theorem lasting_scanner (h : Scanner.Lasting resources P) {sc : Scanner} (sound : sc.chain.Sound)
    (hsc : P sc) (s : Store) (op : Operation) :
    Leaves (perform resources op) (·.1.OfScanner P) (.scanner sc, s) := by
  have asked (asks : op.Asks) (other : op ≠ .hasNext) :
      Leaves (perform resources op) (·.1.OfScanner P) (.scanner sc, s) := by
    have rests : (perform resources op (.scanner sc, s)).state.1 = .scanner sc :=
      leaves_iff.mp (rests_perform sc s asks fun same => absurd same other)
    rw [leaves_iff, rests]
    exact hsc
  cases op with
  | openSource source trim compress =>
    exact (leaves_byFamily (h.openSource source trim compress)).map _
  | reset =>
    refine (leaves_byFamily ?_).map _
    exact h.unopened sc.settings
  | rewind =>
    refine (leaves_byFamily ?_).map _
    exact h.rewound hsc
  | hasNext =>
    refine (leaves_byFamily ?_).map _
    exact leaves_iff.mpr (h.settled sound hsc s)
  | next => exact (leaves_byFamily (h.next sound hsc)).map _
  | next? => exact (leaves_byFamily (h.next? sound hsc)).map _
  | executeCurrent => exact (leaves_byFamily (h.executeCurrent hsc)).map _
  | current | current? | ask | expand | loadTable | determine => exact asked trivial (by simp)

theorem lasting_perform (h : Scanner.Lasting resources P) (sound : w.Sound)
    (hw : w.OfScanner P) (s : Store) (op : Operation) :
    (perform resources op (w, s)).state.1.OfScanner P := by
  cases w with
  | scanner sc => exact leaves_iff.mp (lasting_scanner h sound hw s op)
  | reader | classifier =>
    have same := (leaves_iff.mp (kept_perform resources s op sound)).family
    revert same
    cases (perform resources op (_, s)).state.1 with
    | scanner sc => rintro ⟨⟩
    | reader | classifier => exact fun _ => trivial

end Run

/-- What lasts of scanners holds of every scanner of every history, however it got there. -/
theorem Scanner.Lasting.invariant {resources : Resources} {P : Scanner → Prop}
    (h : Lasting resources P) :
    Session.Invariant resources fun w => w.Sound ∧ w.OfScanner P where
  new options family := by
    refine ⟨Walker.sound_new options family, ?_⟩
    cases family with
    | scanner kind expander replays => exact h.unopened _
    | _ => trivial
  perform {w} := fun ⟨sound, hw⟩ s op => by
    refine ⟨?_, Run.lasting_perform h sound hw s op⟩
    exact (leaves_iff.mp (Run.kept_perform resources s op sound)).sound
  duplicate := fun ⟨sound, hw⟩ => by
    rw [sound.duplicate_eq]
    exact ⟨sound, hw⟩
  spawn {w} := fun _ => by
    refine ⟨w.sound_spawn, ?_⟩
    cases w with
    | scanner sc => exact h.unopened sc.settings
    | _ => trivial

end CommandScript
