import CommandScript.Proofs.Duplication
import CommandScript.Proofs.SharedRegistry

/-!
# Histories

A history is everything that happens to walkers that share a store: walkers are made, steps
are taken, and properties sources are loaded beside them. What holds of a walker that has
opened nothing, and what no operation takes away, holds of every walker at every moment.
-/

namespace CommandScript

namespace Session

/-- What can happen to walkers that share a store. -/
inductive Turn where
  /-- A walker is made; one that sees the environment adds it to the registry. -/
  | make (family : Family) (options : Options) (seesEnvironment : Bool)
  | step (st : Step)
  /-- A properties source is loaded, and its table handed out. -/
  | load (loader : PropertiesLoader) (source : Source)

def take (resources : Resources) : Turn → Act Session Answer
  | .make family options seesEnvironment => fun se =>
    ⟨.ok (.count se.handles.length),
      join { se with store := prepare resources family seesEnvironment se.store }
        (.new options family), []⟩
  | .step st => step resources st
  | .load loader source => fun se =>
    let o := loader.load resources source se.store
    ⟨o.result.map .table, { se with store := o.state }, o.events⟩

def history (resources : Resources) : List Turn → Session → List Reply × Session
  | [], se => ([], se)
  | turn :: turns, se =>
    let o := take resources turn se
    let (replies, after) := history resources turns o.state
    (⟨o.result, o.events⟩ :: replies, after)

def eventsOf (replies : List Reply) : List Event := replies.flatMap (·.events)

def Turn.Does (i : Nat) (op : Operation) (turn : Turn) : Prop := turn = .step (.perform i op)

variable {resources : Resources} {se after : Session} {i : Nat} {w : Walker}

/-- Every turn leaves the walkers as they are, or has one of them perform an operation, or
makes a new one, which comes last. -/
inductive Taken (resources : Resources) (se : Session) (turn : Turn) (after : Session) : Prop where
  | rested (separate : after.Separate) (views : ∀ j, after.view j = se.view j)
  | performed {i : Nat} {op : Operation} {w : Walker} (does : turn.Does i op)
    (there : se.view i = some w)
    (became : Became se i (Run.perform resources op (w, se.store)).state.1 after)
  | made {w : Walker}
    (fresh : (∃ options family, w = .new options family) ∨
      ∃ i v, se.view i = some v ∧ (w = v.duplicate ∨ w = v.spawn))
    (became : Became se se.handles.length w after)

theorem taken (resources : Resources) (hsep : se.Separate) (turn : Turn) :
    Taken resources se turn (take resources turn se).state := by
  have shared (s : Store) : Separate { se with store := s } := ⟨hsep.owned, hsep.disjoint⟩
  cases turn with
  | make family options env =>
    obtain ⟨separate, view, others⟩ :=
      became_join (shared (prepare resources family env se.store)) (.new options family)
    exact .made (Or.inl ⟨options, family, rfl⟩) ⟨separate, view, others⟩
  | load loader source => exact .rested (shared _) fun _ => rfl
  | step st =>
    have step := stepped resources hsep st
    rw [take]
    generalize (Session.step resources st se).state = after at step ⊢
    cases step with
    | missing => exact .rested hsep fun _ => rfl
    | performed hw acts => exact .performed rfl hw acts.became
    | joined hw hmade _ became => exact .made (Or.inr ⟨_, _, hw, hmade⟩) became
    | shared s => exact .rested (shared s) fun _ => rfl

theorem Taken.separate {turn : Turn} (h : Taken resources se turn after) : after.Separate := by
  cases h with
  | rested separate => exact separate
  | performed _ _ became => exact became.separate
  | made _ became => exact became.separate

theorem separate_history (resources : Resources) (hsep : se.Separate) (turns : List Turn) :
    (history resources turns se).2.Separate := by
  induction turns generalizing se with
  | nil => exact hsep
  | cons turn turns ih => exact ih (taken resources hsep turn).separate

/-! ### What holds of every walker -/

/-- A walker that has opened nothing has the property, and nothing takes it away. -/
structure Invariant (resources : Resources) (P : Walker → Prop) : Prop where
  new : ∀ options family, P (.new options family)
  perform : ∀ {w}, P w → ∀ s op, P (Run.perform resources op (w, s)).state.1
  duplicate : ∀ {w}, P w → P w.duplicate
  spawn : ∀ {w}, P w → P w.spawn

namespace Invariant

variable {P : Walker → Prop}

theorem congr {Q : Walker → Prop} (h : Invariant resources P) (same : ∀ w, P w ↔ Q w) :
    Invariant resources Q := by
  obtain rfl : P = Q := funext fun w => propext (same w)
  exact h

theorem became (all : ∀ j w, se.view j = some w → P w) (hb : Became se i w after) (hw : P w)
    (j : Nat) (v : Walker) (hv : after.view j = some v) : P v := by
  by_cases hj : j = i
  · subst hj
    obtain rfl : w = v := Option.some.inj (hb.view.symm.trans hv)
    exact hw
  · exact all j v ((hb.others j hj).symm.trans hv)

/-- One turn. -/
theorem taken (h : Invariant resources P) {turn : Turn} (all : ∀ j w, se.view j = some w → P w)
    (ht : Taken resources se turn after) : ∀ j w, after.view j = some w → P w := by
  cases ht with
  | rested _ views =>
    intro j w hw
    exact all j w ((views j).symm.trans hw)
  | performed _ there hb => exact became all hb (h.perform (all _ _ there) _ _)
  | made fresh hb =>
    apply became all hb
    rcases fresh with ⟨options, family, rfl⟩ | ⟨i, v, hv, rfl | rfl⟩
    · exact h.new options family
    · exact h.duplicate (all i v hv)
    · exact h.spawn (all i v hv)

theorem history (h : Invariant resources P) (hsep : se.Separate)
    (all : ∀ j w, se.view j = some w → P w) (turns : List Turn) :
    ∀ j w, (history resources turns se).2.view j = some w → P w := by
  induction turns generalizing se with
  | nil => exact all
  | cons turn turns ih =>
    have one := Session.taken resources hsep turn
    exact ih one.separate (h.taken all one)

/-- Every walker of every history has the property. -/
theorem reached (h : Invariant resources P) {turns : List Turn} {s : Store}
    (there : (Session.history resources turns { store := s }).2.view i = some w) : P w :=
  h.history (separate_empty s) (fun j w hw => by simp [view] at hw) turns i w there

end Invariant

/-! ### What becomes of one walker -/

/-- A walker goes where its own operations take it. -/
theorem view_history (R : Walker → Walker → Prop) (refl : ∀ w, R w w)
    (trans : ∀ {u v w}, R u v → R v w → R u w) (allowed : Operation → Prop)
    (perform : ∀ w s op, allowed op → R w (Run.perform resources op (w, s)).state.1)
    (hsep : se.Separate) (there : se.view i = some w) {turns : List Turn}
    (own : ∀ turn ∈ turns, ∀ op, turn.Does i op → allowed op) :
    ∃ w', (history resources turns se).2.view i = some w' ∧ R w w' := by
  induction turns generalizing se w with
  | nil => exact ⟨w, there, refl w⟩
  | cons turn turns ih =>
    have one := taken resources hsep turn
    obtain ⟨v, hv, first⟩ : ∃ v, (take resources turn se).state.view i = some v ∧ R w v := by
      generalize (take resources turn se).state = after at one ⊢
      cases one with
      | rested _ views => exact ⟨w, (views i).trans there, refl w⟩
      | @performed k op v does hv became =>
        by_cases hk : i = k
        · subst hk
          obtain rfl : w = v := Option.some.inj (there.symm.trans hv)
          exact ⟨_, became.view, perform w _ op (own turn List.mem_cons_self op does)⟩
        · exact ⟨w, (became.others i hk).trans there, refl w⟩
      | made _ became =>
        have old : i ≠ se.handles.length := by
          have bound := (isSome_view se i).mp (by rw [there]; rfl)
          omega
        exact ⟨w, (became.others i old).trans there, refl w⟩
    obtain ⟨w', hw', rest⟩ :=
      ih one.separate hv fun turn hmem => own turn (List.mem_cons_of_mem _ hmem)
    exact ⟨w', hw', trans first rest⟩

/-- A walker stays as it is where its own operations leave it so. -/
theorem view_of_rests (allowed : Operation → Prop)
    (rests : ∀ s op, allowed op → (Run.perform resources op (w, s)).state.1 = w)
    (hsep : se.Separate) (there : se.view i = some w) {turns : List Turn}
    (own : ∀ turn ∈ turns, ∀ op, turn.Does i op → allowed op) :
    (history resources turns se).2.view i = some w := by
  obtain ⟨w', view, still⟩ := view_history (fun u v => u = w → v = w) (fun _ => id)
    (fun first second => second ∘ first) allowed
    (fun u s op ok same => by rw [same]; exact rests s op ok) hsep there own
  exact view.trans (congrArg some (still rfl))

end Session

end CommandScript
