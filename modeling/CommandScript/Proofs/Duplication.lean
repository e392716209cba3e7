import CommandScript.Proofs.Operations
import CommandScript.Proofs.Separation

/-!
# Duplication

A copy of a walker stands where the walker stands, goes on as the walker would, and neither
sees what becomes of the other. Only through the store can one have an effect on the
other, and walkers that never write to it cannot.
-/

namespace CommandScript

namespace Session

/-! ### Sessions that can be reached -/

/-- The walkers are apart, sound and of one family. -/
structure Sound (family : Family) (se : Session) : Prop where
  separate : se.Separate
  sound : ∀ {i : Nat} {w : Walker}, se.view i = some w → w.Sound
  family : ∀ {i : Nat} {w : Walker}, se.view i = some w → w.family = family

variable {resources : Resources} {family : Family} {se after : Session} {i j : Nat}

theorem Sound.became {w : Walker} (h : Sound family se) (hb : Became se i w after)
    (hsound : w.Sound) (hfamily : w.family = family) : Sound family after := by
  have view {j : Nat} {v : Walker} (hv : after.view j = some v) : v = w ∨ se.view j = some v := by
    by_cases hj : j = i
    · subst hj
      exact Or.inl (Option.some.inj (hv.symm.trans hb.view))
    · exact Or.inr ((hb.others j hj).symm.trans hv)
  refine ⟨hb.separate, fun hv => ?_, fun hv => ?_⟩
  · rcases view hv with rfl | old
    · exact hsound
    · exact h.sound old
  · rcases view hv with rfl | old
    · exact hfamily
    · exact h.family old

theorem sound_start (family : Family) (options : Options) (s : Store) :
    Sound family (start family options s) := by
  have empty : Sound family { store := s } :=
    ⟨separate_empty s, fun h => by simp [view] at h, fun h => by simp [view] at h⟩
  exact empty.became (became_join empty.separate _) (Walker.sound_new options family)
    (Walker.family_new options family)

def Step.Moves (i : Nat) : Step → Prop
  | .perform j _ => j = i
  | _ => False

instance (i : Nat) : DecidablePred (Step.Moves i) := fun st =>
  match st with
  | .perform j _ => inferInstanceAs (Decidable (j = i))
  | .duplicate _ | .spawn _ | .share _ => inferInstanceAs (Decidable False)

/-- The step changes the store. -/
def Step.Shares : Step → Prop
  | .share _ => True
  | _ => False

instance : DecidablePred Step.Shares := fun st =>
  match st with
  | .share _ => inferInstanceAs (Decidable True)
  | .perform _ _ | .duplicate _ | .spawn _ => inferInstanceAs (Decidable False)

inductive Stepped (resources : Resources) (se : Session) : Step → Session → Prop
  /-- No walker has the number. -/
  | missing (st : Step) : Stepped resources se st se
  | performed {i : Nat} {op : Operation} {w : Walker} {o : Outcome Session Answer}
      (hw : se.view i = some w) (acts : Acts se i (Run.perform resources op (w, se.store)) o) :
      Stepped resources se (.perform i op) o.state
  | joined {st : Step} {i : Nat} {w made : Walker} {after : Session} (hw : se.view i = some w)
      (hmade : made = w.duplicate ∨ made = w.spawn) (hstore : after.store = se.store)
      (became : Became se se.handles.length made after) : Stepped resources se st after
  | shared (s : Store) : Stepped resources se (.share s) { se with store := s }

/-- Every step does one of these. -/
theorem stepped (resources : Resources) (hsep : se.Separate) (st : Step) :
    Stepped resources se st (step resources st se).state := by
  have joined (st : Step) (make : Walker → Walker)
      (hmake : ∀ w, make w = w.duplicate ∨ make w = w.spawn) (i : Nat) :
      Stepped resources se st (Session.joined i make se).state := by
    rw [Session.joined]
    cases hw : se.view i with
    | none => exact .missing st
    | some w => exact .joined hw (hmake w) rfl (became_join hsep (make w))
  cases st with
  | perform i op =>
    cases hw : se.view i with
    | none =>
      simp only [step, onWalker_none hw]
      exact .missing _
    | some w => exact .performed hw (acts_onWalker hsep hw (Run.perform resources op))
  | duplicate i =>
    rw [step, Act.state_map]
    exact joined _ Walker.duplicate (fun w => Or.inl rfl) i
  | spawn i =>
    rw [step, Act.state_map]
    exact joined _ Walker.spawn (fun w => Or.inr rfl) i
  | share s => exact .shared s

/-- Every step keeps every walker, also where it fails. -/
theorem Sound.step (h : Sound family se) (st : Step) :
    Sound family (step resources st se).state := by
  have hstep := stepped resources h.separate st
  generalize (Session.step resources st se).state = after at hstep ⊢
  cases hstep with
  | missing => exact h
  | @performed i op w o hw acts =>
    have kept := Act.leaves_iff.mp (Run.kept_perform resources se.store op (h.sound hw))
    exact h.became acts.became kept.sound (kept.family.trans (h.family hw))
  | @joined _ i w made _ hw hmade _ became =>
    rcases hmade with rfl | rfl
    · rw [(h.sound hw).duplicate_eq] at became
      exact h.became became (h.sound hw) (h.family hw)
    · exact h.became became w.sound_spawn (w.family_spawn.trans (h.family hw))
  | shared s => exact ⟨⟨h.separate.owned, h.separate.disjoint⟩, h.sound, h.family⟩

theorem Sound.run (resources : Resources) (h : Sound family se) (steps : List Step) :
    Sound family (run resources steps se).2 := by
  induction steps generalizing se with
  | nil => exact h
  | cons st steps ih => exact ih (h.step st)

/-! ### Steps on others -/

/-- A step leaves a walker as it is, unless it is done with that one. -/
theorem view_step {st : Step} (h : se.Separate) (hst : ¬ st.Moves j) (hj : (se.view j).isSome) :
    (step resources st se).state.view j = se.view j := by
  have hstep := stepped resources h st
  generalize (step resources st se).state = after at hstep ⊢
  cases hstep with
  | missing => rfl
  | performed _ acts => exact acts.became.others j fun hij => hst hij.symm
  | joined _ _ _ became => exact became.others j (Nat.ne_of_lt ((isSome_view se j).mp hj))
  | shared s => rfl

/-- No walker leaves. -/
theorem isSome_view_step {st : Step} (h : se.Separate) (hj : (se.view j).isSome) :
    ((step resources st se).state.view j).isSome := by
  have hstep := stepped resources h st
  generalize (step resources st se).state = after at hstep ⊢
  cases hstep with
  | missing => exact hj
  | @performed i op w o hw acts =>
    by_cases hij : j = i
    · rw [hij, acts.became.view]
      rfl
    · rwa [acts.became.others j hij]
  | joined _ _ _ became =>
    rwa [became.others j (Nat.ne_of_lt ((isSome_view se j).mp hj))]
  | shared s => exact hj

/-- Nothing that is done with others changes a walker. -/
theorem view_run (h : Sound family se) (hj : (se.view j).isSome) {steps : List Step}
    (hsteps : ∀ st ∈ steps, ¬ st.Moves j) : (run resources steps se).2.view j = se.view j := by
  induction steps generalizing se with
  | nil => rfl
  | cons st steps ih =>
    obtain ⟨hst, hrest⟩ := List.forall_mem_cons.mp hsteps
    have kept : (step resources st se).state.view j = se.view j := view_step h.separate hst hj
    exact (ih (h.step st) (kept ▸ hj) hrest).trans kept

/-- In a session of walkers that never write, only others change the store. -/
theorem store_step {st : Step} (h : Sound family se) (hq : family.Quiet) (hst : ¬ st.Shares) :
    (step resources st se).state.store = se.store := by
  have hstep := stepped resources h.separate st
  generalize (step resources st se).state = after at hstep ⊢
  cases hstep with
  | missing => rfl
  | @performed i op w o hw acts =>
    have kept := Act.leaves_iff.mp (Run.kept_perform resources se.store op (h.sound hw))
    exact acts.store.trans (kept.store (h.family hw ▸ hq))
  | joined _ _ hstore _ => exact hstore
  | shared s => exact absurd trivial hst

/-! ### Walkers that are alike -/

/-- A walker of one session and a walker of another are alike, and so are the stores. -/
structure Alike (se : Session) (i : Nat) (other : Session) (j : Nat) : Prop where
  view : other.view j = se.view i
  store : other.store = se.store

variable {other : Session}

/-- The same operation on walkers that are alike gets the same reply and leaves them alike. -/
theorem Alike.perform (resources : Resources) (h : Alike se i other j) (hse : se.Separate)
    (hother : other.Separate) (hi : (se.view i).isSome) (op : Operation) :
    let o := step resources (.perform i op) se
    let p := step resources (.perform j op) other
    p.result = o.result ∧ p.events = o.events ∧ Alike o.state i p.state j := by
  obtain ⟨w, hw⟩ := Option.isSome_iff_exists.mp hi
  have one := acts_onWalker hse hw (Run.perform resources op)
  have two := acts_onWalker hother (h.view.trans hw) (Run.perform resources op)
  rw [h.store] at two
  exact ⟨two.result.trans one.result.symm, two.events.trans one.events.symm,
    two.became.view.trans one.became.view.symm, two.store.trans one.store.symm⟩

/-- The same operations on walkers that are alike get the same replies and leave them alike. -/
theorem Alike.run (resources : Resources) (h : Alike se i other j) (hse : Sound family se)
    (hother : Sound family other) (hi : (se.view i).isSome) (ops : List Operation) :
    let made := Session.run resources (ops.map (.perform i)) se
    let remade := Session.run resources (ops.map (.perform j)) other
    remade.1 = made.1 ∧ Alike made.2 i remade.2 j := by
  induction ops generalizing se other with
  | nil => exact ⟨rfl, h⟩
  | cons op ops ih =>
    obtain ⟨hresult, hevents, halike⟩ :=
      h.perform resources hse.separate hother.separate hi op
    have ⟨hreplies, hlater⟩ := ih halike (hse.step _) (hother.step _)
      (isSome_view_step hse.separate hi)
    refine ⟨?_, hlater⟩
    simp only [List.map_cons, Session.run, hresult, hevents, hreplies]

/-! ### Walkers on their own -/

def repliesTo (resources : Resources) (i : Nat) (steps : List Step) (se : Session) : List Reply :=
  ((steps.zip (run resources steps se).1).filter fun p => p.1.Moves i).map (·.2)

/-- What is left of steps for a walker on its own: what is done with it and what others do
to the store. -/
def alone (i : Nat) (steps : List Step) : List Step :=
  steps.filter fun st => st.Moves i ∨ st.Shares

theorem repliesTo_of_moves {st : Step} (h : st.Moves i) (steps : List Step) (se : Session) :
    repliesTo resources i (st :: steps) se =
      ⟨(step resources st se).result, (step resources st se).events⟩ ::
        repliesTo resources i steps (step resources st se).state := by
  simp [repliesTo, run, h]

theorem repliesTo_of_not_moves {st : Step} (h : ¬ st.Moves i) (steps : List Step) (se : Session) :
    repliesTo resources i (st :: steps) se =
      repliesTo resources i steps (step resources st se).state := by
  simp [repliesTo, run, h]

theorem alone_cons_of_pos {st : Step} (h : st.Moves i ∨ st.Shares) (steps : List Step) :
    alone i (st :: steps) = st :: alone i steps :=
  List.filter_cons_of_pos (by simpa using h)

theorem alone_cons_of_neg {st : Step} (h : ¬ (st.Moves i ∨ st.Shares)) (steps : List Step) :
    alone i (st :: steps) = alone i steps :=
  List.filter_cons_of_neg (by simpa using h)

/-- Among walkers that never write, each gets the replies that it would get alone. -/
theorem Alike.repliesTo_alone (h : Alike se i other i) (hse : Sound family se)
    (hother : Sound family other) (hi : (se.view i).isSome) (hq : family.Quiet)
    (steps : List Step) :
    repliesTo resources i (alone i steps) other = repliesTo resources i steps se := by
  induction steps generalizing se other with
  | nil => rfl
  | cons st steps ih =>
    have later : ((step resources st se).state.view i).isSome := isSome_view_step hse.separate hi
    by_cases hmoves : st.Moves i
    · obtain ⟨op, rfl⟩ : ∃ op, st = .perform i op := by
        cases st with
        | perform k op =>
          obtain rfl : k = i := hmoves
          exact ⟨op, rfl⟩
        | _ => cases hmoves
      obtain ⟨hresult, hevents, halike⟩ :=
        h.perform resources hse.separate hother.separate hi op
      have rest := ih halike (hse.step _) (hother.step _) later
      rw [alone_cons_of_pos (Or.inl hmoves), repliesTo_of_moves hmoves, repliesTo_of_moves hmoves,
        hresult, hevents, rest]
    · by_cases hshares : st.Shares
      · obtain ⟨s, rfl⟩ : ∃ s, st = .share s := by
          cases st with
          | share s => exact ⟨s, rfl⟩
          | _ => cases hshares
        have halike : Alike (step resources (.share s) se).state i
            (step resources (.share s) other).state i := ⟨h.view, rfl⟩
        have rest := ih halike (hse.step _) (hother.step _) later
        rw [alone_cons_of_pos (Or.inr hshares), repliesTo_of_not_moves hmoves,
          repliesTo_of_not_moves hmoves, rest]
      · have halike : Alike (step resources st se).state i other i :=
          ⟨h.view.trans (view_step hse.separate hmoves hi).symm,
            h.store.trans (store_step hse hq hshares).symm⟩
        have rest := ih halike (hse.step _) hother later
        rw [alone_cons_of_neg (not_or.mpr ⟨hmoves, hshares⟩), repliesTo_of_not_moves hmoves, rest]

/-! ### Copies -/

/-- Two walkers of a session that stand alike and are independent. -/
structure Twins (resources : Resources) (family : Family) (se : Session) (i d : Nat) : Prop where
  /-- Both stand at the same place, in the same chain of sources. -/
  view : se.view d = se.view i
  /-- The same operations get the same replies from either, and leave the same store and
  the same walker. -/
  replies : ∀ ops : List Operation,
    let made := run resources (ops.map (.perform i)) se
    let remade := run resources (ops.map (.perform d)) se
    remade.1 = made.1 ∧ remade.2.store = made.2.store ∧ remade.2.view d = made.2.view i
  /-- Whatever happens, the two share no cell. -/
  cells : ∀ (steps : List Step) (h g : Handle),
    (run resources steps se).2.handles[i]? = some h →
      (run resources steps se).2.handles[d]? = some g → h.addresses.Disjoint g.addresses
  /-- Either stays as it is, as long as nothing is done with it. -/
  rests : ∀ k ∈ [i, d], ∀ steps : List Step, (∀ st ∈ steps, ¬ st.Moves k) →
    (run resources steps se).2.view k = se.view k
  /-- In a family that never writes to the store, either gets the replies that it would get
  alone, whatever is done with the other in between. -/
  separately : family.Quiet → ∀ k ∈ [i, d], ∀ steps : List Step,
    repliesTo resources k steps se = repliesTo resources k (alone k steps) se

/-- Two walkers that stand alike are twins, however they came to stand so. -/
theorem Sound.twins {d : Nat} (h : Sound family se) (hd : d ≠ i) (hi : (se.view i).isSome)
    (hview : se.view d = se.view i) : Twins resources family se i d := by
  have there : ∀ k ∈ [i, d], (se.view k).isSome := by
    intro k hk
    rcases List.mem_pair.mp hk with rfl | rfl
    · exact hi
    · rwa [hview]
  refine ⟨hview, fun ops => ?_, fun steps l g hl hg => ?_, fun k hk steps hsteps => ?_,
    fun hq k hk steps => ?_⟩
  · have alike : Alike se i se d := ⟨hview, rfl⟩
    obtain ⟨hreplies, hlater⟩ := alike.run resources h h hi ops
    exact ⟨hreplies, hlater.store, hlater.view⟩
  · exact (h.run resources steps).separate.disjoint hd.symm hl hg
  · exact view_run h (there k hk) hsteps
  · have alike : Alike se k se k := ⟨rfl, rfl⟩
    exact (alike.repliesTo_alone h h (there k hk) hq steps).symm

/-- **A copy is equivalent and independent.** A session begins with a walker that has opened
nothing, and anything may have happened since. Then a copy of a walker can be made: nothing
is written, the walker stays as it is, and from then on the two are twins. -/
theorem duplicate_equivalent_independent (resources : Resources) (family : Family)
    (options : Options) (s : Store) (before : List Step) (i : Nat) :
    let se := (run resources before (start family options s)).2
    let o := step resources (.duplicate i) se
    i < se.handles.length →
      o.result = .ok (.count se.handles.length) ∧ o.events = [] ∧ o.state.store = se.store ∧
        o.state.view i = se.view i ∧ Twins resources family o.state i se.handles.length := by
  intro se o hi
  have sound : Sound family se := (sound_start family options s).run resources before
  have there : (se.view i).isSome := (isSome_view se i).mpr hi
  obtain ⟨w, hw⟩ := Option.isSome_iff_exists.mp there
  have made : o = ⟨.ok (.count se.handles.length), se.join w, []⟩ := by
    have copied : w.duplicate = w := (sound.sound hw).duplicate_eq
    simp [o, step, joined, hw, copied, Act.bind_apply]
  have became : Became se se.handles.length w o.state := by
    rw [made]
    exact became_join sound.separate w
  have kept : o.state.view i = se.view i := became.others i (Nat.ne_of_lt hi)
  have later : Sound family o.state := sound.step (.duplicate i)
  refine ⟨by rw [made], by rw [made], by rw [made]; rfl, kept, ?_⟩
  exact later.twins (Nat.ne_of_gt hi) (kept ▸ there) (became.view.trans (kept.trans hw).symm)

def halved : Resources where
  objects := .ofList [("part".toList, "one\ntwo".toList)]

def halfway : Session :=
  (run halved
    [.perform 0 (.openSource (.text "include !part\nthree".toList) none none), .perform 0 .next]
    (start (.scanner .basic {} false) {} {})).2

/-- The copy is made inside the included text. It goes ahead, and the scanner follows. -/
theorem duplicate_equivalent_independent_included :
    let o := step halved (.duplicate 0) halfway
    let steps : List Step :=
      [.perform 1 .next, .perform 1 .next, .perform 0 .next, .perform 1 .hasNext, .perform 0 .next]
    let answers (k : Nat) := (repliesTo halved k steps o.state).map (·.result.toOption)
    0 < halfway.handles.length ∧ (halfway.view 0).map (·.nesting) = some 1 ∧
      Twins halved (.scanner .basic {} false) o.state 0 1 ∧
      answers 0 = [some (.text "two".toList), some (.text "three".toList)] ∧
      answers 1 = [some (.text "two".toList), some (.text "three".toList), some (.truth false)] := by
  intro o steps answers
  have one : halfway.handles.length = 1 := by decide +kernel
  have there : 0 < halfway.handles.length := one ▸ Nat.one_pos
  obtain ⟨-, -, -, -, twins⟩ := duplicate_equivalent_independent halved (.scanner .basic {} false)
    {} {} _ 0 there
  exact ⟨there, by decide +kernel, one ▸ twins, by decide +kernel, by decide +kernel⟩

end Session

end CommandScript
