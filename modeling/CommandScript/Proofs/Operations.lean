import CommandScript.Proofs.Quiet
import CommandScript.Proofs.Soundness
import CommandScript.Walker

/-!
# What operations keep

Whatever is done with a walker, and whether it succeeds or not, the walker stays of its
family and every cursor of it stays sound. Readers, classifiers and the scanners that only
print and include leave the store alone.
-/

namespace CommandScript

open Act

/-! ### Readers -/

namespace Reader

variable {r : Reader}

def Sound (r : Reader) : Prop := r.cursor.Sound

theorem sound_openSource (resources : Resources) (source : Source) (trim compress : Option Bool) :
    Leaves (openSource resources source trim compress) Sound r := by
  simp only [openSource, Leaves, Wp.bind_iff, Wp.modify_iff, Wp.get_iff, wp_openCursor]
  split
  · exact Cursor.sound_opened _ _
  · exact Cursor.sound_unopened

theorem sound_hasNext (h : r.Sound) : Leaves hasNext Sound r := Cursor.Sound.started h

theorem sound_advance? (h : r.Sound) : Leaves advance? Sound r := by
  have started : r.cursor.started.Sound := Cursor.Sound.started h
  simp only [advance?, Leaves, Wp.bind_iff, Wp.modify_iff, Wp.get_iff]
  split
  · exact started
  · rename_i line cursor moved
    have step : ∃ ahead, r.cursor.started.ahead = line :: ahead ∧
        cursor = r.cursor.started.moved ahead := by
      revert moved
      rw [Cursor.advance?]
      cases r.cursor.started.ahead with
      | nil => rintro ⟨⟩
      | cons first ahead =>
        rintro ⟨⟩
        exact ⟨ahead, rfl, rfl⟩
    obtain ⟨ahead, hahead, rfl⟩ := step
    simp only [Wp.bind_iff, Wp.modify_iff, wp_logAdvance, Wp.pure_iff]
    exact started.moved hahead

theorem sound_current (h : r.Sound) : Leaves current Sound r := by
  simp only [current, Leaves, Wp.bind_iff, Wp.get_iff]
  split <;> exact h

theorem sound_next (h : r.Sound) : Leaves next Sound r := by
  refine (sound_advance? h).bind fun line t ht => ?_
  cases line with
  | none => exact ht
  | some line => exact sound_current ht

theorem sound_next? (h : r.Sound) : Leaves next? Sound r := by
  refine (sound_advance? h).bind fun line t ht => ?_
  cases line <;> exact ht

end Reader

/-! ### Classifiers -/

namespace Classifier

variable {α : Type} {c : Classifier}

def Sound (c : Classifier) : Prop := c.reader.Sound

/-- Labels are not looked at. -/
theorem sound_clearLabel (h : c.Sound) : Leaves clearLabel Sound c := h

theorem sound_onReader {x : Act Reader α} (h : Leaves x Reader.Sound c.reader) :
    Leaves (onReader x) Sound c := h

theorem sound_openSource (resources : Resources) (source : Source) (trim compress : Option Bool) :
    Leaves (openSource resources source trim compress) Sound c := by
  rw [openSource, Leaves, Wp.bind_iff]
  exact sound_onReader (Reader.sound_openSource resources source trim compress)

theorem sound_determine (line : Text) (h : c.Sound) : Leaves (determine line) Sound c := by
  simp only [determine, Leaves, Wp.bind_iff, Wp.modify_iff, Wp.get_iff, Wp.onlyIf_debug_iff]
  exact h

theorem sound_hasNext (h : c.Sound) : Leaves hasNext Sound c := by
  simp only [hasNext, Leaves, Wp.bind_iff, Wp.get_iff]
  split <;> exact sound_onReader (Reader.sound_hasNext h)

/-- The label is cleared before a reader starts over, and before a line is labelled. -/
theorem sound_advance? (h : c.Sound) : Leaves advance? Sound c := by
  have moved {f : Option Line → Act Classifier (Option Line)}
      (hf : ∀ line d, Sound d → Leaves (f line) Sound d) (d : Classifier) (hd : d.Sound) :
      Leaves (onReader Reader.advance? >>= f) Sound d :=
    (sound_onReader (Reader.sound_advance? hd)).bind hf
  have labelled (line : Line) (d : Classifier) (hd : d.Sound) :
      Leaves (do clearLabel; determine line.text; return some line) Sound d :=
    (sound_clearLabel hd).bind fun _ d hd => (sound_determine line.text hd).map fun _ => some line
  rw [advance?, Leaves, Wp.bind_iff, Wp.get_iff]
  split
  · rw [Wp.bind_iff]
    refine moved (fun line d hd => ?_) _ h
    cases line with
    | none => exact hd
    | some line => exact labelled line d hd
  · refine moved (fun line d hd => ?_) _ h
    cases line with
    | none => exact hd
    | some line => exact labelled line d hd

theorem sound_current (h : c.Sound) : Leaves current Sound c := by
  simp only [current, Leaves, Wp.bind_iff, Wp.get_iff]
  split <;> exact h

theorem sound_next (h : c.Sound) : Leaves next Sound c := by
  refine (sound_advance? h).bind fun line t ht => ?_
  cases line with
  | none => exact ht
  | some line => exact sound_current ht

theorem sound_next? (h : c.Sound) : Leaves next? Sound c := by
  refine (sound_advance? h).bind fun line t ht => ?_
  cases line <;> exact ht

end Classifier

/-! ### Scanners -/

namespace Scanner

variable {resources : Resources} {sc : Scanner} {s : Store}

/-- Expanding a text changes nothing. -/
theorem rests_expand (t : Text) (st : Scanner × Store) : Leaves (expand t) (· = st) st := by
  simp only [expand, onStore, Leaves, Wp.bind_iff, Wp.get_iff, Wp.onSnd_iff, wp_expand]
  split <;> trivial

/-- Nor does reading the current line again. -/
theorem rests_current? (st : Scanner × Store) : Leaves current? (· = st) st := by
  simp only [current?, Leaves, Wp.bind_iff, Wp.get_iff]
  split
  · rfl
  · exact (rests_expand _ st).bind fun text t ht => ht

theorem rests_current (st : Scanner × Store) : Leaves current (· = st) st := by
  refine (rests_current? st).bind fun text t ht => ?_
  cases text <;> exact ht

/-- What an operation makes of a scanner and the store: a scanner of the same family whose
cursors are sound, and the same store if the scanner writes nothing. -/
structure Kept (sc : Scanner) (s : Store) (after : Scanner × Store) : Prop where
  kind : after.1.settings.kind = sc.settings.kind
  expander : after.1.settings.expander = sc.settings.expander
  replays : after.1.settings.replays = sc.settings.replays
  sound : after.1.chain.Sound
  store : sc.settings.kind = .basic → after.2 = s

theorem kept_self (h : sc.chain.Sound) : Kept sc s (sc, s) := ⟨rfl, rfl, rfl, h, fun _ => rfl⟩

/-- Another chain, and a store that has only been read. -/
theorem kept_chain {c : Chain} {t : Store} (h : c.Sound)
    (hstore : sc.settings.kind = .basic → t = s) : Kept sc s ({ sc with chain := c }, t) :=
  ⟨rfl, rfl, rfl, h, hstore⟩

theorem sound_empty : Chain.Sound {} := Chain.sound_single.mpr Cursor.sound_unopened

theorem kept_openSource (source : Source) (trim compress : Option Bool) :
    Leaves (openSource resources source trim compress) (Kept sc s) (sc, s) := by
  simp only [openSource, modifyChain, Leaves, Wp.bind_iff, Wp.modify_iff, Wp.get_iff, wp_openFrame]
  split
  · exact ⟨rfl, rfl, rfl, Chain.sound_single.mpr (Cursor.sound_opened _ _), fun _ => rfl⟩
  · exact ⟨rfl, rfl, rfl, sound_empty, fun _ => rfl⟩

theorem kept_rewind (h : sc.chain.Sound) : Leaves rewind (Kept sc s) (sc, s) := by
  refine kept_chain (fun f hf => ?_) fun _ => rfl
  rcases List.mem_cons.mp hf with rfl | hmem
  · exact h.frame.rewind
  · exact h f (List.mem_cons_of_mem _ hmem)

theorem kept_hasNext (h : sc.chain.Sound) : Leaves (hasNext resources) (Kept sc s) (sc, s) :=
  leaves_iff.mpr (kept_chain (sound_settle h) fun basic => store_settle basic)

theorem kept_next? (h : sc.chain.Sound) : Leaves (next? resources) (Kept sc s) (sc, s) :=
  leaves_iff.mpr (kept_chain (sound_nextLine h) fun basic => store_nextLine basic)

theorem kept_next (h : sc.chain.Sound) : Leaves (next resources) (Kept sc s) (sc, s) := by
  refine (kept_next? h).bind fun text t ht => ?_
  cases text <;> exact ht

theorem kept_expand (h : sc.chain.Sound) (t : Text) : Leaves (expand t) (Kept sc s) (sc, s) :=
  (rests_expand t _).of_rests (kept_self h)

theorem kept_current? (h : sc.chain.Sound) : Leaves current? (Kept sc s) (sc, s) :=
  (rests_current? _).of_rests (kept_self h)

theorem kept_current (h : sc.chain.Sound) : Leaves current (Kept sc s) (sc, s) :=
  (rests_current _).of_rests (kept_self h)

/-- Loading a table moves nothing. -/
theorem kept_loadTable (h : sc.chain.Sound) (hkind : sc.settings.kind ≠ .basic) (reference : Text) :
    Leaves (loadTable resources reference) (Kept sc s) (sc, s) :=
  leaves_iff.mpr (kept_chain h fun basic => absurd basic hkind)

theorem sound_applyEffect {effect : Effect} {c : Chain} (he : effect.Sound) (h : c.Sound) :
    (applyEffect effect c).Sound := by
  cases effect with
  | done => exact h
  | replayRequested =>
    intro f hf
    rcases List.mem_cons.mp hf with rfl | hmem
    · exact h.frame
    · exact h f (List.mem_cons_of_mem _ hmem)
  | entered g => exact Chain.sound_cons.mpr ⟨h.frame, Chain.sound_single.mpr he.1⟩

/-- Executing the current line may put an included source in place of the one before. -/
theorem kept_executeCurrent (h : sc.chain.Sound) :
    Leaves (executeCurrent resources) (Kept sc s) (sc, s) := by
  have written (load : Text → Act Store Table) {line : Text} {builtin : Builtin}
      (form : sc.settings.kind.builtin? line = some builtin) :
      Wp (execute resources sc.settings load sc.state builtin)
        (fun effect t => effect.Sound ∧ (sc.settings.kind = .basic → t = s))
        (fun _ t => sc.settings.kind = .basic → t = s) s := by
    by_cases basic : sc.settings.kind = .basic
    · exact ((sound_execute sc.state builtin s).and (store_execute basic sc.state form)).mono
        (fun _ _ h => ⟨h.1, fun _ => h.2⟩) fun _ _ h _ => h.2
    · exact (sound_execute sc.state builtin s).mono
        (fun _ _ h => ⟨h, fun b => absurd b basic⟩) fun _ _ _ b => absurd b basic
  simp only [executeCurrent, Leaves, Wp.bind_iff, Wp.get_iff]
  split
  · exact kept_self h
  · split
    · exact kept_self h
    · split
      · exact kept_self h
      · rename_i builtin form
        rw [Wp.bind_iff, onStore, Wp.onSnd_iff]
        exact (written _ form).mono
          (fun effect t ht => kept_chain (sound_applyEffect ht.1 h) ht.2) fun e t => kept_chain h

end Scanner

/-! ### Walkers -/

/-- The families that never write to the store. -/
def Family.Quiet : Family → Prop
  | .scanner kind _ _ => kind = .basic
  | _ => True

def Walker.Sound : Walker → Prop
  | .reader r => r.Sound
  | .classifier c => c.Sound
  | .scanner sc => sc.chain.Sound

/-- What an operation makes of a walker and the store: a sound walker of the same family, and
the same store if the family never writes to it. -/
structure Walker.Kept (w : Walker) (s : Store) (after : Walker × Store) : Prop where
  family : after.1.family = w.family
  sound : after.1.Sound
  store : w.family.Quiet → after.2 = s

namespace Run

variable {α : Type} {w : Walker} {s : Store}

/-- Every family does its own part. -/
theorem kept_byFamily {r : Act Reader α} {c : Act Classifier α} {sc : Scanner.Scan α}
    (h : w.Sound) (hr : ∀ x, x.Sound → Leaves r Reader.Sound x)
    (hc : ∀ x, x.Sound → Leaves c Classifier.Sound x)
    (hsc : ∀ x, x.chain.Sound → Leaves sc (Scanner.Kept x s) (x, s)) :
    Leaves (byFamily r c sc) (w.Kept s) (w, s) := by
  rw [leaves_iff]
  cases w with
  | reader x => exact ⟨rfl, leaves_iff.mp (hr x h), fun _ => rfl⟩
  | classifier x => exact ⟨rfl, leaves_iff.mp (hc x h), fun _ => rfl⟩
  | scanner x =>
    have kept := leaves_iff.mp (hsc x h)
    refine ⟨?_, kept.sound, kept.store⟩
    show Family.scanner _ _ _ = Family.scanner _ _ _
    rw [kept.kind, kept.expander, kept.replays]

/-- What only scanners do. -/
theorem kept_onScanner {sc : Scanner.Scan α} (h : w.Sound)
    (hsc : ∀ x, x.chain.Sound → Leaves sc (Scanner.Kept x s) (x, s)) :
    Leaves (byFamily missing missing sc) (w.Kept s) (w, s) :=
  kept_byFamily h (fun _ hr => hr) (fun _ hc => hc) hsc

/-- Every operation keeps every walker, also where it fails. -/
theorem kept_perform (resources : Resources) (s : Store) (op : Operation) (h : w.Sound) :
    Leaves (perform resources op) (w.Kept s) (w, s) := by
  cases op with
  | openSource source trim compress =>
    refine Leaves.map (kept_byFamily h (fun r _ => ?_) (fun c _ => ?_) fun sc _ => ?_) _
    · exact Reader.sound_openSource resources source trim compress
    · exact Classifier.sound_openSource resources source trim compress
    · exact Scanner.kept_openSource source trim compress
  | reset =>
    refine Leaves.map (kept_byFamily h (fun r _ => ?_) (fun c _ => ?_) fun sc _ => ?_) _
    · exact Cursor.sound_unopened
    · exact Cursor.sound_unopened
    · exact Scanner.kept_chain Scanner.sound_empty fun _ => rfl
  | rewind =>
    refine Leaves.map (kept_byFamily h (fun r hr => ?_) (fun c hc => ?_) fun sc hsc => ?_) _
    · exact Cursor.Sound.rewind hr
    · exact Cursor.Sound.rewind hc
    · exact Scanner.kept_rewind hsc
  | hasNext =>
    exact Leaves.map (kept_byFamily h (fun _ => Reader.sound_hasNext)
      (fun _ => Classifier.sound_hasNext) fun _ => Scanner.kept_hasNext) _
  | next =>
    exact Leaves.map (kept_byFamily h (fun _ => Reader.sound_next)
      (fun _ => Classifier.sound_next) fun _ => Scanner.kept_next) _
  | next? =>
    exact Leaves.map (kept_byFamily h (fun _ => Reader.sound_next?)
      (fun _ => Classifier.sound_next?) fun _ => Scanner.kept_next?) _
  | current =>
    exact Leaves.map (kept_byFamily h (fun _ => Reader.sound_current)
      (fun _ => Classifier.sound_current) fun _ => Scanner.kept_current) _
  | current? =>
    refine Leaves.map (kept_byFamily h (fun r hr => ?_) (fun c hc => ?_) fun sc hsc => ?_) _
    · exact hr
    · exact hc
    · exact Scanner.kept_current? hsc
  | ask q => exact ⟨rfl, h, fun _ => rfl⟩
  | executeCurrent =>
    exact Leaves.map (kept_onScanner h fun _ => Scanner.kept_executeCurrent) _
  | expand t =>
    exact Leaves.map (kept_onScanner h fun _ hsc => Scanner.kept_expand hsc t) _
  | loadTable reference =>
    refine Leaves.map (kept_onScanner h fun sc hsc => ?_) _
    rw [Leaves, Wp.bind_iff, Wp.get_iff]
    by_cases loads : sc.settings.kind.loadsTables
    · have writes : sc.settings.kind ≠ .basic := fun basic => by
        rw [basic] at loads
        cases loads
      simp only [loads, if_true]
      exact Scanner.kept_loadTable hsc writes reference
    · simp only [loads]
      exact Scanner.kept_self hsc
  | determine line =>
    refine Leaves.map (kept_byFamily h (fun r hr => ?_) (fun c hc => ?_) fun sc hsc => ?_) _
    · exact hr
    · exact Classifier.sound_determine line hc
    · exact Scanner.kept_self hsc

end Run

namespace Walker

theorem sound_new (options : Options) (family : Family) : (new options family).Sound := by
  cases family with
  | reader => exact Cursor.sound_unopened
  | classifier => exact Cursor.sound_unopened
  | scanner kind expander replays => exact Scanner.sound_empty

theorem family_new (options : Options) (family : Family) :
    (new options family).family = family := by
  cases family <;> rfl

theorem sound_spawn (w : Walker) : w.spawn.Sound := by
  cases w with
  | reader r => exact Cursor.sound_unopened
  | classifier c => exact Cursor.sound_unopened
  | scanner sc => exact Scanner.sound_empty

theorem family_spawn (w : Walker) : w.spawn.family = w.family := by
  cases w <;> rfl

/-- A copy of a sound walker, which counts its own way to the lines ahead, is the same. -/
theorem Sound.duplicate_eq {w : Walker} (h : w.Sound) : w.duplicate = w := by
  cases w with
  | reader r =>
    have copied : r.cursor.duplicate = r.cursor := Cursor.Sound.duplicate_eq h
    simp only [duplicate, Reader.duplicate, copied]
  | classifier c =>
    have copied : c.reader.cursor.duplicate = c.reader.cursor := Cursor.Sound.duplicate_eq h
    simp only [duplicate, Classifier.duplicate, Reader.duplicate, copied]
  | scanner sc =>
    have copied : sc.chain.duplicate = sc.chain := Chain.Sound.duplicate_eq h
    simp only [duplicate, Scanner.duplicate, copied]

end Walker

end CommandScript
