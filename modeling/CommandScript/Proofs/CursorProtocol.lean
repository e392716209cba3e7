import CommandScript.Proofs.Classification
import CommandScript.Proofs.Histories
import CommandScript.Proofs.MissingLines
import CommandScript.Proofs.Positions

/-!
# The cursor protocol

Whatever has happened to a walker, each of its cursors stands where its iterator says. Only
opening, closing and rewinding take a walker back. The two ways to ask for the next line differ
in nothing but the form of their answer at the end, and asking at the end changes nothing.
-/

namespace CommandScript

open Act

def Operation.Restarts : Operation → Prop
  | .openSource .. | .reset | .rewind => True
  | _ => False

namespace Walker

def cursors : Walker → List Cursor
  | reader r => [r.cursor]
  | classifier c => [c.reader.cursor]
  | scanner sc => sc.chain.cursors

def Faithful (w : Walker) : Prop := ∀ c ∈ w.cursors, c.Faithful

abbrev Onward (w w' : Walker) : Prop := Cursor.Onward w.cursors w'.cursors

theorem exists_cursors (w : Walker) : ∃ held, w.cursors = w.cursor :: held := by
  cases w with
  | reader r => exact ⟨[], rfl⟩
  | classifier c => exact ⟨[], rfl⟩
  | scanner sc => exact ⟨_, rfl⟩

theorem faithful_cursor {w : Walker} (h : w.Faithful) : w.cursor.Faithful := by
  obtain ⟨held, hcursors⟩ := w.exists_cursors
  apply h
  rw [hcursors]
  exact List.mem_cons_self

/-- A walker that has moved on still reads its outermost source, and not before where it was. -/
theorem Onward.outermost {w w' : Walker} (h : Onward w w') :
    w'.cursor.source = w.cursor.source ∧ w.cursor.place ≤ w'.cursor.place := by
  obtain ⟨held, hw⟩ := w.exists_cursors
  obtain ⟨held', hw'⟩ := w'.exists_cursors
  have further := h.further
  rw [hw, hw'] at further
  exact ⟨further.1, further.2.1⟩

theorem cursors_duplicate (w : Walker) : w.duplicate.cursors = w.cursors.map Cursor.duplicate := by
  cases w with
  | reader r => rfl
  | classifier c => rfl
  | scanner sc =>
    show (sc.chain.duplicate.frame :: sc.chain.duplicate.included).map _ = _
    simp only [Chain.duplicate, cursors, Chain.cursors, List.map_cons, List.map_map]
    rfl

theorem faithful_duplicate {w : Walker} (h : w.Faithful) : w.duplicate.Faithful := by
  intro c hc
  rw [cursors_duplicate] at hc
  obtain ⟨d, hd, rfl⟩ := List.mem_map.mp hc
  rw [(h d hd).duplicate_eq]
  exact h d hd

theorem faithful_new (options : Options) (family : Family) : (new options family).Faithful := by
  cases family <;> exact List.forall_mem_singleton.mpr Cursor.faithful_unopened

theorem faithful_spawn (w : Walker) : w.spawn.Faithful := by
  cases w <;> exact List.forall_mem_singleton.mpr Cursor.faithful_unopened

end Walker

/-! ### Moving on -/

namespace Reader

variable {r : Reader}

abbrev Onward (r r' : Reader) : Prop := Cursor.Onward [r.cursor] [r'.cursor]

theorem faithful_openSource {resources : Resources} (source : Source)
    (trim compress : Option Bool) :
    Leaves (openSource resources source trim compress) (·.cursor.Faithful) r := by
  simp only [openSource, Leaves, Wp.bind_iff, Wp.modify_iff, Wp.get_iff, wp_openCursor]
  split
  · exact Cursor.faithful_rewind _
  · exact Cursor.faithful_unopened

/-- What `advance?` comes to. -/
theorem wp_advance? {ok : Option Line → Reader → Prop} {bad : Error → Reader → Prop} :
    Wp advance? ok bad r ↔
      match r.cursor.started.ahead with
      | [] => ok none { r with cursor := r.cursor.started }
      | line :: ahead => ok (some line) { r with cursor := r.cursor.started.moved ahead } := by
  simp only [advance?, Wp.bind_iff, Wp.modify_iff, Wp.get_iff, Cursor.advance?]
  cases r.cursor.started.ahead <;> simp

theorem onward_hasNext : Leaves hasNext (Onward r) r := Cursor.Onward.started r.cursor

theorem onward_advance? : Leaves advance? (Onward r) r := by
  rw [Leaves, wp_advance?]
  split
  · exact .started _
  · rename_i line ahead hahead
    exact .trans (.started _) (.moved hahead)

theorem onward_current : Leaves current (Onward r) r := by
  simp only [current, Leaves, Wp.bind_iff, Wp.get_iff]
  split <;> exact .refl _

theorem onward_next : Leaves next (Onward r) r := by
  refine onward_advance?.bind fun taken t ht => ?_
  cases taken with
  | none => exact ht
  | some line =>
    simp only [current, Leaves, Wp.bind_iff, Wp.get_iff]
    split <;> exact ht

theorem onward_next? : Leaves next? (Onward r) r := by
  refine onward_advance?.bind fun taken t ht => ?_
  cases taken <;> exact ht

end Reader

namespace Classifier

variable {α : Type} {c : Classifier}

abbrev Onward (c c' : Classifier) : Prop := c.reader.Onward c'.reader

theorem faithful_openSource {resources : Resources} (source : Source)
    (trim compress : Option Bool) :
    Leaves (openSource resources source trim compress) (·.reader.cursor.Faithful) c := by
  rw [openSource, Leaves, Wp.bind_iff]
  exact Reader.faithful_openSource source trim compress

/-- What `advance?` comes to, apart from the label. -/
theorem wp_advance? {ok : Option Line → Reader → Prop} {bad : Error → Reader → Prop} :
    Wp advance? (fun line c => ok line c.reader) (fun e c => bad e c.reader) c ↔
      Wp Reader.advance? ok bad c.reader := by
  have step {f : Option Line → Act Classifier (Option Line)}
      (hf : ∀ taken d, Wp (f taken) (fun line c => ok line c.reader) (fun e c => bad e c.reader) d ↔
        ok taken d.reader) (d : Classifier) :
      Wp (onReader Reader.advance? >>= f) (fun line c => ok line c.reader)
          (fun e c => bad e c.reader) d ↔ Wp Reader.advance? ok bad d.reader := by
    rw [Wp.bind_iff, wp_onReader]
    exact Wp.congr (fun taken r => hf taken { d with reader := r }) fun e r => Iff.rfl
  have label (line : Line) (d : Classifier) :
      Wp (do clearLabel; determine line.text; return some line) (fun line c => ok line c.reader)
        (fun e c => bad e c.reader) d ↔ ok (some line) d.reader := by
    simp only [clearLabel, determine, Wp.bind_iff, Wp.modify_iff, Wp.get_iff,
      Wp.onlyIf_debug_iff, Wp.pure_iff]
  rw [advance?, Wp.bind_iff, Wp.get_iff]
  split
  · rw [Wp.bind_iff]
    refine step (fun taken d => ?_) { c with label := {} }
    cases taken with
    | none => exact Iff.rfl
    | some line => exact label line d
  · refine step (fun taken d => ?_) c
    cases taken with
    | none => exact Iff.rfl
    | some line => exact label line d

theorem onward_hasNext : Leaves hasNext (Onward c) c := by
  simp only [hasNext, Leaves, Wp.bind_iff, Wp.get_iff]
  split <;> exact Reader.onward_hasNext

theorem onward_advance? : Leaves advance? (Onward c) c :=
  (@wp_advance? c (fun _ r => c.reader.Onward r) fun _ r => c.reader.Onward r).mpr
    Reader.onward_advance?

theorem onward_next : Leaves next (Onward c) c := by
  refine onward_advance?.bind fun taken d hd => ?_
  cases taken with
  | none => exact hd
  | some line =>
    simp only [current, Leaves, Wp.bind_iff, Wp.get_iff]
    split <;> exact hd

theorem onward_next? : Leaves next? (Onward c) c := by
  refine onward_advance?.bind fun taken d hd => ?_
  cases taken <;> exact hd

theorem onward_current : Leaves current (Onward c) c := by
  simp only [current, Leaves, Wp.bind_iff, Wp.get_iff]
  split <;> exact .refl _

theorem onward_determine (line : Text) : Leaves (determine line) (Onward c) c := by
  simp only [determine, Leaves, Wp.bind_iff, Wp.modify_iff, Wp.get_iff, Wp.onlyIf_debug_iff]
  exact .refl _

end Classifier

namespace Scanner

variable {resources : Resources} {sc : Scanner} {s : Store}

abbrev Onward (sc : Scanner) (st : Scanner × Store) : Prop := sc.chain.Onward st.1.chain

theorem faithful_openSource (source : Source) (trim compress : Option Bool) :
    Leaves (openSource resources source trim compress)
      (fun st => ∀ d ∈ st.1.chain.cursors, d.Faithful) (sc, s) := by
  simp only [openSource, modifyChain, Leaves, Wp.bind_iff, Wp.modify_iff, Wp.get_iff, wp_openFrame]
  split
  · exact List.forall_mem_singleton.mpr (Cursor.faithful_rewind _)
  · exact List.forall_mem_singleton.mpr Cursor.faithful_unopened

theorem onward_hasNext : Leaves (hasNext resources) (Onward sc) (sc, s) :=
  leaves_iff.mpr (onward_settle _ _ _ s)

theorem onward_next? : Leaves (next? resources) (Onward sc) (sc, s) :=
  leaves_iff.mpr (onward_nextLine _ _ _ s)

theorem onward_next : Leaves (next resources) (Onward sc) (sc, s) := by
  refine onward_next?.bind fun taken t ht => ?_
  cases taken <;> exact ht

theorem onward_expand (t : Text) : Leaves (expand t) (Onward sc) (sc, s) :=
  (rests_expand t _).of_rests (.refl _)

theorem onward_current? : Leaves current? (Onward sc) (sc, s) :=
  (rests_current? _).of_rests (.refl _)

theorem onward_current : Leaves current (Onward sc) (sc, s) :=
  (rests_current _).of_rests (.refl _)

theorem onward_loadTable (reference : Text) :
    Leaves (loadTable resources reference) (Onward sc) (sc, s) :=
  leaves_iff.mpr (.refl _)

/-- Executing the current line again may put a source that has just been opened in place of
what the outermost one holds. It moves nothing else. -/
theorem executeCurrent_cursors (resources : Resources) (sc : Scanner) (s : Store) :
    Leaves (executeCurrent resources) (fun st => st.1.chain.cursors = sc.chain.cursors ∨
      ∃ held, held.Fresh ∧ st.1.chain.cursors = [sc.chain.frame.cursor, held]) (sc, s) := by
  simp only [executeCurrent, Leaves, Wp.bind_iff, Wp.get_iff]
  split
  · exact Or.inl rfl
  · split
    · exact Or.inl rfl
    · split
      · exact Or.inl rfl
      · rename_i builtin form
        rw [Wp.bind_iff, onStore, Wp.onSnd_iff]
        refine (fresh_execute sc.state builtin s).mono (fun effect t fresh => ?_)
          fun e t _ => Or.inl rfl
        cases effect with
        | done => exact Or.inl rfl
        | replayRequested => exact Or.inl rfl
        | entered g => exact Or.inr ⟨g.cursor, fresh, rfl⟩

end Scanner

namespace Run

variable {α : Type} {resources : Resources} {w : Walker} {s : Store} {op : Operation}

theorem onward_byFamily {r : Act Reader α} {c : Act Classifier α} {sc : Scanner.Scan α}
    (hr : ∀ x : Reader, Leaves r x.Onward x) (hc : ∀ x : Classifier, Leaves c x.Onward x)
    (hsc : ∀ x : Scanner, Leaves sc x.Onward (x, s)) :
    Leaves (byFamily r c sc) (fun st => w.Onward st.1) (w, s) := by
  rw [leaves_iff]
  cases w with
  | reader x => exact leaves_iff.mp (hr x)
  | classifier x => exact leaves_iff.mp (hc x)
  | scanner x => exact leaves_iff.mp (hsc x)

/-- What only scanners do. -/
theorem onward_onScanner {sc : Scanner.Scan α} (hsc : ∀ x : Scanner, Leaves sc x.Onward (x, s)) :
    Leaves (byFamily missing missing sc) (fun st => w.Onward st.1) (w, s) :=
  onward_byFamily (fun _ => Cursor.Onward.refl _) (fun _ => Cursor.Onward.refl _) hsc

/-- An operation that neither begins anew nor executes the current line again moves a walker
on, also where it fails. -/
theorem onward_perform (resources : Resources) (w : Walker) (s : Store) (restarts : ¬ op.Restarts)
    (executes : op ≠ .executeCurrent) :
    Leaves (perform resources op) (fun st => w.Onward st.1) (w, s) := by
  cases op with
  | openSource source trim compress => exact absurd trivial restarts
  | reset => exact absurd trivial restarts
  | rewind => exact absurd trivial restarts
  | executeCurrent => exact absurd rfl executes
  | hasNext =>
    exact (onward_byFamily (fun _ => Reader.onward_hasNext) (fun _ => Classifier.onward_hasNext)
      fun _ => Scanner.onward_hasNext).map _
  | next =>
    exact (onward_byFamily (fun _ => Reader.onward_next) (fun _ => Classifier.onward_next)
      fun _ => Scanner.onward_next).map _
  | next? =>
    exact (onward_byFamily (fun _ => Reader.onward_next?) (fun _ => Classifier.onward_next?)
      fun _ => Scanner.onward_next?).map _
  | current =>
    exact (onward_byFamily (fun _ => Reader.onward_current) (fun _ => Classifier.onward_current)
      fun _ => Scanner.onward_current).map _
  | current? =>
    refine (onward_byFamily (fun x => ?_) (fun x => ?_) fun x => ?_).map _
    · exact Cursor.Onward.refl _
    · exact Cursor.Onward.refl _
    · exact Scanner.onward_current?
  | ask q => exact .refl _
  | expand t => exact (onward_onScanner fun _ => Scanner.onward_expand t).map _
  | loadTable reference =>
    refine (onward_onScanner fun x => ?_).map _
    rw [Leaves, Wp.bind_iff, Wp.get_iff]
    by_cases loads : x.settings.kind.loadsTables
    · simp only [loads, if_true]
      exact Scanner.onward_loadTable reference
    · simp only [loads]
      exact Cursor.Onward.refl _
  | determine line =>
    refine (onward_byFamily (fun x => ?_) (fun x => ?_) fun x => ?_).map _
    · exact Cursor.Onward.refl _
    · exact Classifier.onward_determine line
    · exact Cursor.Onward.refl _

/-- Executing the current line again leaves the outermost source where it is. -/
theorem executeCurrent_cursors (resources : Resources) (w : Walker) (s : Store) :
    let after := (perform resources .executeCurrent (w, s)).state.1
    after.cursors = w.cursors ∨ ∃ held, held.Fresh ∧ after.cursors = [w.cursor, held] := by
  intro after
  have executed : Leaves (byFamily missing missing (Scanner.executeCurrent resources))
      (fun st => st.1.cursors = w.cursors ∨
        ∃ held, held.Fresh ∧ st.1.cursors = [w.cursor, held]) (w, s) := by
    rw [leaves_iff]
    cases w with
    | reader x => exact Or.inl rfl
    | classifier x => exact Or.inl rfl
    | scanner x => exact leaves_iff.mp (Scanner.executeCurrent_cursors resources x s)
  exact leaves_iff.mp (executed.map Answer.truth)

theorem faithful_byFamily {r : Act Reader Unit} {c : Act Classifier Unit}
    {sc : Scanner.Scan Unit} (h : w.Faithful)
    (hr : ∀ x, x.cursor.Faithful → Leaves r (·.cursor.Faithful) x)
    (hc : ∀ x, x.reader.cursor.Faithful → Leaves c (·.reader.cursor.Faithful) x)
    (hsc : ∀ x : Scanner, (∀ d ∈ x.chain.cursors, d.Faithful) →
      Leaves sc (fun st => ∀ d ∈ st.1.chain.cursors, d.Faithful) (x, s)) :
    Leaves (byFamily r c sc) (fun st => st.1.Faithful) (w, s) := by
  rw [leaves_iff]
  cases w with
  | reader x =>
    exact List.forall_mem_singleton.mpr (leaves_iff.mp (hr x (List.forall_mem_singleton.mp h)))
  | classifier x =>
    exact List.forall_mem_singleton.mpr (leaves_iff.mp (hc x (List.forall_mem_singleton.mp h)))
  | scanner x => exact leaves_iff.mp (hsc x h)

/-- No operation makes a walker lose its place, also where it fails. -/
theorem faithful_perform (resources : Resources) {w : Walker} (h : w.Faithful) (s : Store)
    (op : Operation) : (perform resources op (w, s)).state.1.Faithful := by
  by_cases restarts : op.Restarts
  · cases op with
    | openSource source trim compress =>
      refine leaves_iff.mp (Leaves.map (faithful_byFamily h (fun x _ => ?_) (fun x _ => ?_)
        fun x _ => ?_) _)
      · exact Reader.faithful_openSource source trim compress
      · exact Classifier.faithful_openSource source trim compress
      · exact Scanner.faithful_openSource source trim compress
    | reset =>
      refine leaves_iff.mp (Leaves.map (faithful_byFamily h (fun x _ => ?_) (fun x _ => ?_)
        fun x _ => ?_) _)
      · exact Cursor.faithful_unopened
      · exact Cursor.faithful_unopened
      · exact List.forall_mem_singleton.mpr Cursor.faithful_unopened
    | rewind =>
      refine leaves_iff.mp (Leaves.map (faithful_byFamily h (fun x _ => ?_) (fun x _ => ?_)
        fun x hx => ?_) _)
      · exact Cursor.faithful_rewind _
      · exact Cursor.faithful_rewind _
      · obtain ⟨-, held⟩ := List.forall_mem_cons.mp hx
        exact List.forall_mem_cons.mpr ⟨Cursor.faithful_rewind _, held⟩
    | _ => exact restarts.elim
  · by_cases executes : op = .executeCurrent
    · subst executes
      rcases executeCurrent_cursors resources w s with same | ⟨held, fresh, same⟩
      · rw [Walker.Faithful, same]
        exact h
      · rw [Walker.Faithful, same]
        have outer := Walker.faithful_cursor h
        exact List.forall_mem_cons.mpr ⟨outer, List.forall_mem_singleton.mpr fresh.faithful⟩
    · exact (leaves_iff.mp (onward_perform resources w s restarts executes)).faithful h

end Run

/-! ### Asking for the next line -/

/-- The two ways to ask for the next line are answered alike: with the same line, or for want of
one with an error and with none, or with the same other error. -/
inductive Offered {α β : Type} (line : Text → α) (maybe : Option Text → β) :
    Except Error α → Except Error β → Prop where
  | taken (t : Text) : Offered line maybe (.ok (line t)) (.ok (maybe (some t)))
  | missing {e : Error} (h : e.isMissingLine = true) :
    Offered line maybe (.error e) (.ok (maybe none))
  | failed {e : Error} (h : e.isMissingLine = false) : Offered line maybe (.error e) (.error e)

/-- Two ways to ask for the next line are answered alike and do the same. -/
structure Outcome.Offers {σ α β : Type} (line : Text → α) (maybe : Option Text → β)
    (o : Outcome σ α) (o' : Outcome σ β) : Prop where
  result : Offered line maybe o.result o'.result
  state : o.state = o'.state
  events : o.events = o'.events

open Outcome (Offers)

theorem Reader.offers_next {r : Reader} (h : r.cursor.Faithful) :
    Offers id id (next r) (next? r) := by
  have started : r.cursor.started.Faithful := h.started
  have moved : Wp advance? (fun taken r' => ∀ line, taken = some line →
      r'.cursor.current? = some line) (fun _ _ => False) r := by
    rw [wp_advance?]
    split
    · rintro line ⟨⟩
    · rename_i line ahead hahead
      rintro _ ⟨⟩
      exact started.current?_moved hahead
  rw [next, next?, bind_apply, bind_apply]
  rcases hrun : advance? r with ⟨e | taken, r', events⟩
  · exact (moved.fault hrun).elim
  · have here := moved.value hrun
    cases taken with
    | none => exact ⟨.missing rfl, rfl, rfl⟩
    | some line =>
      simp only [current, bind_apply, get_apply, here line rfl]
      exact ⟨.taken line.text, rfl, rfl⟩

theorem Classifier.offers_next (c : Classifier) : Offers id id (next c) (next? c) := by
  have never : Wp advance? (fun _ _ => True) (fun _ _ => False) c := by
    apply (@wp_advance? c (fun _ _ => True) fun _ _ => False).mpr
    rw [Reader.wp_advance?]
    split <;> trivial
  rw [next, next?, bind_apply, bind_apply]
  rcases hrun : advance? c with ⟨e | taken, d, events⟩
  · exact (never.fault hrun).elim
  · cases taken with
    | none => exact ⟨.missing rfl, rfl, rfl⟩
    | some line =>
      simp only [current, bind_apply, get_apply]
      cases d.current? with
      | none => exact ⟨.missing rfl, rfl, rfl⟩
      | some text => exact ⟨.taken text, rfl, rfl⟩

theorem Scanner.offers_next (resources : Resources) (st : Scanner × Store) :
    Offers id id (next resources st) (next? resources st) := by
  have found (e : Error) : (next? resources st).result = .error e → e.isMissingLine = false :=
    finds_nextLine _ _ _ _ e
  rw [next, bind_apply]
  rcases hrun : next? resources st with ⟨e | taken, st', events⟩
  · exact ⟨.failed (found e (by rw [hrun])), rfl, rfl⟩
  · cases taken with
    | none => exact ⟨.missing rfl, rfl, List.append_nil events⟩
    | some text => exact ⟨.taken text, rfl, List.append_nil events⟩

theorem Reader.advance?_at_end {r r' : Reader} {events : List Event}
    (asked : hasNext r = ⟨.ok false, r', events⟩) :
    r'.cursor.reading.isSome ∧ advance? r' = ⟨.ok none, r', []⟩ := by
  obtain ⟨empty, rfl, -⟩ : r.cursor.started.ahead = [] ∧
      { r with cursor := r.cursor.started } = r' ∧ events = [] := by
    simpa [hasNext, bind_apply] using asked
  have reading : r.cursor.started.reading.isSome := by
    cases hr : r.cursor.reading <;> simp [Cursor.started, hr, Cursor.rewind]
  have again : r.cursor.started.started = r.cursor.started := by
    cases hr : r.cursor.reading <;> simp [Cursor.started, hr, Cursor.rewind]
  refine ⟨reading, ?_⟩
  simp [advance?, bind_apply, again, Cursor.advance?, empty]

theorem Reader.next_at_end {r r' : Reader} {events : List Event}
    (asked : hasNext r = ⟨.ok false, r', events⟩) :
    ∃ e, e.isMissingLine = true ∧ next r' = ⟨.error e, r', []⟩ := by
  obtain ⟨-, ended⟩ := advance?_at_end asked
  exact ⟨.noMoreLines r'.cursor.position? r'.cursor.state, rfl, by simp [next, bind_apply, ended]⟩

theorem Classifier.next_at_end {c d : Classifier} {events : List Event}
    (asked : hasNext c = ⟨.ok false, d, events⟩) :
    ∃ e, e.isMissingLine = true ∧ next d = ⟨.error e, d, []⟩ := by
  have reader : Reader.hasNext c.reader = ⟨.ok false, d.reader, events⟩ := by
    rcases hrun : Reader.hasNext c.reader with ⟨result, r, made⟩
    cases hr : c.reader.cursor.reading <;>
      simp only [hasNext, clearLabel, onReader, bind_apply, get_apply, modify_apply, hr, hrun,
        Option.isNone_none, Option.isNone_some, if_true, Bool.false_eq_true, if_false,
        Outcome.mapState_mk, Outcome.after_mk, List.nil_append] at asked
    · cases asked
      rfl
    · cases asked
      rfl
  obtain ⟨reading, ended⟩ := Reader.advance?_at_end reader
  have read : d.reader.cursor.reading ≠ none := Option.isSome_iff_ne_none.mp reading
  refine ⟨.noMoreLines d.reader.cursor.position? d.reader.cursor.state, rfl, ?_⟩
  simp [next, advance?, bind_apply, onReader, read, ended]

theorem Scanner.next_at_end {resources : Resources} {st st' : Scanner × Store}
    {events : List Event} (asked : hasNext resources st = ⟨.ok false, st', events⟩) :
    ∃ e, e.isMissingLine = true ∧ next resources st' = ⟨.error e, st', []⟩ := by
  have ended := next?_of_finished (hasNext_again asked)
  exact ⟨.noNextLine st'.1.state, rfl, by simp [next, bind_apply, ended]⟩

namespace Run

variable {resources : Resources} {w : Walker} {s : Store}

theorem offers_answer {x : Run Text} {x' : Run (Option Text)} {st : Walker × Store}
    (h : Offers id id (x st) (x' st)) :
    Offers Answer.text Answer.maybe ((x >>= fun t => pure (.text t)) st)
      ((x' >>= fun t => pure (.maybe t)) st) := by
  obtain ⟨result, state, events⟩ := h
  rw [bind_apply, bind_apply]
  generalize x st = o at result state events ⊢
  generalize x' st = o' at result state events ⊢
  obtain ⟨r, t, early⟩ := o
  obtain ⟨r', t', early'⟩ := o'
  simp only at result state events
  subst state events
  cases result with
  | taken text => exact ⟨.taken text, rfl, rfl⟩
  | missing h => exact ⟨.missing h, rfl, List.append_nil early |>.symm⟩
  | failed h => exact ⟨.failed h, rfl, rfl⟩

theorem offers_next (resources : Resources) (h : w.Faithful) (s : Store) :
    Offers Answer.text Answer.maybe (perform resources .next (w, s))
      (perform resources .next? (w, s)) := by
  apply offers_answer
  cases w with
  | reader x =>
    obtain ⟨result, state, events⟩ := x.offers_next (List.forall_mem_singleton.mp h)
    exact ⟨result, congrArg (fun x => (Walker.reader x, s)) state, events⟩
  | classifier x =>
    obtain ⟨result, state, events⟩ := x.offers_next
    exact ⟨result, congrArg (fun x => (Walker.classifier x, s)) state, events⟩
  | scanner x =>
    obtain ⟨result, state, events⟩ := Scanner.offers_next resources (x, s)
    exact ⟨result, congrArg (fun st => (Walker.scanner st.1, st.2)) state, events⟩

/-- Where a walker has been read to its end, asking for the next line is an error and changes
nothing. -/
theorem next_at_end {events : List Event} {st : Walker × Store}
    (asked : perform resources .hasNext (w, s) = ⟨.ok (.truth false), st, events⟩) :
    ∃ e, e.isMissingLine = true ∧ perform resources .next st = ⟨.error e, st, []⟩ := by
  have ran : byFamily Reader.hasNext Classifier.hasNext (Scanner.hasNext resources) (w, s) =
      ⟨.ok false, st, events⟩ := by
    rw [perform, bind_apply] at asked
    rcases hrun : byFamily Reader.hasNext Classifier.hasNext (Scanner.hasNext resources) (w, s)
      with ⟨e | answer, st', made⟩
    · simp [hrun] at asked
    · simpa [hrun] using asked
  cases w with
  | reader x =>
    rcases hrun : Reader.hasNext x with ⟨e | answer, x', made⟩
    · simp [byFamily, hrun] at ran
    · obtain ⟨rfl, rfl, -⟩ : answer = false ∧ (Walker.reader x', s) = st ∧ made = events := by
        simpa [byFamily, hrun] using ran
      obtain ⟨e, missing, refused⟩ := Reader.next_at_end hrun
      exact ⟨e, missing, by simp [perform, bind_apply, byFamily, refused]⟩
  | classifier x =>
    rcases hrun : Classifier.hasNext x with ⟨e | answer, x', made⟩
    · simp [byFamily, hrun] at ran
    · obtain ⟨rfl, rfl, -⟩ : answer = false ∧ (Walker.classifier x', s) = st ∧ made = events := by
        simpa [byFamily, hrun] using ran
      obtain ⟨e, missing, refused⟩ := Classifier.next_at_end hrun
      exact ⟨e, missing, by simp [perform, bind_apply, byFamily, refused]⟩
  | scanner x =>
    rcases hrun : Scanner.hasNext resources (x, s) with ⟨e | answer, ⟨x', s'⟩, made⟩
    · simp [byFamily, hrun] at ran
    · obtain ⟨rfl, rfl, -⟩ : answer = false ∧ (Walker.scanner x', s') = st ∧ made = events := by
        simpa [byFamily, hrun] using ran
      obtain ⟨e, missing, refused⟩ := Scanner.next_at_end hrun
      exact ⟨e, missing, by simp [perform, bind_apply, byFamily, refused]⟩

end Run

/-! ### Histories -/

namespace Session

/-- Nothing that is done with the walker of this number begins anew. -/
def Continues (i : Nat) (turns : List Turn) : Prop :=
  ∀ turn ∈ turns, ∀ op, turn.Does i op → ¬ op.Restarts

/-- Nothing that is done with the walker of this number executes its current line again. -/
def ExecutesOnce (i : Nat) (turns : List Turn) : Prop :=
  ∀ turn ∈ turns, ∀ op, turn.Does i op → op ≠ .executeCurrent

/-- How a walker of a session keeps its place and goes on. -/
structure Protocol (resources : Resources) (se : Session) (i : Nat) (w : Walker) : Prop where
  /-- In every source that it reads, position and iterator record the same. -/
  faithful : ∀ c ∈ w.cursors, c.Faithful
  /-- The position never decreases, unless the walker begins anew. -/
  onward : ∀ later, Continues i later → ∃ w', (history resources later se).2.view i = some w' ∧
    w'.cursor.source = w.cursor.source ∧ w.cursor.place ≤ w'.cursor.place
  /-- Nor does the position in a source that it includes. -/
  further : ∀ later, Continues i later → ExecutesOnce i later →
    ∃ w', (history resources later se).2.view i = some w' ∧ Cursor.Further w.cursors w'.cursors
  /-- Executing the current line again puts at most a source that has just been opened in place
  of the included ones. -/
  executes : ∀ s, let after := (Run.perform resources .executeCurrent (w, s)).state.1
    after.cursors = w.cursors ∨ ∃ held, held.Fresh ∧ after.cursors = [w.cursor, held]
  /-- Where no next line follows, to ask for it is an error that changes nothing. -/
  ended : ∀ s st events, Run.perform resources .hasNext (w, s) = ⟨.ok (.truth false), st, events⟩ →
    ∃ e, e.isMissingLine = true ∧ Run.perform resources .next st = ⟨.error e, st, []⟩
  /-- The two ways to ask for the next line differ in their answer for want of one only. -/
  offers : ∀ s, Outcome.Offers Answer.text Answer.maybe (Run.perform resources .next (w, s))
    (Run.perform resources .next? (w, s))

theorem invariant_faithful (resources : Resources) : Invariant resources Walker.Faithful :=
  ⟨Walker.faithful_new, fun h s op => Run.faithful_perform resources h s op,
    Walker.faithful_duplicate, fun _ => Walker.faithful_spawn _⟩

variable {resources : Resources} {se : Session} {i : Nat} {w : Walker}

theorem further_history (hsep : se.Separate) (there : se.view i = some w) {later : List Turn}
    (continues : Continues i later) (once : ExecutesOnce i later) :
    ∃ w', (history resources later se).2.view i = some w' ∧
      Cursor.Further w.cursors w'.cursors := by
  refine view_history (fun w w' => Cursor.Further w.cursors w'.cursors) (fun w => .refl _)
    (fun huv hvw => huv.trans hvw) (fun op => ¬ op.Restarts ∧ op ≠ .executeCurrent)
    (fun w s op allowed => ?_) hsep there fun turn hturn op does => ?_
  · exact (leaves_iff.mp (Run.onward_perform resources w s allowed.1 allowed.2)).further
  · exact ⟨continues turn hturn op does, once turn hturn op does⟩

theorem outermost_perform (w : Walker) (s : Store) (op : Operation) (h : ¬ op.Restarts) :
    let after := (Run.perform resources op (w, s)).state.1
    after.cursor.source = w.cursor.source ∧ w.cursor.place ≤ after.cursor.place := by
  intro after
  by_cases executes : op = .executeCurrent
  · subst executes
    obtain ⟨held, hw⟩ := w.exists_cursors
    obtain ⟨held', hafter⟩ := after.exists_cursors
    have outer : after.cursor = w.cursor := by
      rcases Run.executeCurrent_cursors resources w s with same | ⟨fresh, -, same⟩
      · exact (List.cons.inj (hafter.symm.trans (same.trans hw))).1
      · exact (List.cons.inj (hafter.symm.trans same)).1
    rw [outer]
    exact ⟨rfl, Int.le_refl _⟩
  · exact Walker.Onward.outermost (leaves_iff.mp (Run.onward_perform resources w s h executes))

theorem outermost_history (hsep : se.Separate) (there : se.view i = some w) {later : List Turn}
    (continues : Continues i later) :
    ∃ w', (history resources later se).2.view i = some w' ∧
      w'.cursor.source = w.cursor.source ∧ w.cursor.place ≤ w'.cursor.place := by
  apply view_history (fun w w' => w'.cursor.source = w.cursor.source ∧
    w.cursor.place ≤ w'.cursor.place) (fun w => ⟨rfl, Int.le_refl _⟩)
    (fun huv hvw => ⟨hvw.1.trans huv.1, Int.le_trans huv.2 hvw.2⟩) (fun op => ¬ op.Restarts)
    outermost_perform hsep there continues

/-- **A walker keeps its place.** Whatever has happened to walkers that share a store, and
wherever it failed: each of them, with every source that it includes, stands where its iterator
says, and it goes on as the protocol says. -/
theorem walker_keeps_its_place (resources : Resources) (s : Store) (turns : List Turn) {i : Nat}
    {w : Walker} (there : (history resources turns { store := s }).2.view i = some w) :
    Protocol resources (history resources turns { store := s }).2 i w := by
  have faithful : w.Faithful := (invariant_faithful resources).reached there
  have separate := separate_history resources (separate_empty s) turns
  constructor
  · exact faithful
  · intro later continues
    exact outermost_history separate there continues
  · intro later continues once
    exact further_history separate there continues once
  · exact fun s => Run.executeCurrent_cursors resources w s
  · exact fun s st events asked => Run.next_at_end asked
  · exact fun s => Run.offers_next resources faithful s

def twoInside : Resources where
  objects := .ofList [("inner".toList, "first\nsecond".toList)]

/-- A scanner takes the first line of a source that its script includes, and is copied; then the
copy fails to execute its current line and asks for the next one. -/
def copied : List Turn :=
  [.make (.scanner .basic {} false) {} false,
    .step (.perform 0 (.openSource (.text "include !inner\nlast") none none)),
    .step (.perform 0 .next), .step (.duplicate 0), .step (.perform 1 .executeCurrent),
    .step (.perform 1 .next)]

/-- How far each cursor of a walker has come, and what its iterator still holds. -/
def placesOf (w : Walker) : List (Int × Option (List Text)) :=
  w.cursors.map fun c => (c.place, c.iterator?.map (·.map (·.text)))

/-- The copy has included the source again and stands at the first line of it once more. -/
theorem walker_keeps_its_place_copied :
    ∃ w, (history twoInside copied {}).2.view 1 = some w ∧
      placesOf w = [(1, some ["last".toList]), (1, some ["second".toList])] ∧
      Protocol twoInside (history twoInside copied {}).2 1 w := by
  have seen : ((history twoInside copied {}).2.view 1).map placesOf =
      some [(1, some ["last".toList]), (1, some ["second".toList])] := by
    decide +kernel
  obtain ⟨w, there, standing⟩ := Option.map_eq_some_iff.mp seen
  exact ⟨w, there, standing, walker_keeps_its_place twoInside {} copied there⟩

end Session

end CommandScript
