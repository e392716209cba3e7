import CommandScript.Proofs.Executions
import CommandScript.Proofs.Reporting

/-!
# What makes a script fail

A line that is executed can fail by itself: a pause may be written with too many digits, and
a source that the line opens may be missing or unreadable. Every error of a settled chain is
one of these, an unknown reference, or a line left over in a properties source. The other way
round, what an executed line fails with, that is what settling fails with. Only a missing
source need not stop it, because the source may be optional.
-/

namespace CommandScript

namespace ExecutedLine

/-- The line opens a source, which it names by one text and looks for by another. -/
inductive Opens (x : ExecutedLine) : Text → Text → Prop where
  | included {written u : Text} (form : x.builtin = .includeSource written)
      (named : x.settings.expander.expand x.store.registry written = .ok u) :
      Opens x (Text.splitOptional u).2 (Text.splitOptional u).2
  | loaded {label written l u : Text} (form : x.builtin = .properties label written)
      (labelled : x.settings.expander.expand x.store.registry label = .ok l)
      (named : x.settings.expander.expand x.store.registry written = .ok u) :
      Opens x (Text.splitOptional u).2 (Text.asFileReference (Text.splitOptional u).2)

/-- The line fails by itself, and not for an unknown reference. -/
inductive Fails (resources : Resources) (x : ExecutedLine) : Error → Prop where
  | sleep {digits : Text} (form : x.builtin = .sleep digits) (long : digitLimit < digits.length) :
      Fails resources x (.numeralTooLong (.digits digits.length))
  | pause {digits : Text} (form : x.builtin = .sleep digits) (short : digits.length ≤ digitLimit)
      (unkept : resources.keeps (Text.decimalValue digits) = false) :
      Fails resources x (.numeralTooLong .seconds)
  | missing {name source missing : Text} {state place : Option Text} (opens : x.Opens name source)
      (hread : (Source.text source).read resources = .error (.notFound missing state)) :
      Fails resources x (.notFound name place)
  | unread {name source : Text} {e : Error} (opens : x.Opens name source)
      (hread : (Source.text source).read resources = .error e)
      (found : ∀ missing state, e ≠ .notFound missing state) : Fails resources x e

/-- A name with a marker says where the source is looked for. -/
theorem Opens.source_eq {x : ExecutedLine} {name source : Text} (h : x.Opens name source)
    (marked : Marked name) : source = name := by
  cases h with
  | included => rfl
  | loaded =>
    obtain ⟨file, hname | hname⟩ := marked
    all_goals
      rw [hname]
      rfl

/-- A source that is missing under a marked name is found nowhere. -/
theorem Fails.not_found {resources : Resources} {x : ExecutedLine} {name : Text}
    {place : Option Text} (h : x.Fails resources (.notFound name place)) (marked : Marked name) :
    ∃ missing state, (Source.text name).read resources = .error (.notFound missing state) := by
  cases h with
  | missing opens hread =>
    rw [opens.source_eq marked] at hread
    exact ⟨_, _, hread⟩
  | unread opens hread found => exact absurd rfl (found name place)

end ExecutedLine

/-- The error comes from a line that was executed, from an unknown reference, from a line
left over in a properties source, or from sources that nest too deep. -/
inductive Error.Arises (resources : Resources) (executed : ExecutedLine → Prop) : Error → Prop where
  | line {x : ExecutedLine} {e : Error} (hx : executed x) (fails : x.Fails resources e) :
      Arises resources executed e
  | undefined {reference : Text} : Arises resources executed (.undefinedReference reference)
  | leftOver {state : Text} : Arises resources executed (.notARecord state)
  | tooDeep : Arises resources executed .tooDeep

namespace Error.Arises

variable {resources : Resources} {executed executed' : ExecutedLine → Prop} {e : Error}

theorem mono (h : e.Arises resources executed) (hle : ∀ x, executed x → executed' x) :
    e.Arises resources executed' := by
  cases h with
  | line hx fails => exact .line (hle _ hx) fails
  | undefined => exact .undefined
  | leftOver => exact .leftOver
  | tooDeep => exact .tooDeep

theorem of_expand {expander : Expander} {registry : Registry} {t : Text}
    (h : expander.expand registry t = .error e) : e.Arises resources executed := by
  obtain ⟨reference, rfl⟩ := Expander.expand_error registry h
  exact .undefined

/-- A source that is missing under a marked name is found nowhere. -/
theorem not_found {name : Text} {place : Option Text}
    (h : (notFound name place).Arises resources executed) (marked : Marked name) :
    ∃ missing state, (Source.text name).read resources = .error (.notFound missing state) := by
  cases h with
  | line hx fails => exact fails.not_found marked

end Error.Arises

open Act

/-! ### Every error arises from a line -/

section

variable {resources : Resources} {settings : Settings} {load : Text → Act Store Table}
variable {loads : Text → Store → ExecutedLine → Prop}

abbrev LoadArises (resources : Resources) (load : Text → Act Store Table)
    (loads : Text → Store → ExecutedLine → Prop) : Prop :=
  ∀ reference s, Wp (load reference) (fun _ _ => True)
    (fun e _ => (Source.text reference).read resources = .error e ∨
      e.Arises resources (loads reference s)) s

theorem arises_executeInclude (place reference : Text) (s : Store) :
    Wp (executeInclude resources settings place reference) (fun _ _ => True)
      (fun e _ => e.Arises resources
        (Builtin.Executes settings loads (.includeSource reference) s)) s := by
  rw [wp_executeInclude]
  split
  · exact .of_expand ‹_›
  · rename_i u hu
    have opens : ExecutedLine.Opens ⟨settings, .includeSource reference, s⟩ _ _ :=
      .included rfl hu
    dsimp only
    split
    · trivial
    · split
      · trivial
      · exact .line .itself (.missing opens ‹_›)
    · exact .line .itself (.unread opens ‹_› ‹_›)

theorem arises_executeProperties (hload : LoadArises resources load loads)
    (place label reference : Text) (s : Store) :
    Wp (executeProperties settings load place label reference) (fun _ _ => True)
      (fun e _ => e.Arises resources
        (Builtin.Executes settings loads (.properties label reference) s)) s := by
  rw [wp_executeProperties]
  split
  · exact .of_expand ‹_›
  · rename_i l hl
    split
    · exact .of_expand ‹_›
    · rename_i u hu
      have opens : ExecutedLine.Opens ⟨settings, .properties label reference, s⟩ _ _ :=
        .loaded rfl hl hu
      have marked := marked_asFileReference (Text.splitOptional u).2
      have merged (values : Table) (t : Store) :
          Wp (Store.merge l values) (fun _ _ => True) (fun e _ => e.Arises resources
            (Builtin.Executes settings loads (.properties label reference) s)) t :=
        (wp_merge l values).mono (fun _ _ _ => trivial) fun _ _ => False.elim
      have inside {e : Error} (arises : e.Arises resources
          (loads (Text.asFileReference (Text.splitOptional u).2) s)) :
          e.Arises resources (Builtin.Executes settings loads (.properties label reference) s) :=
        arises.mono fun x => .loaded rfl hl hu
      generalize Text.splitOptional u = named at opens marked inside ⊢
      obtain ⟨optional, name⟩ := named
      refine (hload _ s).mono (fun values t _ => merged values t) fun e t failed => ?_
      dsimp only
      split
      · rename_i missing state
        split
        · rename_i other
          rcases failed with unread | arises
          · cases Source.read_fault unread
            exact absurd rfl other
          · exact inside arises
        · rename_i same
          obtain rfl := not_not.mp same
          split
          · exact merged ∅ t
          · rcases failed with unread | arises
            · exact .line .itself (.missing opens unread)
            · obtain ⟨missing, state, unread⟩ := arises.not_found marked
              exact .line .itself (.missing opens unread)
      · rename_i found
        rcases failed with unread | arises
        · exact .line .itself (.unread opens unread found)
        · exact inside arises

theorem arises_execute (hload : LoadArises resources load loads) (place : Text)
    (builtin : Builtin) (s : Store) :
    Wp (execute resources settings load place builtin) (fun _ _ => True)
      (fun e _ => e.Arises resources (builtin.Executes settings loads s)) s := by
  cases builtin with
  | includeSource reference => exact arises_executeInclude place reference s
  | print expression =>
    simp only [execute, wp_executePrint]
    split
    · exact .of_expand ‹_›
    · split <;> trivial
  | sleep digits =>
    rw [execute, wp_executeSleep]
    split
    · exact .line .itself (.sleep rfl ‹_›)
    · rename_i short
      split
      · trivial
      · rename_i unkept
        refine .line .itself (.pause rfl (Nat.le_of_not_lt short) ?_)
        exact Bool.of_not_eq_true unkept
  | setProperty key value =>
    simp only [execute, executeSetProperty, expandPayload, debugIfVerbose, Wp.bind_iff,
      wp_expand, Wp.onlyIf_debug_iff]
    split
    · split
      · exact (wp_setGlobal ..).mono (fun _ _ _ => trivial) fun _ _ => False.elim
      · exact .of_expand ‹_›
    · exact .of_expand ‹_›
  | properties label reference => exact arises_executeProperties hload place label reference s
  | record key value =>
    simp only [execute, executeRecord, expandPayload, debugIfVerbose, Wp.bind_iff, wp_expand,
      Wp.onlyIf_debug_iff]
    split
    · split
      · trivial
      · exact .of_expand ‹_›
    · exact .of_expand ‹_›

/-- A line that is recognized fails at one that it executes. -/
theorem arises_executeLine (hkind : settings.kind ≠ .eager)
    (hload : LoadArises resources load loads) (place : Text) {line : Line}
    (recognized : settings.kind.recognizes line.text = true) (s : Store) :
    Wp (executeLine resources settings load place line) (fun _ _ => True)
      (fun e _ => e.Arises resources (line.Executes settings loads s)) s := by
  rw [← Kind.isSome_builtin? hkind] at recognized
  obtain ⟨builtin, form⟩ := Option.isSome_iff_exists.mp recognized
  rw [executeLine, Wp.bind_iff, Wp.onlyIf_debug_iff, Wp.bind_iff, wp_surface]
  split
  · rename_i t expanded
    rw [form]
    refine (arises_execute hload place builtin s).mono (fun _ _ _ => trivial) fun e _ arises => ?_
    exact arises.mono fun x => .surfaced expanded form
  · exact .of_expand ‹_›

/-- Settling one source fails at a line if what it loads and includes does. -/
theorem LinesSettle.arises (hkind : settings.kind ≠ .eager) {enter : Frame → Store → Settled}
    {enters : Frame → Store → ExecutedLine → Prop} (hload : LoadArises resources load loads)
    (henter : ∀ g s e, (enter g s).result = .error e → e.Arises resources (enters g s))
    {lines : List Line} {f : Frame} {s : Store} {o : Settled}
    (run : LinesSettle resources settings load enter lines f s o) {e : Error}
    (h : o.result = .error e) :
    e.Arises resources (LinesExecute resources settings load enter loads enters lines f s) := by
  induction run with
  | ended => cases h
  | ordinary => cases h
  | @failed line ahead f s t e events recognized executed =>
    cases h
    have arises := (arises_executeLine hkind hload _ recognized s).fault executed
    exact arises.mono fun x => .here recognized
  | @inside line ahead f g s t u c events inner result recognized executed entered unfinished =>
    have inside := henter g t e
    rw [entered] at inside
    exact (inside h).mono fun x => .inside recognized executed
  | passed recognized goes rest ih =>
    refine (ih h).mono fun x => ?_
    cases goes with
    | done executed => exact .later recognized executed
    | replayed executed => exact .replayed recognized executed
    | behind executed ended => exact .behind recognized executed ended

/-- Besides the errors of settling, a load fails on a line that is left over. -/
theorem arises_tableOf {executed : ExecutedLine → Prop} {o : Settled} {e : Error}
    (settled : ∀ e, o.result = .error e → e.Arises resources executed)
    (h : (tableOf settings o).result = .error e) : e.Arises resources executed := by
  obtain ⟨e' | _ | _, ⟨c, t⟩, events⟩ := o
  · cases h
    exact settled e rfl
  · cases h
  · have refused := @takeNext_error settings c.frame c.included t
    simp only [tableOf] at h
    generalize takeNext settings c.frame c.included t = last at refused h
    obtain ⟨e' | _, ⟨c', t'⟩, late⟩ := last
    · cases h
      obtain ⟨undefined, rfl⟩ := refused rfl
      exact .undefined
    · cases h
      exact .leftOver

/-- Loading fails at a line if settling does, where the source can be read. -/
theorem arises_readRecords {enter : Frame → Store → Settled}
    {enters : Frame → Store → ExecutedLine → Prop}
    (henter : ∀ g s e, (enter g s).result = .error e → e.Arises resources (enters g s)) :
    LoadArises resources
      (fun reference => withOwnTarget (readRecords resources settings enter (.text reference)))
      (fun reference => LoadExecutes resources settings enters (.text reference)) := by
  intro reference s
  simp only [Wp, withOwnTarget, readRecords_apply]
  cases hread : (Source.text reference).read resources with
  | error e => exact .inl rfl
  | ok opened =>
    obtain ⟨name, raw⟩ := opened
    have settled (e : Error) (failed : (enter { cursor := .opened name (settings.linesOf raw) }
        { s with target := ∅ }).result = .error e) :
        e.Arises resources (LoadExecutes resources settings enters (.text reference) s) :=
      (henter _ _ e failed).mono fun x executes => ⟨name, raw, hread, executes⟩
    have arises (e : Error) := @arises_tableOf resources settings _ _ e settled
    dsimp only [Outcome.mapState, Outcome.after]
    generalize (tableOf settings _).result = result at arises ⊢
    cases result with
    | error e => exact .inr (arises e rfl)
    | ok values => trivial

/-- **Every error arises from a line.** -/
theorem arises_settle (hkind : settings.kind ≠ .eager) (depth : Nat) (f : Frame)
    (included : List Frame) (s : Store) {e : Error}
    (h : (settle resources depth settings f included s).result = .error e) :
    e.Arises resources (Executes resources depth settings f included s) := by
  revert hkind e
  refine settle_induction (motive := fun depth settings f included s o => settings.kind ≠ .eager →
    ∀ {e : Error}, o.result = .error e →
      e.Arises resources (Executes resources depth settings f included s))
    ?tooDeep ?own ?finished ?within depth settings f included s
  case tooDeep =>
    rintro settings f included s hkind e ⟨⟩
    exact .tooDeep
  case own =>
    intro depth settings f s o ih run hkind e h
    exact run.arises hkind
      (arises_readRecords fun g s e => @ih settings.forRecords g [] s (by rintro ⟨⟩) e)
      (fun g s e => @ih settings g [] s hkind e) h
  case finished =>
    intro depth settings f g rest s c t events settled inner own hkind e h
    exact (own hkind h).mono fun x executes => .inr ⟨c, t, events, settled, executes⟩
  case within =>
    intro depth settings f g rest s result c t events settled unfinished inner hkind e h
    exact (inner hkind h).mono fun x => .inl

end

/-! ### What a line fails with, that is the error -/

abbrev Act.FailsWith {σ α : Type} (x : Act σ α) (e : Error) (s : σ) : Prop :=
  Wp x (fun _ _ => False) (fun e' _ => e' = e) s

theorem Act.FailsWith.run {σ α : Type} {x : Act σ α} {e : Error} {s : σ} (h : FailsWith x e s) :
    ∃ t events, x s = ⟨.error e, t, events⟩ := by
  rw [FailsWith, Wp] at h
  generalize x s = o at h ⊢
  obtain ⟨e' | a, t, events⟩ := o
  · obtain rfl : e' = e := h
    exact ⟨t, events, rfl⟩
  · exact h.elim

section

variable {resources : Resources} {settings : Settings} {load : Text → Act Store Table}
variable {loads : Text → Store → ExecutedLine → Prop} {e : Error} {x : ExecutedLine} {s : Store}

theorem fails_executeProperties {place label reference l u : Text}
    (found : ∀ missing state, e ≠ .notFound missing state)
    (hl : settings.expander.expand s.registry label = .ok l)
    (hu : settings.expander.expand s.registry reference = .ok u)
    (h : FailsWith (load (Text.asFileReference (Text.splitOptional u).2)) e s) :
    FailsWith (executeProperties settings load place label reference) e s := by
  rw [FailsWith, wp_executeProperties, hl]
  dsimp only
  rw [hu]
  refine h.mono (fun _ _ => False.elim) fun e' t same => ?_
  subst same
  split
  · exact absurd rfl (found _ _)
  · rfl

/-- The error of the load or of the line itself is that of the execution. -/
theorem fails_execute (found : ∀ missing state, e ≠ .notFound missing state)
    (hread : ∀ reference s, (Source.text reference).read resources = .error e →
      FailsWith (load reference) e s)
    (hload : ∀ reference s, loads reference s x → FailsWith (load reference) e s)
    (fails : x.Fails resources e) (place : Text) {builtin : Builtin}
    (h : builtin.Executes settings loads s x) :
    FailsWith (execute resources settings load place builtin) e s := by
  cases h with
  | loaded form labelled named inside =>
    subst form
    exact fails_executeProperties found labelled named (hload _ s inside)
  | itself =>
    cases fails with
    | sleep form long =>
      obtain rfl := form
      rw [FailsWith, execute, wp_executeSleep, if_pos long]
    | pause form short unkept =>
      obtain rfl := form
      rw [FailsWith, execute, wp_executeSleep, if_neg (Nat.not_lt_of_le short), unkept]
      exact Eq.refl _
    | missing opens hread => exact absurd rfl (found _ _)
    | unread opens unread =>
      cases opens with
      | included form named =>
        obtain rfl := form
        rw [FailsWith, execute, wp_executeInclude]
        dsimp only at named
        rw [named]
        dsimp only
        rw [unread]
        split
        · exact absurd ‹_› (by rintro ⟨⟩)
        · rename_i same
          cases same
          exact absurd rfl (found _ _)
        · rename_i same
          exact (Except.error.inj same).symm
      | loaded form labelled named =>
        obtain rfl := form
        exact fails_executeProperties found labelled named (hread _ s unread)

theorem fails_executeLine (found : ∀ missing state, e ≠ .notFound missing state)
    (hread : ∀ reference s, (Source.text reference).read resources = .error e →
      FailsWith (load reference) e s)
    (hload : ∀ reference s, loads reference s x → FailsWith (load reference) e s)
    (fails : x.Fails resources e) (place : Text) {line : Line}
    (h : line.Executes settings loads s x) :
    FailsWith (executeLine resources settings load place line) e s := by
  obtain ⟨expanded, form, executes⟩ := h
  rw [FailsWith, executeLine, Wp.bind_iff, Wp.onlyIf_debug_iff, Wp.bind_iff, wp_surface, expanded]
  dsimp only
  rw [form]
  exact fails_execute found hread hload fails place executes

/-- Settling one source fails with the error of a line that it executes. -/
theorem fails_settleLines {enter : Frame → Store → Settled}
    {enters : Frame → Store → ExecutedLine → Prop}
    (hline : ∀ place line s, Line.Executes settings loads line s x →
      FailsWith (executeLine resources settings load place line) e s)
    (henter : ∀ g s, enters g s x → (enter g s).result = .error e)
    {lines : List Line} {f : Frame}
    (h : LinesExecute resources settings load enter loads enters lines f s x) :
    (settleLines resources settings load enter lines f s).result = .error e := by
  induction h with
  | @here line ahead f s x recognized executes =>
    obtain ⟨t, events, run⟩ := (hline (f.moved line ahead).cursor.state line s executes).run
    simp only [settleLines, if_pos recognized, run]
  | later recognized done rest ih =>
    simp only [settleLines, if_pos recognized, done, Outcome.result_after]
    exact ih hline henter
  | replayed recognized done rest ih =>
    simp only [settleLines, if_pos recognized, done, Outcome.result_after]
    exact ih hline henter
  | @inside line ahead f g s s' events x recognized entered inner =>
    have failed := henter g s' inner
    simp only [settleLines, if_pos recognized, entered]
    generalize enter g s' = o at failed ⊢
    obtain ⟨result, ⟨c, t⟩, more⟩ := o
    obtain rfl : result = .error e := failed
    rfl
  | behind recognized entered ended rest ih =>
    simp only [settleLines, if_pos recognized, entered, ended, Outcome.result_after]
    exact ih hline henter

/-- A load fails with the error of reading its source. -/
theorem fails_readRecords_unread {enter : Frame → Store → Settled} {source : Source}
    (h : source.read resources = .error e) :
    FailsWith (withOwnTarget (readRecords resources settings enter source)) e s := by
  simp only [FailsWith, Wp, withOwnTarget, readRecords_apply, h]
  rfl

/-- A load fails with the error of settling what it executes. -/
theorem fails_readRecords {enter : Frame → Store → Settled}
    {enters : Frame → Store → ExecutedLine → Prop} {source : Source}
    (henter : ∀ g s, enters g s x → (enter g s).result = .error e)
    (h : LoadExecutes resources settings enters source s x) :
    FailsWith (withOwnTarget (readRecords resources settings enter source)) e s := by
  obtain ⟨name, raw, hread, inside⟩ := h
  have failed := henter _ _ inside
  simp only [FailsWith, Wp, withOwnTarget, readRecords_apply, hread]
  generalize enter { cursor := .opened name (settings.linesOf raw) } { s with target := ∅ } = o
    at failed ⊢
  obtain ⟨result, ⟨c, t⟩, more⟩ := o
  obtain rfl : result = .error e := failed
  rfl

/-- **What a line fails with, that is the error**, unless it is for want of a source. -/
theorem fails_settle (found : ∀ missing state, e ≠ .notFound missing state)
    (fails : x.Fails resources e) {depth : Nat} {f : Frame} {included : List Frame}
    (h : Executes resources depth settings f included s x) :
    (settle resources depth settings f included s).result = .error e := by
  induction depth generalizing settings f included s with
  | zero => exact h.elim
  | succ depth ih =>
    have own {s : Store} (h : Executes resources (depth + 1) settings f [] s x) :
        (settle resources (depth + 1) settings f [] s).result = .error e := by
      refine fails_settleLines (fun place line s executes => ?_) (fun g s => ih) h
      refine fails_executeLine found (fun reference s => ?_) (fun reference s inside => ?_) fails
        place executes
      · exact fails_readRecords_unread
      · exact fails_readRecords (fun g s => ih) inside
    cases included with
    | nil => exact own h
    | cons g rest =>
      rcases h with inner | ⟨c, s', events, hset, executes⟩
      · have failed := ih inner
        rcases settled : settle resources depth settings g rest s with ⟨result, ⟨c, t⟩, more⟩
        obtain rfl : result = .error e := (congrArg Outcome.result settled).symm.trans failed
        rw [settle_of_within settled (by rintro ⟨⟩)]
      · rw [settle_of_finished hset]
        exact own executes

end

end CommandScript
