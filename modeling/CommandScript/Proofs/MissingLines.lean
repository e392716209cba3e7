import CommandScript.Proofs.Loading
import CommandScript.Proofs.Reporting

/-!
# Lines that are not there

To ask for a line that is not there is an error of its own. Settling takes a line only where
there is one, so whatever goes wrong on the way to the next line, it is never this error: who
asks for the next line is told by it that no more follows, and by nothing else.
-/

namespace CommandScript

def Error.isMissingLine : Error → Bool
  | noMoreLines .. | noNextLine .. | noCurrentLine .. => true
  | _ => false

namespace Act

/-- Wherever it starts, the action does not fail for want of a line. -/
def Finds {σ α : Type} (x : Act σ α) : Prop :=
  ∀ s e, (x s).result = .error e → e.isMissingLine = false

namespace Finds

variable {σ α β : Type}

theorem pure {a : α} : Finds (Pure.pure a : Act σ α) := by
  rintro s e ⟨⟩

theorem fail {e : Error} (h : e.isMissingLine = false) : Finds (Act.fail e : Act σ α) := by
  rintro s e' ⟨⟩
  exact h

theorem modify {f : σ → σ} : Finds (Act.modify f) := by
  rintro s e ⟨⟩

theorem emitAll {events : List Event} : Finds (Act.emitAll events : Act σ Unit) := by
  rintro s e ⟨⟩

theorem emit {event : Event} : Finds (Act.emit event : Act σ Unit) := by
  rintro s e ⟨⟩

theorem onlyIf_debug {condition : Bool} {channel : LogChannel} {message : Text} :
    Finds (onlyIf condition (debug channel message) : Act σ Unit) := by
  cases condition with
  | false => exact pure
  | true => exact emit

theorem bind {x : Act σ α} {f : α → Act σ β} (hx : Finds x) (hf : ∀ a, Finds (f a)) :
    Finds (x >>= f) := by
  intro s e failed
  have first := hx s e
  rw [bind_apply] at failed
  generalize x s = o at first failed
  obtain ⟨e' | a, t, events⟩ := o
  · cases failed
    exact first rfl
  · exact hf a t e failed

/-- What follows sees the error of the action as a value, which is not of this kind either. -/
theorem attempt_bind {x : Act σ α} {f : Except Error α → Act σ β} (hx : Finds x)
    (hok : ∀ a, Finds (f (.ok a)))
    (herror : ∀ e, e.isMissingLine = false → Finds (f (.error e))) :
    Finds (Act.attempt x >>= f) := by
  intro s e failed
  have first := hx s
  rw [bind_apply, attempt_apply] at failed
  generalize x s = o at first failed
  obtain ⟨e' | a, t, events⟩ := o
  · exact herror e' (first e' rfl) t e failed
  · exact hok a t e failed

end Finds

end Act

open Act

section

variable {resources : Resources} {settings : Settings}

theorem finds_expand {expander : Expander} {verbose : Bool} {t : Text} :
    Finds (Store.expand expander verbose t) := by
  intro s e failed
  rw [Store.expand_apply] at failed
  cases h : expander.expand s.registry t with
  | ok u => simp [h] at failed
  | error e' =>
    obtain ⟨reference, rfl⟩ := Expander.expand_error s.registry h
    rw [h] at failed
    cases failed
    rfl

theorem finds_surface {place : Text} {line : Line} : Finds (surface settings place line) :=
  .bind .onlyIf_debug fun _ => .bind finds_expand fun _ => .bind .emitAll fun _ => .pure

theorem Source.Fault.isMissingLine {t : Text} {e : Error} (h : Source.Fault t e) :
    e.isMissingLine = false := by
  cases h <;> rfl

theorem finds_openFrame {σ : Type} {t : Text} :
    Finds (openFrame resources settings (.text t) : Act σ Frame) := by
  intro s e failed
  rw [openFrame_apply] at failed
  cases h : (Source.text t).read resources with
  | ok opened => simp [h, Except.map] at failed
  | error e' =>
    rw [h] at failed
    cases failed
    exact (Source.read_fault h).isMissingLine

theorem finds_setGlobal {key value : Text} {guarded : Bool} :
    Finds (Store.setGlobal key value guarded) := by
  intro s e failed
  have kept := @wp_setGlobal s key value guarded
  rw [Wp, failed] at kept
  exact kept.elim

theorem finds_merge {label : Text} {values : Table} : Finds (Store.merge label values) := by
  intro s e failed
  have kept := @wp_merge s label values
  rw [Wp, failed] at kept
  exact kept.elim

theorem finds_executeInclude (place reference : Text) :
    Finds (executeInclude resources settings place reference) := by
  refine .bind finds_expand fun expanded => ?_
  refine .bind (.attempt_bind finds_openFrame (fun frame => .pure) fun e found => ?_) fun frame =>
    .bind .onlyIf_debug fun _ => .pure
  split
  · exact .pure
  · split
    · exact .bind .emit fun _ => .pure
    · exact .fail rfl
  · rename_i same
    cases same
    exact .fail found

theorem finds_executeProperties {load : Text → Act Store Table}
    (hload : ∀ reference, Finds (load reference)) (place label reference : Text) :
    Finds (executeProperties settings load place label reference) := by
  refine .bind finds_expand fun label => .bind finds_expand fun expanded => ?_
  obtain ⟨optional, named⟩ := Text.splitOptional expanded
  refine .bind (.attempt_bind (hload _) (fun values => .pure) fun e found => ?_) fun values =>
    .bind finds_merge fun _ => .bind .onlyIf_debug fun _ => .pure
  split
  · exact .pure
  · split
    · exact .fail rfl
    · split
      · exact .bind .emit fun _ => .pure
      · exact .fail rfl
  · rename_i same
    cases same
    exact .fail found

theorem finds_pauseFor {σ : Type} {seconds : Nat} :
    Finds (pauseFor resources seconds : Act σ Unit) := by
  rw [pauseFor]
  split
  · exact .emit
  · exact .fail rfl

theorem finds_execute {load : Text → Act Store Table} (hload : ∀ reference, Finds (load reference))
    (place : Text) (builtin : Builtin) : Finds (execute resources settings load place builtin) := by
  cases builtin with
  | includeSource reference => exact finds_executeInclude place reference
  | print expression =>
    refine .bind finds_expand fun expanded => ?_
    split
    · exact .bind .emitAll fun _ => .pure
    · exact .bind .emit fun _ => .pure
  | sleep digits =>
    simp only [execute, executeSleep]
    split
    · exact .fail rfl
    · exact .bind .emit fun _ => .bind finds_pauseFor fun _ => .pure
  | setProperty key value =>
    refine .bind finds_expand fun key => .bind finds_expand fun value => ?_
    exact .bind .onlyIf_debug fun _ => .bind finds_setGlobal fun _ => .pure
  | properties label reference => exact finds_executeProperties hload place label reference
  | record key value =>
    refine .bind finds_expand fun key => .bind finds_expand fun value => ?_
    exact .bind .modify fun _ => .bind .onlyIf_debug fun _ => .pure

theorem finds_executeLine {load : Text → Act Store Table}
    (hload : ∀ reference, Finds (load reference)) (place : Text) (line : Line) :
    Finds (executeLine resources settings load place line) := by
  refine .bind .onlyIf_debug fun _ => .bind finds_surface fun _ => ?_
  split
  · exact finds_execute hload place _
  · exact .fail rfl

theorem LinesSettle.finds {load : Text → Act Store Table} {enter : Frame → Store → Settled}
    (hload : ∀ reference, Finds (load reference))
    (henter : ∀ g s e, (enter g s).result = .error e → e.isMissingLine = false)
    {lines : List Line} {f : Frame} {s : Store} {o : Settled}
    (run : LinesSettle resources settings load enter lines f s o) {e : Error}
    (h : o.result = .error e) : e.isMissingLine = false := by
  induction run with
  | ended => cases h
  | ordinary => cases h
  | @failed line ahead f s t e events recognized executed =>
    cases h
    exact finds_executeLine hload _ line s e (by rw [executed])
  | @inside line ahead f g s t u c events inner result recognized executed entered unfinished =>
    have inside := henter g t e
    rw [entered] at inside
    exact inside h
  | passed recognized goes rest ih => exact ih h

theorem finds_takeNext (f : Frame) (included : List Frame) (s : Store) (e : Error)
    (h : (takeNext settings f included s).result = .error e) : e.isMissingLine = false := by
  obtain ⟨undefined, rfl⟩ := takeNext_error h
  rfl

theorem finds_readRecords {enter : Frame → Store → Settled}
    (henter : ∀ g s e, (enter g s).result = .error e → e.isMissingLine = false) (t : Text) :
    Finds (withOwnTarget (readRecords resources settings enter (.text t))) := by
  intro s e failed
  simp only [withOwnTarget, readRecords_apply] at failed
  cases h : (Source.text t).read resources with
  | error e' =>
    rw [h] at failed
    cases failed
    exact (Source.read_fault h).isMissingLine
  | ok opened =>
    obtain ⟨name, raw⟩ := opened
    simp only [h, Outcome.mapState, Outcome.result_after] at failed
    have settled := henter { cursor := .opened name (settings.linesOf raw) } { s with target := ∅ }
    generalize enter _ _ = o at settled failed
    obtain ⟨e' | _ | _, ⟨c, s'⟩, events⟩ := o
    · cases failed
      exact settled e rfl
    · cases failed
    · have taken := @finds_takeNext settings c.frame c.included s'
      simp only [tableOf] at failed
      generalize takeNext settings c.frame c.included s' = last at taken failed
      obtain ⟨e' | _, ⟨c', t'⟩, late⟩ := last
      · cases failed
        exact taken e rfl
      · cases failed
        rfl

/-- Settling never fails for want of a line. -/
theorem finds_settle (depth : Nat) (f : Frame) (included : List Frame) (s : Store) (e : Error)
    (h : (settle resources depth settings f included s).result = .error e) :
    e.isMissingLine = false := by
  revert e
  refine settle_induction (motive := fun _ _ _ _ _ o =>
    ∀ e, o.result = .error e → e.isMissingLine = false)
    ?tooDeep ?own ?finished ?within depth settings f included s
  case tooDeep =>
    rintro settings f included s e ⟨⟩
    rfl
  case own =>
    intro depth settings f s o ih run e h
    exact run.finds (finds_readRecords fun g s => ih settings.forRecords g [] s)
      (fun g s => ih settings g [] s) h
  case finished => exact fun _ _ _ _ _ _ _ _ _ _ _ own => own
  case within => exact fun _ _ _ _ _ _ _ _ _ _ _ _ inner => inner

/-- Where no more lines follow, the next one is none; that is no error. -/
theorem finds_nextLine (depth : Nat) (f : Frame) (included : List Frame) (s : Store) (e : Error)
    (h : (nextLine resources depth settings f included s).result = .error e) :
    e.isMissingLine = false := by
  have settled := @finds_settle resources settings depth f included s
  rw [nextLine_eq] at h
  generalize settle resources depth settings f included s = o at settled h
  obtain ⟨_ | _ | _, ⟨c, s'⟩, events⟩ := o
  · cases h
    exact settled _ rfl
  · cases h
  · exact finds_takeNext c.frame c.included s' e h

end

end CommandScript
