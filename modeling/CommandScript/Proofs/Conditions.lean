import CommandScript.Scanner.Settle

/-!
# Conditions on outcomes

A condition on what an action comes to is carried back through the action, step by
step, to a condition on the state it starts from. The rules below do this for every
way of making actions, so a property of a composed action follows by rewriting.
-/

namespace CommandScript

namespace Act

/-- Run from `s`, the action gives a value and a state that satisfy `ok`, or an error and
a state that satisfy `bad`. -/
def Wp {σ α : Type} (x : Act σ α) (ok : α → σ → Prop) (bad : Error → σ → Prop) (s : σ) : Prop :=
  match (x s).result with
  | .ok a => ok a (x s).state
  | .error e => bad e (x s).state

/-- Run from `s`, the action leaves a state that satisfies `P`, whether it fails or not. -/
abbrev Leaves {σ α : Type} (x : Act σ α) (P : σ → Prop) (s : σ) : Prop :=
  Wp x (fun _ t => P t) (fun _ t => P t) s

namespace Wp

variable {σ α β : Type} {ok ok' : α → σ → Prop} {bad bad' : Error → σ → Prop} {s : σ}

theorem mono {x : Act σ α} (h : Wp x ok bad s) (hok : ∀ a t, ok a t → ok' a t)
    (hbad : ∀ e t, bad e t → bad' e t) : Wp x ok' bad' s := by
  revert h
  rw [Wp, Wp]
  cases (x s).result with
  | ok a => exact hok a _
  | error e => exact hbad e _

theorem and {x : Act σ α} (h : Wp x ok bad s) (h' : Wp x ok' bad' s) :
    Wp x (fun a t => ok a t ∧ ok' a t) (fun e t => bad e t ∧ bad' e t) s := by
  revert h h'
  rw [Wp, Wp, Wp]
  cases (x s).result <;> exact And.intro

@[simp] theorem trivial_iff (x : Act σ α) :
    Wp x (fun _ _ => True) (fun _ _ => True) s ↔ True := by
  rw [Wp]
  cases (x s).result <;> exact Iff.rfl

theorem congr {x : Act σ α} (hok : ∀ a t, ok a t ↔ ok' a t) (hbad : ∀ e t, bad e t ↔ bad' e t) :
    Wp x ok bad s ↔ Wp x ok' bad' s :=
  ⟨fun h => h.mono (fun a t => (hok a t).mp) (fun e t => (hbad e t).mp),
    fun h => h.mono (fun a t => (hok a t).mpr) (fun e t => (hbad e t).mpr)⟩

/-- The condition on a value, where the action gives one. -/
theorem value {x : Act σ α} (h : Wp x ok bad s) {a : α} {t : σ} {events : List Event}
    (hrun : x s = ⟨.ok a, t, events⟩) : ok a t := by
  simpa only [Wp, hrun] using h

/-- The condition on an error, where the action fails. -/
theorem fault {x : Act σ α} (h : Wp x ok bad s) {e : Error} {t : σ} {events : List Event}
    (hrun : x s = ⟨.error e, t, events⟩) : bad e t := by
  simpa only [Wp, hrun] using h

@[simp] theorem pure_iff (a : α) : Wp (pure a : Act σ α) ok bad s ↔ ok a s := Iff.rfl

@[simp] theorem bind_iff {ok : β → σ → Prop} (x : Act σ α) (f : α → Act σ β) :
    Wp (x >>= f) ok bad s ↔ Wp x (fun a t => Wp (f a) ok bad t) bad s := by
  rw [Wp, Wp, bind_apply]
  obtain ⟨_ | a, t, events⟩ := x s <;> rfl

@[simp] theorem onSnd_iff {τ : Type} {x : Act τ α} {ok : α → σ × τ → Prop}
    {bad : Error → σ × τ → Prop} {st : σ × τ} :
    Wp x.onSnd ok bad st ↔
      Wp x (fun a t => ok a (st.1, t)) (fun e t => bad e (st.1, t)) st.2 := Iff.rfl

@[simp] theorem fail_iff (e : Error) : Wp (fail e : Act σ α) ok bad s ↔ bad e s := Iff.rfl

@[simp] theorem get_iff {ok : σ → σ → Prop} : Wp get ok bad s ↔ ok s s := Iff.rfl

@[simp] theorem modify_iff {ok : Unit → σ → Prop} (f : σ → σ) :
    Wp (modify f) ok bad s ↔ ok () (f s) := Iff.rfl

@[simp] theorem emit_iff {ok : Unit → σ → Prop} (event : Event) :
    Wp (emit event) ok bad s ↔ ok () s := Iff.rfl

@[simp] theorem emitAll_iff {ok : Unit → σ → Prop} (events : List Event) :
    Wp (emitAll events) ok bad s ↔ ok () s := Iff.rfl

@[simp] theorem log_iff {ok : Unit → σ → Prop} (level : LogLevel) (channel : LogChannel)
    (message : Text) : Wp (log level channel message) ok bad s ↔ ok () s := Iff.rfl

@[simp] theorem debug_iff {ok : Unit → σ → Prop} (channel : LogChannel) (message : Text) :
    Wp (debug channel message) ok bad s ↔ ok () s := Iff.rfl

@[simp] theorem ofExcept_iff (result : Except Error α) :
    Wp (ofExcept result) ok bad s ↔
      match result with
      | .ok a => ok a s
      | .error e => bad e s := by
  cases result <;> exact Iff.rfl

@[simp] theorem attempt_iff {ok : Except Error α → σ → Prop} (x : Act σ α) :
    Wp (attempt x) ok bad s ↔ Wp x (fun a t => ok (.ok a) t) (fun e t => ok (.error e) t) s := by
  rw [Wp, Wp, attempt_apply]
  cases (x s).result <;> exact Iff.rfl

/-- An action that only logs, run under a condition. -/
@[simp] theorem onlyIf_debug_iff {ok : Unit → σ → Prop} (condition : Bool) (channel : LogChannel)
    (message : Text) : Wp (onlyIf condition (debug channel message)) ok bad s ↔ ok () s := by
  cases condition <;> exact Iff.rfl

end Wp

section

variable {σ α β : Type} {x : Act σ α} {s : σ}

theorem leaves_iff {P : σ → Prop} : Leaves x P s ↔ P (x s).state := by
  rw [Leaves, Wp]
  cases (x s).result <;> exact Iff.rfl

/-- What the first action leaves, the second one keeps. -/
theorem Leaves.bind {P : σ → Prop} {f : α → Act σ β} (hx : Leaves x P s)
    (hf : ∀ a t, P t → Leaves (f a) P t) : Leaves (x >>= f) P s := by
  rw [Leaves, Wp.bind_iff]
  exact hx.mono hf fun e t h => h

theorem Leaves.map {P : σ → Prop} (h : Leaves x P s) (f : α → β) :
    Leaves (x >>= fun a => pure (f a)) P s :=
  h.bind fun _ _ ht => ht

/-- What leaves the state as it is, takes nothing away from it. -/
theorem Leaves.of_rests {P : σ → Prop} (h : Leaves x (· = s) s) (hs : P s) : Leaves x P s := by
  have same : (x s).state = s := leaves_iff.mp h
  rw [leaves_iff, same]
  exact hs

/-- Making something of the value leaves the state. -/
theorem state_map (x : Act σ α) (f : α → β) (s : σ) :
    ((x >>= fun a => pure (f a)) s).state = (x s).state := by
  rw [bind_apply]
  obtain ⟨_ | a, t, events⟩ := x s <;> rfl

end

end Act

open Act

section

variable {σ : Type} {bad : Error → σ → Prop} {s : σ}

@[simp] theorem wp_openCursor {ok : Cursor → σ → Prop} (resources : Resources) (source : Source)
    (options : Options) (separator : Option Text) :
    Wp (openCursor resources source options separator) ok bad s ↔
      match source.read resources with
      | .ok (name, raw) => ok (.opened name (Line.ingest options.toCleaning separator raw)) s
      | .error e => bad e s := by
  simp only [openCursor, openLines, openLinesBy, Wp.bind_iff, Wp.emitAll_iff, Wp.ofExcept_iff]
  cases source.read resources <;> simp [Line.ingest, Line.kept]

@[simp] theorem wp_openFrame {ok : Frame → σ → Prop} (resources : Resources) (settings : Settings)
    (source : Source) :
    Wp (openFrame resources settings source) ok bad s ↔
      match source.read resources with
      | .ok (name, raw) =>
        let lines := Line.ingest settings.options.toCleaning settings.kind.separator raw
        ok { cursor := .opened name lines } s
      | .error e => bad e s := by
  rw [openFrame, Wp.bind_iff, wp_openCursor]
  cases source.read resources <;> exact Iff.rfl

@[simp] theorem wp_logAdvance {ok : Unit → σ → Prop} (verbose : Bool) (place : Text) :
    Wp (logAdvance verbose place) ok bad s ↔ ok () s :=
  Wp.onlyIf_debug_iff ..

end

section

variable {resources : Resources} {settings : Settings} {ok : Effect → Store → Prop}
variable {bad : Error → Store → Prop} {s : Store}

/-- Expanding gives the text that the expander makes, and changes nothing. -/
@[simp] theorem wp_expand {ok : Text → Store → Prop} (expander : Expander) (verbose : Bool)
    (t : Text) :
    Wp (Store.expand expander verbose t) ok bad s ↔
      match expander.expand s.registry t with
      | .ok u => ok u s
      | .error e => bad e s := by
  rw [Wp, Store.expand_apply]
  cases expander.expand s.registry t <;> exact Iff.rfl

@[simp] theorem wp_surface {ok : Text → Store → Prop} (settings : Settings) (place : Text)
    (line : Line) :
    Wp (surface settings place line) ok bad s ↔
      match settings.expander.expand s.registry (withoutEcho line.text) with
      | .ok u => ok u s
      | .error e => bad e s := by
  rw [surface, Wp.bind_iff, wp_logAdvance, announce, withoutEcho]
  obtain ⟨echoed, bare⟩ := splitEcho line.text
  rw [Wp.bind_iff, wp_expand]
  cases settings.expander.expand s.registry bare <;> exact Iff.rfl

/-- Surfacing a line changes nothing. -/
theorem state_surface (settings : Settings) (place : Text) (line : Line) (s : Store) :
    (surface settings place line s).state = s := by
  have kept : Leaves (surface settings place line) (· = s) s := by
    rw [Leaves, wp_surface]
    split <;> rfl
  exact leaves_iff.mp kept

/-- Writing a script variable never fails. -/
theorem wp_setGlobal (key value : Text) (guarded : Bool) :
    Wp (Store.setGlobal key value guarded) (fun _ _ => True) (fun _ _ => False) s := by
  simp only [Store.setGlobal, Wp.bind_iff, Wp.get_iff]
  split
  · trivial
  · split <;> trivial

/-- Loading values under a label never fails. -/
theorem wp_merge (label : Text) (values : Table) :
    Wp (Store.merge label values) (fun _ _ => True) (fun _ _ => False) s := by
  simp only [Store.merge, Wp.bind_iff, Wp.get_iff]
  split <;> trivial

/-- Executing an `include` line enters the source that it names, or an empty one. -/
theorem wp_executeInclude (place reference : Text) :
    Wp (executeInclude resources settings place reference) ok bad s ↔
      match settings.expander.expand s.registry reference with
      | .error e => bad e s
      | .ok u =>
        let (optional, reference) := Text.splitOptional u
        match (Source.text reference).read resources with
        | .ok (name, raw) =>
          let lines := Line.ingest settings.options.toCleaning settings.kind.separator raw
          ok (.entered { cursor := .opened name lines }) s
        | .error (.notFound _ _) =>
          if optional then ok (.entered {}) s else bad (.notFound reference (some place)) s
        | .error e => bad e s := by
  simp only [executeInclude, expandPayload, debugIfVerbose, Wp.bind_iff, wp_expand]
  cases settings.expander.expand s.registry reference with
  | error e => exact Iff.rfl
  | ok u =>
    dsimp only
    rw [Wp.attempt_iff, wp_openFrame]
    cases (Source.text (Text.splitOptional u).2).read resources with
    | ok opened => simp only [Wp.pure_iff, Wp.onlyIf_debug_iff]
    | error e =>
      cases e with
      | notFound missing state =>
        cases (Text.splitOptional u).1 with
        | false => exact Iff.rfl
        | true =>
          simp only [if_true, Wp.bind_iff, Wp.debug_iff, Wp.pure_iff, Wp.onlyIf_debug_iff]
      | _ => exact Iff.rfl

theorem wp_executePrint (expression : Text) :
    Wp (executePrint settings expression) ok bad s ↔
      match settings.expander.expand s.registry expression with
      | .error e => bad e s
      | .ok u => if u = ['-'] then ok .replayRequested s else ok .done s := by
  simp only [executePrint, expandPayload, Wp.bind_iff, wp_expand]
  cases settings.expander.expand s.registry expression with
  | error e => exact Iff.rfl
  | ok u => by_cases h : u = ['-'] <;> simp [h]

theorem wp_executeSleep (digits : Text) :
    Wp (executeSleep resources digits) ok bad s ↔
      if digitLimit < digits.length then bad (.numeralTooLong (.digits digits.length)) s
      else if resources.keeps (Text.decimalValue digits) then ok .done s
      else bad (.numeralTooLong .seconds) s := by
  rw [executeSleep]
  split
  · rfl
  · simp only [pauseFor, Wp.bind_iff, Wp.log_iff]
    split <;> rfl

/-- Executing a `properties` line loads the source that it names and merges the table, or
nothing where an optional source itself is missing. -/
theorem wp_executeProperties (load : Text → Act Store Table) (place label reference : Text) :
    Wp (executeProperties settings load place label reference) ok bad s ↔
      match settings.expander.expand s.registry label with
      | .error e => bad e s
      | .ok label =>
        match settings.expander.expand s.registry reference with
        | .error e => bad e s
        | .ok u =>
          let (optional, reference) := Text.splitOptional u
          let source := Text.asFileReference reference
          let merged (values : Table) (t : Store) : Prop :=
            Wp (Store.merge label values) (fun _ t => ok .done t) bad t
          Wp (load source) merged
            (fun e t =>
              match e with
              | .notFound missing state =>
                if missing ≠ source then bad (.notFound missing state) t
                else if optional then merged ∅ t
                else bad (.notFound reference (some place)) t
              | e => bad e t) s := by
  simp only [executeProperties, expandPayload, debugIfVerbose, Wp.bind_iff, wp_expand,
    Wp.onlyIf_debug_iff, Wp.pure_iff]
  cases settings.expander.expand s.registry label with
  | error e => exact Iff.rfl
  | ok label =>
    cases settings.expander.expand s.registry reference with
    | error e => exact Iff.rfl
    | ok u =>
      dsimp only
      rw [Wp.attempt_iff]
      refine Wp.congr (fun values t => Iff.rfl) (fun e t => ?_)
      cases e with
      | notFound missing state =>
        dsimp only
        split
        · exact Iff.rfl
        · split <;> exact Iff.rfl
      | _ => exact Iff.rfl

end

end CommandScript
