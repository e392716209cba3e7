import CommandScript.Proofs.Conditions
import CommandScript.Proofs.Executions
import CommandScript.Proofs.Settling

/-!
# Requests for a replay

Only a line that prints a dash asks for a replay, and only where somebody answers. What is
loaded is read without anybody to answer, so a load never asks.
-/

namespace CommandScript

namespace Act

/-- Wherever it starts, the action asks for no replay. -/
def Mute {σ α : Type} (x : Act σ α) : Prop := ∀ s, .replayed ∉ (x s).events

namespace Mute

variable {σ α β : Type}

theorem pure {a : α} : Mute (Pure.pure a : Act σ α) := fun _ => List.not_mem_nil

theorem fail {e : Error} : Mute (Act.fail e : Act σ α) := fun _ => List.not_mem_nil

theorem get : Mute (Act.get : Act σ σ) := fun _ => List.not_mem_nil

theorem modify {f : σ → σ} : Mute (Act.modify f) := fun _ => List.not_mem_nil

theorem ofExcept {result : Except Error α} : Mute (Act.ofExcept result : Act σ α) := by
  cases result with
  | ok a => exact pure
  | error e => exact fail

theorem emitAll {events : List Event} (h : .replayed ∉ events) :
    Mute (Act.emitAll events : Act σ Unit) := fun _ => h

theorem emit {event : Event} (h : event ≠ .replayed) : Mute (Act.emit event : Act σ Unit) :=
  fun _ mem => h (List.mem_singleton.mp mem).symm

theorem log {level : LogLevel} {channel : LogChannel} {message : Text} :
    Mute (Act.log level channel message : Act σ Unit) :=
  emit (by rintro ⟨⟩)

theorem onlyIf_debug {condition : Bool} {channel : LogChannel} {message : Text} :
    Mute (onlyIf condition (debug channel message) : Act σ Unit) := by
  cases condition with
  | false => exact pure
  | true => exact log

theorem bind {x : Act σ α} {f : α → Act σ β} (hx : Mute x) (hf : ∀ a, Mute (f a)) :
    Mute (x >>= f) := by
  intro s
  have first := hx s
  rw [bind_apply]
  generalize x s = o at first ⊢
  obtain ⟨_ | a, t, events⟩ := o
  · exact first
  · exact List.not_mem_append first (hf a t)

theorem attempt {x : Act σ α} (hx : Mute x) : Mute (Act.attempt x) := hx

end Mute

end Act

open Act

section

variable {resources : Resources} {settings : Settings}

theorem mute_openingEvents (source : Source) :
    .replayed ∉ openingEvents resources settings source := by
  refine List.not_mem_append ?_ ?_
  · cases source.path? <;> simp
  · split
    · exact List.not_mem_nil
    · split <;> simp [ingestionLog]

theorem mute_openFrame {σ : Type} {source : Source} :
    Mute (openFrame resources settings source : Act σ Frame) := by
  intro s
  rw [openFrame_apply]
  exact mute_openingEvents source

theorem mute_expand {expander : Expander} {verbose : Bool} {t : Text} :
    Mute (Store.expand expander verbose t) :=
  .bind .get fun _ => .bind .ofExcept fun _ => .bind .onlyIf_debug fun _ => .pure

theorem mute_surface {place : Text} {line : Line} : Mute (surface settings place line) := by
  refine .bind .onlyIf_debug fun _ => ?_
  refine .bind mute_expand fun expanded => .bind (.emitAll ?_) fun _ => .pure
  split <;> simp

theorem mute_setGlobal {key value : Text} {guarded : Bool} :
    Mute (Store.setGlobal key value guarded) := by
  refine .bind .get fun s => ?_
  dsimp only
  split
  · exact .bind .modify fun _ => .pure
  · split
    · exact .bind .modify fun _ => .bind .log fun _ => .pure
    · exact .bind .log fun _ => .bind .modify fun _ => .pure

theorem mute_merge {label : Text} {values : Table} : Mute (Store.merge label values) := by
  refine .bind .get fun s => ?_
  dsimp only
  split
  · exact .bind .log fun _ => .bind .modify fun _ => .bind .get fun _ => .pure
  · exact .bind .modify fun _ => .bind .get fun _ => .pure

theorem mute_executeInclude (place reference : Text) :
    Mute (executeInclude resources settings place reference) := by
  refine .bind mute_expand fun u => .bind (.bind (.attempt mute_openFrame) fun opened => ?_)
    fun _ => .bind .onlyIf_debug fun _ => .pure
  split
  · exact .pure
  · split
    · exact .bind .log fun _ => .pure
    · exact .fail
  · exact .fail

theorem mute_executeProperties {load : Text → Act Store Table} (hload : ∀ reference,
    Mute (load reference)) (place label reference : Text) :
    Mute (executeProperties settings load place label reference) := by
  refine .bind mute_expand fun l => .bind mute_expand fun u => ?_
  obtain ⟨optional, named⟩ := Text.splitOptional u
  refine .bind (.bind (.attempt (hload _)) fun loaded => ?_) fun values =>
    .bind mute_merge fun _ => .bind .onlyIf_debug fun _ => .pure
  split
  · exact .pure
  · split
    · exact .fail
    · split
      · exact .bind .log fun _ => .pure
      · exact .fail
  · exact .fail

theorem mute_pauseFor {σ : Type} {seconds : Nat} :
    Mute (pauseFor resources seconds : Act σ Unit) := by
  rw [pauseFor]
  split
  · exact .emit (by rintro ⟨⟩)
  · exact .fail

/-- Without anybody to answer, no line asks. -/
theorem mute_execute (silent : settings.replays = false) {load : Text → Act Store Table}
    (hload : ∀ reference, Mute (load reference)) (place : Text) (builtin : Builtin) :
    Mute (execute resources settings load place builtin) := by
  cases builtin with
  | includeSource reference => exact mute_executeInclude place reference
  | print expression =>
    refine .bind mute_expand fun u => ?_
    split
    · refine .bind (.emitAll ?_) fun _ => .pure
      rw [silent]
      exact List.not_mem_nil
    · exact .bind (.emit (by rintro ⟨⟩)) fun _ => .pure
  | sleep digits =>
    simp only [execute, executeSleep]
    split
    · exact .fail
    · exact .bind .log fun _ => .bind mute_pauseFor fun _ => .pure
  | setProperty key value =>
    refine .bind mute_expand fun k => .bind mute_expand fun v => ?_
    exact .bind .onlyIf_debug fun _ => .bind mute_setGlobal fun _ => .pure
  | properties label reference => exact mute_executeProperties hload place label reference
  | record key value =>
    refine .bind mute_expand fun k => .bind mute_expand fun v => ?_
    exact .bind .modify fun _ => .bind .onlyIf_debug fun _ => .pure

theorem mute_executeLine (silent : settings.replays = false) {load : Text → Act Store Table}
    (hload : ∀ reference, Mute (load reference)) (place : Text) (line : Line) :
    Mute (executeLine resources settings load place line) := by
  refine .bind .onlyIf_debug fun _ => .bind mute_surface fun _ => ?_
  split
  · exact mute_execute silent hload place _
  · exact .fail

theorem mute_takeNext (f : Frame) (included : List Frame) (s : Store) :
    .replayed ∉ (takeNext settings f included s).events := by
  induction included generalizing f with
  | nil =>
    cases hahead : f.cursor.ahead with
    | nil =>
      simp only [takeNext, hahead]
      exact List.not_mem_nil
    | cons line ahead =>
      simp only [takeNext, hahead]
      exact mute_surface s
  | cons g rest ih => exact ih g

/-- Reading records asks for no replay if settling them does not. -/
theorem mute_readRecords {enter : Frame → Store → Settled}
    (henter : ∀ g s, .replayed ∉ (enter g s).events) (source : Source) :
    Mute (withOwnTarget (readRecords resources settings enter source)) := by
  intro s
  have opened := @mute_openingEvents resources settings source
  have table {o : Settled} (h : .replayed ∉ o.events) :
      .replayed ∉ (tableOf settings o).events := by
    obtain ⟨_ | _ | _, ⟨c, t⟩, inner⟩ := o
    · exact h
    · exact List.not_mem_append h (by simp)
    · have taken := @mute_takeNext settings c.frame c.included t
      simp only [tableOf]
      generalize takeNext settings c.frame c.included t = last at taken ⊢
      obtain ⟨_ | _, ⟨c', t'⟩, late⟩ := last
      · exact List.not_mem_append h taken
      · exact List.not_mem_append h taken
  simp only [withOwnTarget, readRecords_apply]
  rcases source.read resources with e | ⟨name, raw⟩
  · exact opened
  · exact List.not_mem_append opened (table (henter _ _))

/-- A scanner without anybody to answer asks for no replay. -/
theorem mute_settle (silent : settings.replays = false) (depth : Nat) (f : Frame)
    (included : List Frame) (s : Store) :
    .replayed ∉ (settle resources depth settings f included s).events :=
  settle_preserves (R := fun _ events _ => Event.replayed ∉ events)
    (P := fun settings => settings.replays = false) (fun _ => List.not_mem_nil)
    (fun first next => List.not_mem_append first next)
    (fun _ _ silent inner => mute_executeLine silent fun reference =>
      mute_readRecords (fun g s => inner g s rfl) (.text reference)) silent

/-- No load asks for a replay. -/
theorem mute_loadAt (depth : Nat) (settings : Settings) (reference : Text) :
    Mute (loadAt resources depth settings reference) :=
  mute_readRecords (fun g s => mute_settle rfl depth g [] s) (.text reference)

end

end CommandScript
