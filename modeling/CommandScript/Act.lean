import CommandScript.Error
import CommandScript.Event
import CommandScript.Registry

/-!
# Actions

An action runs on a state and gives a value or an error, the state after it, and
the events on the way. An error keeps both: what was done before it stays done.
-/

namespace CommandScript

/-- What a run from some state came to. -/
structure Outcome (σ α : Type) where
  result : Except Error α
  state : σ
  events : List Event

namespace Outcome

variable {σ τ α β : Type}

def after (earlier : List Event) (o : Outcome σ α) : Outcome σ α :=
  { o with events := earlier ++ o.events }

/-- Sees the state as another one. -/
def mapState (f : σ → τ) (o : Outcome σ α) : Outcome τ α := ⟨o.result, f o.state, o.events⟩

@[simp] theorem after_mk (earlier : List Event) (result : Except Error α) (state : σ)
    (events : List Event) :
    after earlier ⟨result, state, events⟩ = ⟨result, state, earlier ++ events⟩ := rfl

@[simp] theorem result_after (earlier : List Event) (o : Outcome σ α) :
    (o.after earlier).result = o.result := rfl

@[simp] theorem state_after (earlier : List Event) (o : Outcome σ α) :
    (o.after earlier).state = o.state := rfl

@[simp] theorem after_nil (o : Outcome σ α) : o.after [] = o := rfl

@[simp] theorem mapState_mk (f : σ → τ) (result : Except Error α) (state : σ)
    (events : List Event) : mapState f ⟨result, state, events⟩ = ⟨result, f state, events⟩ := rfl

end Outcome

/-- A computation on a state. -/
def Act (σ α : Type) : Type := σ → Outcome σ α

namespace Act

variable {σ τ α β : Type}

protected def pure (a : α) : Act σ α := fun s => ⟨.ok a, s, []⟩

/-- The first action, and on its success the second on the state it left. -/
protected def bind (x : Act σ α) (f : α → Act σ β) : Act σ β := fun s =>
  match x s with
  | ⟨.ok a, t, events⟩ => (f a t).after events
  | ⟨.error e, t, events⟩ => ⟨.error e, t, events⟩

instance : Monad (Act σ) where
  pure := Act.pure
  bind := Act.bind

def fail (e : Error) : Act σ α := fun s => ⟨.error e, s, []⟩

def get : Act σ σ := fun s => ⟨.ok s, s, []⟩

def modify (f : σ → σ) : Act σ Unit := fun s => ⟨.ok (), f s, []⟩

def emit (event : Event) : Act σ Unit := fun s => ⟨.ok (), s, [event]⟩

def emitAll (events : List Event) : Act σ Unit := fun s => ⟨.ok (), s, events⟩

def ofExcept : Except Error α → Act σ α
  | .ok a => Act.pure a
  | .error e => fail e

/-- The action with its error, if any, as a value. -/
def attempt (x : Act σ α) : Act σ (Except Error α) := fun s =>
  ⟨.ok (x s).result, (x s).state, (x s).events⟩

def onSnd (x : Act τ α) : Act (σ × τ) α := fun s => (x s.2).mapState (s.1, ·)

/-- Runs an action on a state of its own. -/
def startingFrom (s : σ) (x : Act σ α) : Act τ α := fun t => (x s).mapState fun _ => t

def log (level : LogLevel) (channel : LogChannel) (message : Text) : Act σ Unit :=
  emit (.logged ⟨level, channel, message⟩)

def debug (channel : LogChannel) (message : Text) : Act σ Unit := log .debug channel message

@[macro_inline]
def onlyIf (condition : Bool) (x : Act σ Unit) : Act σ Unit :=
  if condition then x else Act.pure ()

@[simp] theorem pure_apply (a : α) (s : σ) : (pure a : Act σ α) s = ⟨.ok a, s, []⟩ := rfl

@[simp] theorem fail_apply (e : Error) (s : σ) : (fail e : Act σ α) s = ⟨.error e, s, []⟩ := rfl

@[simp] theorem get_apply (s : σ) : get s = ⟨.ok s, s, []⟩ := rfl

@[simp] theorem modify_apply (f : σ → σ) (s : σ) : modify f s = ⟨.ok (), f s, []⟩ := rfl

@[simp] theorem emit_apply (event : Event) (s : σ) : emit event s = ⟨.ok (), s, [event]⟩ := rfl

@[simp] theorem emitAll_apply (events : List Event) (s : σ) :
    emitAll events s = ⟨.ok (), s, events⟩ := rfl

@[simp] theorem ofExcept_ok (a : α) (s : σ) : ofExcept (.ok a) s = ⟨.ok a, s, []⟩ := rfl

@[simp] theorem ofExcept_error (e : Error) (s : σ) :
    (ofExcept (.error e) : Act σ α) s = ⟨.error e, s, []⟩ := rfl

@[simp] theorem attempt_apply (x : Act σ α) (s : σ) :
    attempt x s = ⟨.ok (x s).result, (x s).state, (x s).events⟩ := rfl

@[simp] theorem log_apply (level : LogLevel) (channel : LogChannel) (message : Text) (s : σ) :
    log level channel message s = ⟨.ok (), s, [.logged ⟨level, channel, message⟩]⟩ := rfl

@[simp] theorem debug_apply (channel : LogChannel) (message : Text) (s : σ) :
    debug channel message s = ⟨.ok (), s, [.logged ⟨.debug, channel, message⟩]⟩ := rfl

@[simp] theorem onlyIf_true (x : Act σ Unit) : onlyIf true x = x := rfl

@[simp] theorem onlyIf_false (x : Act σ Unit) (s : σ) : onlyIf false x s = ⟨.ok (), s, []⟩ := rfl

theorem bind_apply (x : Act σ α) (f : α → Act σ β) (s : σ) :
    (x >>= f) s =
      match x s with
      | ⟨.ok a, t, events⟩ => (f a t).after events
      | ⟨.error e, t, events⟩ => ⟨.error e, t, events⟩ := rfl

end Act

end CommandScript
