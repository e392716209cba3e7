import CommandScript.Proofs.Echo
import CommandScript.Proofs.Walk

/-!
# One echoed line

A line with an echo keyword does what it does without, at the same place of a walk. It says so
first, on two lines of output, unless its expansion fails. Errors name the place where a line
stands with its keyword, so they read differently.
-/

namespace CommandScript

/-- The same error, which may name another place. -/
inductive Error.Restated : Error → Error → Prop where
  | same (e : Error) : Restated e e
  | notFound (reference state state' : Text) :
    Restated (.notFound reference (some state)) (.notFound reference (some state'))
  | mismatch (state state' : Text) : Restated (.mismatch state) (.mismatch state')

/-- The same value or the same error, which may name another place. -/
inductive Error.ResultRestated {α : Type} : Except Error α → Except Error α → Prop where
  | ok (a : α) : ResultRestated (.ok a) (.ok a)
  | error {e e' : Error} (h : e.Restated e') : ResultRestated (.error e) (.error e')

open Error (Restated ResultRestated)
open Scanner (unlogged_append)

/-- The second run says something first, and then does the same besides its log. -/
structure Outcome.Announced {σ α : Type} (said : List Event) (o o' : Outcome σ α) : Prop where
  result : ResultRestated o.result o'.result
  state : o'.state = o.state
  events : Event.unlogged o'.events = said ++ Event.unlogged o.events

open Outcome (Announced)

namespace Outcome.Announced

variable {σ α β : Type} {said : List Event} {s : σ}

theorem refl (o : Outcome σ α) : Announced [] o o := by
  refine ⟨?_, rfl, rfl⟩
  cases o.result with
  | ok a => exact .ok a
  | error e => exact .error (.same e)

theorem bind {x x' : Act σ α} {k k' : α → Act σ β} (hx : Announced said (x s) (x' s))
    (hk : ∀ a t, Announced [] (k a t) (k' a t)) : Announced said ((x >>= k) s) ((x' >>= k') s) := by
  obtain ⟨result, state, events⟩ := hx
  rw [Act.bind_apply, Act.bind_apply]
  generalize x s = o at result state events ⊢
  generalize x' s = o' at result state events ⊢
  obtain ⟨r, t, early⟩ := o
  obtain ⟨r', t', early'⟩ := o'
  simp only at result state events
  subst state
  cases result with
  | error h => exact ⟨.error h, rfl, events⟩
  | ok a =>
    obtain ⟨result, state, late⟩ := hk a t'
    refine ⟨result, state, ?_⟩
    show Event.unlogged (_ ++ _) = _ ++ Event.unlogged (_ ++ _)
    rw [unlogged_append, unlogged_append, events, late, List.nil_append, List.append_assoc]

/-- The same action, and then two that agree on what it can give. -/
theorem bind_of_ok {x : Act σ α} {k k' : α → Act σ β}
    (hk : ∀ a, (x s).result = .ok a → Announced [] (k a (x s).state) (k' a (x s).state)) :
    Announced [] ((x >>= k) s) ((x >>= k') s) := by
  rw [Act.bind_apply, Act.bind_apply]
  generalize x s = o at hk
  obtain ⟨e | a, t, events⟩ := o
  · exact .refl _
  · obtain ⟨result, state, late⟩ := hk a rfl
    refine ⟨result, state, ?_⟩
    show Event.unlogged (events ++ _) = Event.unlogged (events ++ _)
    rw [unlogged_append, unlogged_append, late, List.nil_append]

/-- What goes before changes nothing and only logs. -/
theorem quiet_bind {γ : Type} {x : Act σ α} {x' : Act σ γ} {k : α → Act σ β} {k' : γ → Act σ β}
    {a : α} {c : γ} (hx : Act.Quietly x s a s) (hx' : Act.Quietly x' s c s)
    (hk : Announced said (k a s) (k' c s)) : Announced said ((x >>= k) s) ((x' >>= k') s) := by
  obtain ⟨log, quiet, run⟩ := hx
  obtain ⟨log', quiet', run'⟩ := hx'
  rw [Act.bind_apply, Act.bind_apply, run, run']
  obtain ⟨result, state, events⟩ := hk
  refine ⟨result, state, ?_⟩
  show Event.unlogged (_ ++ _) = _ ++ Event.unlogged (_ ++ _)
  rw [unlogged_append, unlogged_append, quiet, quiet', List.nil_append, List.nil_append, events]

theorem fail {e e' : Error} (h : e.Restated e') :
    Announced [] ((Act.fail e : Act σ α) s) ((Act.fail e' : Act σ α) s) := ⟨.error h, rfl, rfl⟩

end Outcome.Announced

section

variable {resources : Resources} {settings : Settings} {load : Text → Act Store Table} {s : Store}

/-! ### Executing at another place -/

theorem announced_executeInclude (place place' reference : Text) :
    Announced [] (executeInclude resources settings place reference s)
      (executeInclude resources settings place' reference s) := by
  refine .bind (.refl _) fun expanded t => ?_
  obtain ⟨optional, named⟩ := Text.splitOptional expanded
  refine .bind (.bind (.refl _) fun opened t => ?_) fun frame t => .refl _
  split
  · exact .refl _
  · split
    · exact .refl _
    · exact .fail (.notFound ..)
  · exact .refl _

theorem announced_executeProperties (place place' label reference : Text) :
    Announced [] (executeProperties settings load place label reference s)
      (executeProperties settings load place' label reference s) := by
  refine .bind (.refl _) fun label t => .bind (.refl _) fun expanded t => ?_
  obtain ⟨optional, named⟩ := Text.splitOptional expanded
  refine .bind (.bind (.refl _) fun loaded t => ?_) fun values t => .refl _
  split
  · exact .refl _
  · split
    · exact .refl _
    · split
      · exact .refl _
      · exact .fail (.notFound ..)
  · exact .refl _

/-- Where a line stands shows in its errors only. -/
theorem announced_execute (place place' : Text) (builtin : Builtin) :
    Announced [] (execute resources settings load place builtin s)
      (execute resources settings load place' builtin s) := by
  cases builtin with
  | includeSource reference => exact announced_executeInclude place place' reference
  | properties label reference => exact announced_executeProperties place place' label reference
  | _ => exact .refl _

/-! ### The echoed line -/

/-- What an echoed line says of itself: as it is written, and as it expands against the registry
of the moment. Where its expansion fails, it says nothing. -/
def Settings.echoOf (settings : Settings) (t : Text) (s : Store) : List Event :=
  match settings.expander.expand s.registry t with
  | .error _ => []
  | .ok u => [.wrote ("\tEcho (As-Is): " ++ t ++ "\n"),
      .wrote ("\tEcho (Macros-substituted): " ++ u ++ "\n")]

variable {line : Line}

theorem announced_surface (h : line.text.Echoable) (single : '\n' ∉ line.text)
    (place place' : Text) :
    Announced (settings.echoOf line.text s) (surface settings place line s)
      (surface settings place' line.withEcho s) := by
  refine .quiet_bind (.onlyIf_debug ..) (.onlyIf_debug ..) ?_
  have kept : splitEcho line.text = (false, line.text) := splitEcho_of_unechoed h.unechoed
  simp only [announce, kept, splitEcho_withEcho h single, Settings.echoOf, Act.bind_apply,
    Store.expand_apply]
  cases settings.expander.expand s.registry line.text with
  | error e => exact ⟨.error (.same e), rfl, rfl⟩
  | ok u =>
    refine ⟨.ok u, rfl, ?_⟩
    by_cases log : settings.options.verbose && u != line.text <;>
      simp [log, Event.unlogged]

theorem announced_executeLine (h : line.text.Echoable) (single : '\n' ∉ line.text)
    (place place' : Text) :
    Announced (settings.echoOf line.text s) (executeLine resources settings load place line s)
      (executeLine resources settings load place' line.withEcho s) := by
  refine .quiet_bind (.onlyIf_debug ..) (.onlyIf_debug ..) ?_
  refine .bind (announced_surface h single place place') fun _ t => ?_
  rw [withoutEcho_withEcho h single]
  cases settings.kind.builtin? (withoutEcho line.text) with
  | some builtin => exact announced_execute place place' builtin
  | none => exact .fail (.mismatch ..)

end

end CommandScript
