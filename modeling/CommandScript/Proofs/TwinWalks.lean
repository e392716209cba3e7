import CommandScript.Proofs.EchoMarks

/-!
# Twin walks

Two walks may say different things first, and go on alike. Where lines stand then shows in
errors only: in the place of a line that names a missing source, and in the places of a line
that is no record. What a load hands out follows the walk over its source.
-/

namespace CommandScript

open Error (Restated ResultRestated)
open Event (unlogged)
open Scanner (unlogged_append)

/-! ### Twins -/

/-- Each of two runs said something first, and then both the same, log records apart. -/
def Event.Rejoin (said said' events events' : List Event) : Prop :=
  ∃ same, unlogged events = said ++ same ∧ unlogged events' = said' ++ same

/-- Errors of one class about the same reference. -/
inductive Error.Twin : Error → Error → Prop where
  | restated {e e' : Error} (h : e.Restated e') : Twin e e'
  | notARecord (state state' : Text) : Twin (.notARecord state) (.notARecord state')

/-- Two walks surface the same lines, come to the same store and fail alike or not at all. -/
structure Walked.Twin (said said' : List Event) (w w' : Walked) : Prop where
  lines : w'.lines = w.lines
  fault : Option.Rel Error.Twin w.fault w'.fault
  store : w'.store = w.store
  events : Event.Rejoin said said' w.events w'.events

/-- Two loads hand out the same table or fail alike, and come to the same store. -/
inductive Outcome.Twin (said said' : List Event) : Outcome Store Table → Outcome Store Table → Prop
  | loaded {table : Table} {s : Store} {events events' : List Event}
      (rejoin : Event.Rejoin said said' events events') :
      Twin said said' ⟨.ok table, s, events⟩ ⟨.ok table, s, events'⟩
  | failed {e e' : Error} {s : Store} {events events' : List Event} (twin : e.Twin e')
      (rejoin : Event.Rejoin said said' events events') :
      Twin said said' ⟨.error e, s, events⟩ ⟨.error e', s, events'⟩

namespace Event.Rejoin

variable {said said' events events' : List Event}

theorem refl (events : List Event) : Rejoin [] [] events events := ⟨unlogged events, rfl, rfl⟩

theorem of_unlogged (h : unlogged events = said) (h' : unlogged events' = said') :
    Rejoin said said' events events' :=
  ⟨[], by rw [h, List.append_nil], by rw [h', List.append_nil]⟩

theorem append {more more' : List Event} (h : Rejoin said said' events events')
    (late : Rejoin [] [] more more') :
    Rejoin said said' (events ++ more) (events' ++ more') := by
  obtain ⟨same, first, second⟩ := h
  obtain ⟨rest, third, fourth⟩ := late
  refine ⟨same ++ rest, ?_, ?_⟩
  · rw [unlogged_append, first, third, List.nil_append, List.append_assoc]
  · rw [unlogged_append, second, fourth, List.nil_append, List.append_assoc]

end Event.Rejoin

theorem Error.Twin.refl (e : Error) : e.Twin e := .restated (.same e)

theorem Error.Twin.refl_option (fault : Option Error) : Option.Rel Error.Twin fault fault := by
  cases fault with
  | none => exact .none
  | some e => exact .some (.refl e)

namespace Walked.Twin

variable {said said' : List Event} {w w' : Walked}

theorem refl (w : Walked) : Twin [] [] w w :=
  ⟨rfl, Error.Twin.refl_option w.fault, rfl, .refl w.events⟩

theorem failed {e e' : Error} (twin : e.Twin e') {s : Store} {events events' : List Event}
    (rejoin : Event.Rejoin said said' events events') :
    Twin said said' ⟨[], some e, s, events⟩ ⟨[], some e', s, events'⟩ :=
  ⟨rfl, .some twin, rfl, rejoin⟩

theorem after {events events' : List Event} (h : Twin [] [] w w')
    (rejoin : Event.Rejoin said said' events events') :
    Twin said said' (w.after events) (w'.after events') :=
  ⟨h.lines, h.fault, h.store, rejoin.append h.events⟩

theorem andThen {next next' : Store → Walked} (h : Twin said said' w w')
    (more : ∀ s, Twin [] [] (next s) (next' s)) :
    Twin said said' (w.andThen next) (w'.andThen next') := by
  obtain ⟨lines, fault, s, events⟩ := w
  obtain ⟨lines', fault', s', events'⟩ := w'
  obtain ⟨rfl, fault, rfl, rejoin⟩ := h
  cases fault with
  | some twin => exact ⟨rfl, .some twin, rfl, rejoin⟩
  | none =>
    obtain ⟨lines, fault, store, late⟩ := more s'
    exact ⟨congrArg (lines' ++ ·) lines, fault, store, rejoin.append late⟩

end Walked.Twin

/-! ### Where lines stand -/

section

variable {resources : Resources} {depth : Nat} {site : Site} {name : Text}

/-- The places of the lines that led to a walk show in its errors only. -/
theorem walkLines_twin (above : List Text) {load : Text → Act Store Table}
    {enter enter' : Text → Frame → Store → Walked}
    (henter : ∀ place g s, Walked.Twin [] [] (enter place g s) (enter' place g s))
    (lines : List Line) (s : Store) :
    Walked.Twin [] [] (walkLines resources site load enter name lines s)
      (walkLines resources { site with above := above } load enter' name lines s) := by
  have one (line : Line) (s : Store) :
      Walked.Twin [] [] (walkLine resources site load enter name line s)
        (walkLine resources { site with above := above } load enter' name line s) := by
    simp only [walkLine]
    split
    · rcases executeLine resources site.settings load (line.place name) line s with
        ⟨e | _ | _ | g, t, events⟩
      · exact .refl _
      · exact .refl _
      · exact .refl _
      · exact (henter _ g t).after (.refl events)
    · rcases surface site.settings (line.place name) line s with ⟨e | text, t, events⟩
      · exact .refl _
      · cases site.loading with
        | false => exact .refl _
        | true => exact .failed (.notARecord ..) (.refl events)
  induction lines generalizing s with
  | nil => exact .refl _
  | cons line rest ih => exact (one line s).andThen ih

theorem walk_twin (above : List Text) (lines : List Line) (s : Store) :
    Walked.Twin [] [] (walk resources depth site name lines s)
      (walk resources depth { site with above := above } name lines s) := by
  induction depth generalizing site above name lines s with
  | zero => exact .refl _
  | succ depth ih =>
    exact walkLines_twin above (fun place g s => @ih (site.within place) _ _ _ _) lines s

end

/-! ### What a load hands out -/

theorem Walked.Twin.loaded {said said' : List Event} {w w' : Walked} (h : Twin said said' w w')
    (name : Text) : Outcome.Twin said said' (w.loaded name) (w'.loaded name) := by
  obtain ⟨lines, fault, s, events⟩ := w
  obtain ⟨lines', fault', s', events'⟩ := w'
  obtain ⟨rfl, fault, rfl, rejoin⟩ := h
  cases fault with
  | some twin => exact .failed twin rejoin
  | none => exact .loaded (rejoin.append (.refl _))

/-- A load hands out what the walk over the sources that are still open comes to. -/
theorem tableOf_settle {resources : Resources} {depth : Nat} {settings : Settings} {f : Frame}
    {included : List Frame} {s : Store} (h : Chain.Sound ⟨f, included⟩) :
    tableOf settings (settle resources depth settings f included s) =
      (walkChain resources depth { settings := settings, loading := true } f included s).loaded
        (f.cursor.name.getD []) :=
  tableOf_of_begins h (settle_begins h)

/-- Settling loads a source by a walk over it. -/
theorem loadAt_eq (resources : Resources) (depth : Nat) (settings : Settings) :
    loadAt resources depth settings =
      loadByWalk resources settings (fun f => walk resources depth (.forRecords settings)
        (f.cursor.name.getD []) f.cursor.lines) := by
  refine loadAt_eq_loadByWalk fun f s hf hstart => ?_
  have begun : Settled.Begins resources depth (.forRecords settings)
      (walkChain resources depth (.forRecords settings) f [] s)
      (settle resources depth settings.forRecords f [] s) :=
    settle_begins (Chain.sound_single.mpr hf)
  rwa [walkChain_single, hstart] at begun

end CommandScript
