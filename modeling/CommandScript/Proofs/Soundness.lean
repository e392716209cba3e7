import CommandScript.Proofs.Conditions
import CommandScript.Proofs.Settling

/-!
# Sound cursors

The lines ahead of a cursor are stored beside its position, so the two could come
apart. They never do: whatever is done to a cursor, the lines ahead are those of its
source from the position on. A scanner keeps every cursor of its chain in that order,
also where a line fails.
-/

namespace CommandScript

/-- The lines ahead are the lines of the source from the position on, and a source that
has lines has a name. -/
structure Cursor.Sound (c : Cursor) : Prop where
  ahead : c.ahead = c.lines.drop (c.position?.getD 0)
  named : c.lines ≠ [] → c.name.isSome

namespace Cursor

def source (c : Cursor) : Option Text × List Line := (c.name, c.lines)

theorem sound_unopened : Cursor.unopened.Sound := ⟨rfl, fun h => absurd rfl h⟩

theorem sound_opened (name : Text) (lines : List Line) : (Cursor.opened name lines).Sound :=
  ⟨rfl, fun _ => rfl⟩

namespace Sound

variable {c : Cursor} {line : Line} {rest : List Line}

theorem rewind (h : c.Sound) : c.rewind.Sound := ⟨rfl, h.named⟩

theorem started (h : c.Sound) : c.started.Sound := by
  rw [Cursor.started]
  split
  · exact h.rewind
  · exact h

/-- Beginning to read brings no line. -/
theorem ahead_started (h : c.Sound) : c.started.ahead = c.ahead := by
  cases hr : c.reading with
  | none =>
    have started : c.started.ahead = c.lines := by simp only [Cursor.started, hr]; rfl
    have whole : c.position?.getD 0 = 0 := by simp only [position?, hr]; rfl
    rw [started, h.ahead, whole, List.drop_zero]
  | some r => simp only [Cursor.started, hr]

theorem moved (h : c.Sound) (hahead : c.ahead = line :: rest) : (c.moved rest).Sound := by
  refine ⟨?_, h.named⟩
  have tail : rest = (c.lines.drop (c.position?.getD 0)).drop 1 := by
    rw [← h.ahead, hahead, List.drop_one, List.tail_cons]
  rw [List.drop_drop] at tail
  exact tail

theorem current?_moved (h : c.Sound) (hahead : c.ahead = line :: rest) :
    (c.moved rest).current? = some line := by
  have first : c.lines[c.position?.getD 0]? = some line := by
    rw [← List.head?_drop, ← h.ahead, hahead, List.head?_cons]
  exact first

/-- A line that has just been taken is where the cursor stands. -/
theorem state_moved (h : c.Sound) (hahead : c.ahead = line :: rest) :
    (c.moved rest).state = line.place (c.name.getD []) := by
  have lines : c.lines ≠ [] := by
    intro hnil
    rw [h.ahead, hnil, List.drop_nil] at hahead
    cases hahead
  obtain ⟨name, hname⟩ := Option.isSome_iff_exists.mp (h.named lines)
  have moved : (c.moved rest).name = some name := hname
  simp only [state, moved, h.current?_moved hahead, hname, Option.getD_some]

/-- A copy, which counts its own way to the lines ahead, finds the same ones. -/
theorem duplicate_eq (h : c.Sound) : c.duplicate = c := by
  obtain ⟨name, lines, reading⟩ := c
  cases reading with
  | none => rfl
  | some r =>
    have ahead : r.ahead = lines.drop r.position := h.ahead
    simp only [duplicate, Option.map_some, ← ahead]

end Sound

end Cursor

namespace Frame

theorem started_cursor (f : Frame) : f.started.cursor = f.cursor.started := by
  cases hr : f.cursor.reading <;> simp only [started, Cursor.started, hr]
  rfl

/-- Beginning to read leaves the name and the lines. -/
theorem source_started (f : Frame) : f.started.cursor.source = f.cursor.source := by
  rw [started_cursor, Cursor.started]
  split <;> rfl

theorem cursor_moved (f : Frame) (line : Line) (rest : List Line) :
    (f.moved line rest).cursor = f.cursor.moved rest := rfl

end Frame

/-- Every cursor of the chain is sound. -/
def Chain.Sound (c : Chain) : Prop := ∀ f ∈ c.frame :: c.included, f.cursor.Sound

namespace Chain

variable {f g : Frame} {rest : List Frame}

theorem sound_cons : Chain.Sound ⟨f, g :: rest⟩ ↔ f.cursor.Sound ∧ Chain.Sound ⟨g, rest⟩ :=
  List.forall_mem_cons

theorem sound_single : Chain.Sound ⟨f, []⟩ ↔ f.cursor.Sound := List.forall_mem_singleton

theorem Sound.frame {c : Chain} (h : c.Sound) : c.frame.cursor.Sound := h c.frame List.mem_cons_self

/-- A copy of a sound chain is the chain itself. -/
theorem Sound.duplicate_eq {c : Chain} (h : c.Sound) : c.duplicate = c := by
  have copied : ∀ f ∈ c.frame :: c.included, f.duplicate = f := fun f hf => by
    simp only [Frame.duplicate, (h f hf).duplicate_eq]
  have included : c.included.map Frame.duplicate = c.included :=
    (List.map_congr_left fun f hf => copied f (List.mem_cons_of_mem _ hf)).trans (List.map_id _)
  simp only [duplicate, copied c.frame List.mem_cons_self, included]

end Chain

/-- What a built-in means for the scanner that executes it on a store. -/
inductive Effect.Of (settings : Settings) (builtin : Builtin) (s : Store) : Effect → Prop where
  | done (stays : ∀ reference, builtin ≠ .includeSource reference)
    (other : ∀ expression, builtin = .print expression →
      settings.expander.expand s.registry expression ≠ .ok ['-']) : Of settings builtin s .done
  | replayRequested {expression : Text} (print : builtin = .print expression)
    (dash : settings.expander.expand s.registry expression = .ok ['-']) :
      Of settings builtin s .replayRequested
  | missing {reference : Text} (inclusion : builtin = .includeSource reference) :
      Of settings builtin s (.entered {})
  | opened {reference name : Text} {lines : List Line}
    (inclusion : builtin = .includeSource reference) :
      Of settings builtin s (.entered { cursor := .opened name lines })

/-- What a line makes the scanner read next is sound and stands at its start. -/
def Effect.Sound : Effect → Prop
  | .entered g => g.cursor.Sound ∧ g.cursor.ahead = g.cursor.lines
  | _ => True

section

open Act

variable {resources : Resources} {settings : Settings} {load : Text → Act Store Table}

/-- Only an inclusion and a dash mean anything for the scanner. -/
theorem effect_execute (place : Text) (builtin : Builtin) (s : Store) :
    Wp (execute resources settings load place builtin)
      (fun effect _ => effect.Of settings builtin s) (fun _ _ => True) s := by
  have done (h : ∀ reference, builtin ≠ .includeSource reference)
      (h' : ∀ expression, builtin ≠ .print expression) : Effect.Of settings builtin s .done :=
    .done h fun expression print => absurd print (h' expression)
  cases builtin with
  | includeSource reference =>
    simp only [execute, wp_executeInclude]
    split
    · trivial
    · split
      · exact .opened rfl
      · split
        · exact .missing rfl
        · trivial
      · trivial
  | print expression =>
    simp only [execute, wp_executePrint]
    split
    · trivial
    · rename_i u expanded
      split
      · rename_i dash
        exact .replayRequested rfl (dash ▸ expanded)
      · rename_i other
        refine .done (by simp) fun _ print dash => other ?_
        obtain rfl := Builtin.print.inj print
        exact Except.ok.inj (expanded.symm.trans dash)
  | sleep digits =>
    rw [execute, wp_executeSleep]
    split
    · trivial
    · split
      · exact done (by simp) (by simp)
      · trivial
  | setProperty key value => simp [execute, executeSetProperty, done]
  | properties label reference => simp [execute, executeProperties, done]
  | record key value => simp [execute, executeRecord, done]

theorem sound_execute (place : Text) (builtin : Builtin) (s : Store) :
    Wp (execute resources settings load place builtin) (fun effect _ => effect.Sound)
      (fun _ _ => True) s := by
  refine (effect_execute place builtin s).mono (fun effect _ of => ?_) fun _ _ _ => trivial
  cases of with
  | done | replayRequested => trivial
  | missing => exact ⟨Cursor.sound_unopened, rfl⟩
  | opened => exact ⟨Cursor.sound_opened _ _, rfl⟩

theorem sound_executeLine (place : Text) (line : Line) (s : Store) :
    Wp (executeLine resources settings load place line) (fun effect _ => effect.Sound)
      (fun _ _ => True) s := by
  rw [executeLine, Wp.bind_iff, Wp.onlyIf_debug_iff, Wp.bind_iff, wp_surface]
  split
  · split
    · exact sound_execute place _ s
    · trivial
  · trivial

theorem GoesOn.sound {enter : Frame → Store → Settled} {line : Line} {ahead : List Line}
    {f f' : Frame} {s t : Store} {events : List Event}
    (goes : GoesOn resources settings load enter line (f.moved line ahead) s f' t events)
    (hahead : f.cursor.ahead = line :: ahead) (h : f.cursor.Sound) : f'.cursor.Sound := by
  rw [goes.cursor]
  exact h.moved hahead

/-- Settling one source keeps its chain sound if settling what it includes does. -/
theorem LinesSettle.sound {enter : Frame → Store → Settled}
    (henter : ∀ g s, g.cursor.Sound → (enter g s).state.1.Sound)
    {lines : List Line} {f : Frame} {s : Store} {o : Settled}
    (run : LinesSettle resources settings load enter lines f s o)
    (hahead : f.cursor.ahead = lines) (h : f.cursor.Sound) : o.state.1.Sound := by
  induction run with
  | ended => exact Chain.sound_single.mpr h
  | ordinary => exact Chain.sound_single.mpr h
  | failed => exact Chain.sound_single.mpr (h.moved hahead)
  | @inside line ahead f g s t u c events inner result recognized executed entered unfinished =>
    obtain ⟨hg, -⟩ : Effect.Sound (.entered g) := (sound_executeLine _ line s).value executed
    have hc := henter g t hg
    rw [entered] at hc
    exact Chain.sound_cons.mpr ⟨h.moved hahead, hc⟩
  | passed recognized goes rest ih => exact ih goes.ahead (goes.sound hahead h)

/-- Settling keeps a chain sound, whatever comes of it. -/
theorem sound_settle {depth : Nat} {f : Frame} {included : List Frame} {s : Store}
    (h : Chain.Sound ⟨f, included⟩) :
    (settle resources depth settings f included s).state.1.Sound := by
  revert h
  refine settle_induction (motive := fun _ _ f included _ o =>
    Chain.Sound ⟨f, included⟩ → o.state.1.Sound)
    ?tooDeep ?own ?finished ?within depth settings f included s
  case tooDeep => exact fun _ _ _ _ h => h
  case own =>
    intro depth settings f s o ih run h
    refine run.sound (fun g s hg => ih settings g [] s (Chain.sound_single.mpr hg)) rfl ?_
    rw [Frame.started_cursor]
    exact (Chain.sound_single.mp h).started
  case finished =>
    intro depth settings f g rest s c t events settled inner own h
    exact own (Chain.sound_single.mpr (Chain.sound_cons.mp h).1)
  case within =>
    intro depth settings f g rest s result c t events settled unfinished inner h
    obtain ⟨hf, hrest⟩ := Chain.sound_cons.mp h
    exact Chain.sound_cons.mpr ⟨hf, inner hrest⟩

/-- Settling one source leaves its name and its lines. -/
theorem LinesSettle.source {enter : Frame → Store → Settled} {lines : List Line} {f : Frame}
    {s : Store} {o : Settled} (run : LinesSettle resources settings load enter lines f s o) :
    o.state.1.frame.cursor.source = f.cursor.source := by
  induction run with
  | ended => rfl
  | ordinary => rfl
  | failed => rfl
  | inside => rfl
  | passed recognized goes rest ih =>
    rw [goes.cursor] at ih
    exact ih

/-- Settling leaves the name and the lines of the outermost source. -/
theorem source_settle {depth : Nat} {f : Frame} {included : List Frame} {s : Store} :
    (settle resources depth settings f included s).state.1.frame.cursor.source =
      f.cursor.source := by
  refine settle_induction (motive := fun _ _ f _ _ o =>
    o.state.1.frame.cursor.source = f.cursor.source)
    ?tooDeep ?own ?finished ?within depth settings f included s
  case tooDeep => exact fun _ _ _ _ => rfl
  case own => exact fun _ _ f _ _ _ run => run.source.trans f.source_started
  case finished => exact fun _ _ _ _ _ _ _ _ _ _ _ own => own
  case within => exact fun _ _ _ _ _ _ _ _ _ _ _ _ _ => rfl

/-- Taking a line keeps a chain sound. -/
theorem sound_takeNext {f : Frame} {included : List Frame} {s : Store}
    (h : Chain.Sound ⟨f, included⟩) : (takeNext settings f included s).state.1.Sound := by
  induction included generalizing f with
  | nil =>
    have hf := Chain.sound_single.mp h
    cases hahead : f.cursor.ahead with
    | nil => simpa only [takeNext, hahead] using h
    | cons line ahead =>
      simp only [takeNext, hahead]
      exact Chain.sound_single.mpr (hf.moved hahead)
  | cons g rest ih =>
    obtain ⟨hf, hrest⟩ := Chain.sound_cons.mp h
    exact Chain.sound_cons.mpr ⟨hf, ih hrest⟩

/-- Taking a line leaves the name and the lines of the outermost source. -/
theorem source_takeNext {f : Frame} {included : List Frame} {s : Store} :
    (takeNext settings f included s).state.1.frame.cursor.source = f.cursor.source := by
  cases included with
  | nil =>
    cases hahead : f.cursor.ahead with
    | nil => simp only [takeNext, hahead]
    | cons line ahead =>
      simp only [takeNext, hahead]
      rfl
  | cons g rest => rfl

/-- Asking for the next line keeps a chain sound. -/
theorem sound_nextLine {depth : Nat} {f : Frame} {included : List Frame} {s : Store}
    (h : Chain.Sound ⟨f, included⟩) :
    (nextLine resources depth settings f included s).state.1.Sound := by
  rw [nextLine_eq]
  have settled := @sound_settle resources settings depth f included s h
  generalize settle resources depth settings f included s = o at settled ⊢
  obtain ⟨result, ⟨c, s'⟩, events⟩ := o
  cases result with
  | error e => exact settled
  | ok answer =>
    cases answer with
    | false => exact settled
    | true => exact sound_takeNext settled

/-- Asking for the next line leaves the name and the lines of the outermost source. -/
theorem source_nextLine {depth : Nat} {f : Frame} {included : List Frame} {s : Store} :
    (nextLine resources depth settings f included s).state.1.frame.cursor.source =
      f.cursor.source := by
  rw [nextLine_eq]
  have settled := @source_settle resources settings depth f included s
  generalize settle resources depth settings f included s = o at settled ⊢
  obtain ⟨_ | _ | _, ⟨c, s'⟩, events⟩ := o
  · exact settled
  · exact settled
  · exact source_takeNext.trans settled

end

end CommandScript
