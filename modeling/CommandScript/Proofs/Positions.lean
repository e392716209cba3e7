import CommandScript.Proofs.Soundness

/-!
# Positions

A cursor keeps its position and an iterator over the lines still to come. Both record how far
it has come, and they agree at every moment: the iterator holds the lines from the position on.
A scanner only ever moves on, in each of the sources that it reads.
-/

namespace CommandScript

/-! ### One cursor -/

namespace Cursor

def place (c : Cursor) : Int :=
  match c.position? with
  | none => -1
  | some n => n

def iterator? (c : Cursor) : Option (List Line) := c.reading.map (·.ahead)

/-- The position and the iterator record the same: without an iterator nothing is open, and an
iterator holds the lines from the position on. -/
structure Faithful (c : Cursor) : Prop where
  unread : c.place = -1 ↔ c.iterator? = none
  empty : c.iterator? = none → c.lines = [] ∧ c.name = none
  whole : ∀ ahead, c.iterator? = some ahead →
    0 ≤ c.place ∧ c.place ≤ c.lines.length ∧ ahead = c.lines.drop c.place.toNat

/-- A source that has just been opened, or one that is missing. -/
def Fresh (c : Cursor) : Prop := c = .unopened ∨ ∃ name lines, c = .opened name lines

variable {c : Cursor} {line : Line} {rest : List Line}

theorem iterator?_of_ahead (h : c.ahead = line :: rest) : c.iterator? = some (line :: rest) := by
  cases hr : c.reading with
  | none => simp [ahead, hr] at h
  | some r =>
    have same : r.ahead = line :: rest := by simpa only [ahead, hr] using h
    simp only [iterator?, hr, Option.map_some, same]

theorem faithful_unopened : Cursor.unopened.Faithful := by
  constructor
  · exact ⟨fun _ => rfl, fun _ => rfl⟩
  · intro _
    exact ⟨rfl, rfl⟩
  · intro ahead h
    cases h

/-- At the start nothing is taken, so all lines are ahead. -/
theorem faithful_rewind (c : Cursor) : c.rewind.Faithful := by
  have start : c.rewind.place = 0 := rfl
  have all : c.rewind.iterator? = some c.lines := rfl
  constructor
  · rw [start, all]
    constructor
    · intro h
      omega
    · rintro ⟨⟩
  · rw [all]
    rintro ⟨⟩
  · intro ahead h
    rw [all] at h
    obtain rfl : c.lines = ahead := Option.some.inj h
    rw [start]
    exact ⟨Int.le_refl 0, Int.natCast_nonneg _, rfl⟩

theorem Fresh.faithful (h : c.Fresh) : c.Faithful := by
  rcases h with rfl | ⟨name, lines, rfl⟩
  · exact faithful_unopened
  · exact faithful_rewind _

theorem Faithful.started (h : c.Faithful) : c.started.Faithful := by
  rw [Cursor.started]
  split
  · exact faithful_rewind c
  · exact h

/-- The iterator gives exactly the line at the position. -/
theorem Faithful.getElem?_place (h : c.Faithful) (hahead : c.ahead = line :: rest) :
    0 ≤ c.place ∧ c.lines[c.place.toNat]? = some line ∧
      rest = c.lines.drop (c.place.toNat + 1) := by
  obtain ⟨nonneg, -, drop⟩ := h.whole _ (iterator?_of_ahead hahead)
  refine ⟨nonneg, ?_, ?_⟩
  · rw [← List.head?_drop, ← drop, List.head?_cons]
  · have tail := congrArg (List.drop 1) drop
    rwa [List.drop_one, List.tail_cons, List.drop_drop] at tail

/-- Taking a line moves the position by one. -/
theorem place_moved (hahead : c.ahead = line :: rest) : (c.moved rest).place = c.place + 1 := by
  cases hr : c.reading with
  | none => simp [ahead, hr] at hahead
  | some r =>
    simp only [place, moved, position?, hr, Option.map_some, Option.getD_some]
    omega

theorem Faithful.moved (h : c.Faithful) (hahead : c.ahead = line :: rest) :
    (c.moved rest).Faithful := by
  obtain ⟨nonneg, found, drop⟩ := h.getElem?_place hahead
  have bound : c.place.toNat < c.lines.length := (List.getElem?_eq_some_iff.mp found).1
  have next := place_moved hahead
  have held : (c.moved rest).iterator? = some rest := rfl
  constructor
  · rw [held, next]
    constructor
    · intro back
      omega
    · rintro ⟨⟩
  · rw [held]
    rintro ⟨⟩
  · intro ahead hheld
    rw [held] at hheld
    obtain rfl : rest = ahead := Option.some.inj hheld
    have lines : (c.moved rest).lines = c.lines := rfl
    rw [next, lines]
    refine ⟨by omega, by omega, ?_⟩
    rw [drop]
    congr 1
    omega

/-- A line that has just been taken can be read again. -/
theorem Faithful.current?_moved (h : c.Faithful) (hahead : c.ahead = line :: rest) :
    (c.moved rest).current? = some line := by
  obtain ⟨-, found, -⟩ := h.getElem?_place hahead
  cases hr : c.reading with
  | none => simp [ahead, hr] at hahead
  | some r =>
    have here : c.lines[r.position]? = some line := by simpa [place, position?, hr] using found
    have next : (c.moved rest).position? = some (r.position + 1) := by
      simp only [Cursor.moved, position?, hr, Option.map_some, Option.getD_some]
    simp only [current?, next]
    exact here

/-- A copy, which counts its own way to the lines ahead, finds the same ones. -/
theorem Faithful.duplicate_eq (h : c.Faithful) : c.duplicate = c := by
  obtain ⟨name, lines, reading⟩ := c
  cases reading with
  | none => rfl
  | some r =>
    obtain ⟨-, -, drop⟩ := h.whole r.ahead rfl
    have same : r.ahead = lines.drop r.position := drop
    simp only [duplicate, Option.map_some, ← same]

theorem place_started (c : Cursor) : c.place ≤ c.started.place := by
  cases hr : c.reading with
  | none =>
    have unread : c.place = -1 := by simp only [place, position?, hr, Option.map_none]
    have start : c.started.place = 0 := by simp only [started, hr]; rfl
    omega
  | some r =>
    simp only [started, hr]
    exact Int.le_refl _

theorem source_started (c : Cursor) : c.started.source = c.source := by
  rw [started]
  split <;> rfl

end Cursor

/-! ### A chain of cursors -/

/-- The second chain of cursors has come at least as far as the first. A source that has not
moved holds what it held or has left it; of a source that has moved nothing more is said,
since what it includes now is another source. -/
def Cursor.Further : List Cursor → List Cursor → Prop
  | _, [] => True
  | [], _ :: _ => False
  | c :: cs, d :: ds =>
    d.source = c.source ∧ c.place ≤ d.place ∧ (d.place = c.place → Further cs ds)

theorem Cursor.further_nil (cs : List Cursor) : Further cs [] := by
  cases cs <;> trivial

theorem Cursor.Further.refl (cs : List Cursor) : Further cs cs := by
  induction cs with
  | nil => trivial
  | cons c cs ih => exact ⟨rfl, Int.le_refl _, fun _ => ih⟩

theorem Cursor.Further.trans {as bs cs : List Cursor} (hab : Further as bs)
    (hbc : Further bs cs) : Further as cs := by
  induction as generalizing bs cs with
  | nil =>
    cases bs with
    | nil => exact hbc
    | cons b bs => exact hab.elim
  | cons a as ih =>
    cases cs with
    | nil => exact further_nil _
    | cons c cs =>
      cases bs with
      | nil => exact hbc.elim
      | cons b bs =>
        obtain ⟨source, le, stays⟩ := hab
        obtain ⟨source', le', stays'⟩ := hbc
        refine ⟨source'.trans source, Int.le_trans le le', fun same => ?_⟩
        have first : b.place = a.place := by omega
        have second : c.place = b.place := by omega
        exact ih (stays first) (stays' second)

/-- The second chain of cursors has moved on from the first, and stays faithful if that is. -/
structure Cursor.Onward (cs ds : List Cursor) : Prop where
  further : Further cs ds
  faithful : (∀ c ∈ cs, c.Faithful) → ∀ d ∈ ds, d.Faithful

namespace Cursor.Onward

variable {c : Cursor} {bs cs ds : List Cursor} {line : Line} {rest : List Line}

theorem refl (cs : List Cursor) : Onward cs cs := ⟨.refl cs, id⟩

theorem trans (hbc : Onward bs cs) (hcd : Onward cs ds) : Onward bs ds :=
  ⟨hbc.further.trans hcd.further, fun h => hcd.faithful (hbc.faithful h)⟩

theorem started (c : Cursor) : Onward [c] [c.started] := by
  constructor
  · exact ⟨c.source_started, c.place_started, fun _ => trivial⟩
  · intro h
    exact List.forall_mem_singleton.mpr (List.forall_mem_singleton.mp h).started

/-- A source that has taken a line may hold another one. -/
theorem entered (hahead : c.ahead = line :: rest) (hds : ∀ d ∈ ds, d.Faithful) :
    Onward [c] (c.moved rest :: ds) := by
  have next := place_moved hahead
  constructor
  · refine ⟨rfl, by omega, fun same => ?_⟩
    omega
  · intro h
    have moved := (List.forall_mem_singleton.mp h).moved hahead
    exact List.forall_mem_cons.mpr ⟨moved, hds⟩

theorem moved (hahead : c.ahead = line :: rest) : Onward [c] [c.moved rest] := by
  apply entered hahead
  intro d hd
  cases hd

/-- A source stays where it is while what it holds moves on. -/
theorem within (h : Onward cs ds) : Onward (c :: cs) (c :: ds) := by
  constructor
  · exact ⟨rfl, Int.le_refl _, fun _ => h.further⟩
  · intro hcs
    obtain ⟨outer, inner⟩ := List.forall_mem_cons.mp hcs
    exact List.forall_mem_cons.mpr ⟨outer, h.faithful inner⟩

/-- What a source holds has been read to its end and is left. -/
theorem left : Onward (c :: cs) [c] := by
  constructor
  · exact ⟨rfl, Int.le_refl _, fun _ => further_nil cs⟩
  · intro h
    exact List.forall_mem_singleton.mpr (h c List.mem_cons_self)

end Cursor.Onward

def Chain.cursors (c : Chain) : List Cursor := (c.frame :: c.included).map (·.cursor)

/-- The chain has moved on. -/
abbrev Chain.Onward (c d : Chain) : Prop := Cursor.Onward c.cursors d.cursors

/-! ### Settling -/

/-- What a line makes the scanner read next has just been opened. -/
def Effect.Fresh : Effect → Prop
  | .entered g => g.cursor.Fresh
  | _ => True

section

open Act

variable {resources : Resources} {settings : Settings} {load : Text → Act Store Table}

theorem fresh_execute (place : Text) (builtin : Builtin) (s : Store) :
    Wp (execute resources settings load place builtin) (fun effect _ => effect.Fresh)
      (fun _ _ => True) s := by
  refine (effect_execute place builtin s).mono (fun effect _ of => ?_) fun _ _ _ => trivial
  cases of with
  | done | replayRequested => trivial
  | missing => exact .inl rfl
  | opened => exact .inr ⟨_, _, rfl⟩

theorem fresh_executeLine (place : Text) (line : Line) (s : Store) :
    Wp (executeLine resources settings load place line) (fun effect _ => effect.Fresh)
      (fun _ _ => True) s := by
  rw [executeLine, Wp.bind_iff, Wp.onlyIf_debug_iff, Wp.bind_iff, wp_surface]
  split
  · split
    · exact fresh_execute place _ s
    · trivial
  · trivial

/-- Settling one source moves on if settling what it includes does. -/
theorem LinesSettle.onward {enter : Frame → Store → Settled}
    (henter : ∀ g s, Chain.Onward ⟨g, []⟩ (enter g s).state.1) {lines : List Line} {f : Frame}
    {s : Store} {o : Settled} (run : LinesSettle resources settings load enter lines f s o)
    (hahead : f.cursor.ahead = lines) : Chain.Onward ⟨f, []⟩ o.state.1 := by
  induction run with
  | ended => exact .refl _
  | ordinary => exact .refl _
  | failed => exact .moved hahead
  | @inside line ahead f g s t u c events inner result recognized executed entered unfinished =>
    have fresh : Effect.Fresh (.entered g) := (fresh_executeLine _ line s).value executed
    have moved := henter g t
    rw [entered] at moved
    exact .entered hahead (moved.faithful (List.forall_mem_singleton.mpr fresh.faithful))
  | @passed line ahead f f' s t o events recognized goes rest ih =>
    have next : Cursor.Onward [f.cursor] [f'.cursor] := by
      rw [goes.cursor]
      exact .moved hahead
    exact next.trans (ih goes.ahead)

/-- Settling moves a chain on, also where a line fails. -/
theorem onward_settle (depth : Nat) (f : Frame) (included : List Frame) (s : Store) :
    Chain.Onward ⟨f, included⟩ (settle resources depth settings f included s).state.1 := by
  refine settle_induction (motive := fun _ _ f included _ o =>
    Chain.Onward ⟨f, included⟩ o.state.1)
    ?tooDeep ?own ?finished ?within depth settings f included s
  case tooDeep => exact fun _ _ _ _ => .refl _
  case own =>
    intro depth settings f s o ih run
    have started : Chain.Onward ⟨f, []⟩ ⟨f.started, []⟩ := by
      have begun := Cursor.Onward.started f.cursor
      rwa [← Frame.started_cursor] at begun
    exact started.trans (run.onward (fun g s => ih settings g [] s) rfl)
  case finished => exact fun _ _ _ _ _ _ _ _ _ _ _ own => .trans .left own
  case within => exact fun _ _ _ _ _ _ _ _ _ _ _ _ inner => inner.within

theorem onward_takeNext (f : Frame) (included : List Frame) (s : Store) :
    Chain.Onward ⟨f, included⟩ (takeNext settings f included s).state.1 := by
  induction included generalizing f with
  | nil =>
    cases hahead : f.cursor.ahead with
    | nil =>
      simp only [takeNext, hahead]
      exact .refl _
    | cons line ahead =>
      simp only [takeNext, hahead]
      exact .moved hahead
  | cons g rest ih => exact (ih g).within

/-- Asking for the next line moves a chain on. -/
theorem onward_nextLine (depth : Nat) (f : Frame) (included : List Frame) (s : Store) :
    Chain.Onward ⟨f, included⟩ (nextLine resources depth settings f included s).state.1 := by
  have settled := @onward_settle resources settings depth f included s
  rw [nextLine_eq]
  generalize settle resources depth settings f included s = o at settled ⊢
  obtain ⟨_ | _ | _, ⟨c, s'⟩, events⟩ := o
  · exact settled
  · exact settled
  · exact settled.trans (onward_takeNext c.frame c.included s')

end

end CommandScript
