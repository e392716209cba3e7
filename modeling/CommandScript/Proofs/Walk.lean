import CommandScript.Scanner.Basic

/-!
# Walks

A script means a walk over its lines: an ordinary line is surfaced as it reads at that
moment, a built-in line is executed once, and the lines of an included source stand in
place of the line that includes it. The walk below is a plain recursion over lines. It
knows no cursor and looks ahead at nothing, and only its depth of nesting is bounded.
-/

namespace CommandScript

/-- What a walk came to: the lines that it surfaced, each with its echo mark, and the
error that ended it early. -/
structure Walked where
  lines : List (Text × Bool) := []
  fault : Option Error := none
  store : Store
  events : List Event := []

namespace Walked

def after (earlier : List Event) (w : Walked) : Walked := { w with events := earlier ++ w.events }

def following (line : Text × Bool) (w : Walked) : Walked := { w with lines := line :: w.lines }

def andThen (w : Walked) (next : Store → Walked) : Walked :=
  match w with
  | ⟨lines, some e, s, events⟩ => ⟨lines, some e, s, events⟩
  | ⟨lines, none, s, events⟩ =>
    let more := next s
    ⟨lines ++ more.lines, more.fault, more.store, events ++ more.events⟩

end Walked

/-- Where a walk stands: how its scanner works, the places of the lines that include
its source, the outermost first, and whether it loads records, so that an ordinary
line is an error. -/
structure Site where
  settings : Settings
  above : List Text := []
  loading : Bool := false

namespace Site

def within (site : Site) (place : Text) : Site := { site with above := site.above ++ [place] }

def forRecords (settings : Settings) : Site := { settings := settings.forRecords, loading := true }

end Site

section

variable (resources : Resources)

/-- Walks over one line, given how to load a properties source and how to walk over
the source that the line at a place includes. -/
def walkLine (site : Site) (load : Text → Act Store Table) (enter : Text → Frame → Store → Walked)
    (name : Text) (line : Line) (s : Store) : Walked :=
  let place := line.place name
  if site.settings.kind.recognizes line.text then
    match executeLine resources site.settings load place line s with
    | ⟨.error e, s, events⟩ => ⟨[], some e, s, events⟩
    | ⟨.ok (.entered g), s, events⟩ => (enter place g s).after events
    | ⟨.ok _, s, events⟩ => ⟨[], none, s, events⟩
  else
    match surface site.settings place line s with
    | ⟨.error e, s, events⟩ => ⟨[], some e, s, events⟩
    | ⟨.ok text, s, events⟩ =>
      if site.loading then
        ⟨[], some (.notARecord (Text.joinWith " .. --> .. " (site.above ++ [place]))), s, events⟩
      else ⟨[(text, (splitEcho line.text).1)], none, s, events⟩

def walkLines (site : Site) (load : Text → Act Store Table)
    (enter : Text → Frame → Store → Walked) (name : Text) : List Line → Store → Walked
  | [], s => { store := s }
  | line :: rest, s =>
    (walkLine resources site load enter name line s).andThen
      (walkLines site load enter name rest)

def loadByWalk (settings : Settings) (walk : Frame → Store → Walked) (reference : Text) :
    Act Store Table :=
  withOwnTarget fun s =>
    match openFrame resources settings.forRecords (.text reference) s with
    | ⟨.error e, s, events⟩ => ⟨.error e, s, events⟩
    | ⟨.ok frame, s, events⟩ =>
      match walk frame s with
      | ⟨_, some e, s, more⟩ => ⟨.error e, s, events ++ more⟩
      | ⟨_, none, s, more⟩ =>
        ⟨.ok s.target, s, events ++ more ++
          [.logged ⟨.debug, .properties, "Loaded " ++ Text.ofNat s.target.size ++
            " entries from [" ++ frame.cursor.name.getD [] ++ "]"⟩]⟩

/-- Walks over the lines of a source, which includes and loads others less than `depth`
deep. -/
def walk : Nat → Site → Text → List Line → Store → Walked
  | 0, _, _, _, s => { fault := some .tooDeep, store := s }
  | depth + 1, site, name, lines, s =>
    let whole (site : Site) (f : Frame) : Store → Walked :=
      walk depth site (f.cursor.name.getD []) f.cursor.lines
    walkLines resources site
      (loadByWalk resources site.settings (whole (.forRecords site.settings)))
      (fun place => whole (site.within place)) name lines s

end

/-! ### Draining -/

open Scanner in
/-- A scanner is drained: asked for a next line and made to take it, until none follows
or an error escapes. -/
inductive Drains (resources : Resources) : Scanner × Store → Walked → Prop where
  | ended {sc sc' : Scanner} {s s' : Store} {events : List Event}
      (asked : hasNext resources (sc, s) = ⟨.ok false, (sc', s'), events⟩) :
      Drains resources (sc, s) ⟨[], none, s', events⟩
  | failed {sc sc' : Scanner} {s s' : Store} {events : List Event} {e : Error}
      (asked : hasNext resources (sc, s) = ⟨.error e, (sc', s'), events⟩) :
      Drains resources (sc, s) ⟨[], some e, s', events⟩
  | refused {sc mid sc' : Scanner} {s s' s'' : Store} {events made : List Event} {e : Error}
      (asked : hasNext resources (sc, s) = ⟨.ok true, (mid, s'), events⟩)
      (taken : next resources (mid, s') = ⟨.error e, (sc', s''), made⟩) :
      Drains resources (sc, s) ⟨[], some e, s'', events ++ made⟩
  | took {sc mid sc' : Scanner} {s s' s'' : Store} {events made : List Event} {text : Text}
      {w : Walked}
      (asked : hasNext resources (sc, s) = ⟨.ok true, (mid, s'), events⟩)
      (taken : next resources (mid, s') = ⟨.ok text, (sc', s''), made⟩)
      (more : Drains resources (sc', s'') w) :
      Drains resources (sc, s) ((w.following (text, sc'.isEchoed)).after (events ++ made))

namespace Walked

@[simp] theorem after_mk (earlier : List Event) (lines : List (Text × Bool))
    (fault : Option Error) (s : Store) (events : List Event) :
    after earlier ⟨lines, fault, s, events⟩ = ⟨lines, fault, s, earlier ++ events⟩ := rfl

@[simp] theorem andThen_failed (lines : List (Text × Bool)) (e : Error) (s : Store)
    (events : List Event) (next : Store → Walked) :
    andThen ⟨lines, some e, s, events⟩ next = ⟨lines, some e, s, events⟩ := rfl

@[simp] theorem andThen_quiet (s : Store) (events : List Event) (next : Store → Walked) :
    andThen ⟨[], none, s, events⟩ next = (next s).after events := rfl

@[simp] theorem after_nil (w : Walked) : w.after [] = w := rfl

@[simp] theorem after_after (earlier late : List Event) (w : Walked) :
    (w.after late).after earlier = w.after (earlier ++ late) := by
  simp only [after, List.append_assoc]

theorem andThen_after (earlier : List Event) (w : Walked) (next : Store → Walked) :
    (w.after earlier).andThen next = (w.andThen next).after earlier := by
  obtain ⟨lines, _ | e, s, events⟩ := w
  · simp only [after, andThen, List.append_assoc]
  · rfl

theorem andThen_following (line : Text × Bool) (w : Walked) (next : Store → Walked) :
    (w.following line).andThen next = (w.andThen next).following line := by
  obtain ⟨lines, _ | e, s, events⟩ := w <;> rfl

end Walked

end CommandScript
