import CommandScript.Walker

/-!
# Sessions

The walkers of a session live in one memory. A walker occupies cells of it: one for its
options, and for every source that it reads a record and an iterator over the lines ahead.
What is done with a walker changes its own cells in place. A copy is given new cells; the
store is the only thing that the walkers of a session share on purpose.
-/

namespace CommandScript

/-- What is kept about one source, apart from the iterator over it. -/
structure Record where
  name : Option Text
  lines : List Line
  position? : Option Nat
  echoed : Bool
  replayRequested : Bool
  label : Label
  deriving DecidableEq, Repr

inductive Cell where
  | options (o : Options)
  | record (r : Record)
  | iterator (ahead : List Line)
  deriving DecidableEq, Repr

/-! ### The contents of a walker -/

/-- What a frame puts into memory. Only classifiers label lines. -/
def Frame.cells (f : Frame) (label : Label) : List Cell :=
  [.record ⟨f.cursor.name, f.cursor.lines, f.cursor.position?, f.echoed, f.replayRequested, label⟩,
    .iterator f.cursor.ahead]

/-- The frame that a record and an iterator make. -/
def Record.frame (r : Record) (ahead : List Line) : Frame where
  cursor := ⟨r.name, r.lines, r.position?.map (⟨·, ahead⟩)⟩
  echoed := r.echoed
  replayRequested := r.replayRequested

def framesOf : List Cell → List (Frame × Label)
  | .record r :: .iterator ahead :: rest => (r.frame ahead, r.label) :: framesOf rest
  | _ => []

namespace Walker

/-- What a walker puts into memory: its options, then its frames, the outermost first. -/
def cells : Walker → List Cell
  | reader r => .options r.options :: Frame.cells { cursor := r.cursor } {}
  | classifier c => .options c.reader.options :: Frame.cells { cursor := c.reader.cursor } c.label
  | scanner sc => .options sc.settings.options ::
      (sc.chain.frame :: sc.chain.included).flatMap (·.cells {})

def ofCells (family : Family) : List Cell → Walker
  | .options o :: rest =>
    match family, framesOf rest with
    | .reader, (f, _) :: _ => reader ⟨o, f.cursor⟩
    | .classifier, (f, label) :: _ => classifier ⟨⟨o, f.cursor⟩, label⟩
    | .scanner kind expander replays, (f, _) :: included =>
      scanner ⟨⟨kind, o, expander, replays⟩, f, included.map (·.1)⟩
    | family, [] => new o family
  | _ => new {} family

end Walker

/-! ### Memory -/

abbrev Memory : Type := List Cell

namespace Memory

def read (m : Memory) (addresses : List Nat) : List Cell := addresses.filterMap (m[·]?)

/-- Writes contents over what the addresses hold, in place. Contents beyond them are given
new cells, and addresses beyond the contents are left; gives the addresses of the contents. -/
def write : Memory → List Nat → List Cell → Memory × List Nat
  | m, _, [] => (m, [])
  | m, [], c :: contents =>
    let (after, addresses) := write (m ++ [c]) [] contents
    (after, m.length :: addresses)
  | m, a :: addresses, c :: contents =>
    let (after, addresses) := write (m.set a c) addresses contents
    (after, a :: addresses)

end Memory

/-- Where a walker lives. -/
structure Handle where
  family : Family
  addresses : List Nat
  deriving DecidableEq, Repr

namespace Handle

def read (h : Handle) (m : Memory) : Walker := .ofCells h.family (m.read h.addresses)

/-- Puts a walker in place of the one that lives here. -/
def write (h : Handle) (m : Memory) (w : Walker) : Memory × Handle :=
  let (after, addresses) := m.write h.addresses w.cells
  (after, ⟨w.family, addresses⟩)

end Handle

/-! ### Sessions -/

structure Session where
  memory : Memory := []
  handles : List Handle := []
  store : Store := {}

namespace Session

def view (se : Session) (i : Nat) : Option Walker := se.handles[i]?.map (·.read se.memory)

/-- The session with one more walker, which is given new cells. -/
def join (se : Session) (w : Walker) : Session :=
  let (memory, handle) := Handle.write ⟨w.family, []⟩ se.memory w
  { se with memory := memory, handles := se.handles ++ [handle] }

/-- A session of one walker that has opened nothing. -/
def start (family : Family) (options : Options) (s : Store) : Session :=
  join { store := s } (.new options family)

/-- Runs on one walker of the session and the store. -/
def onWalker {α : Type} (i : Nat) (x : Run α) : Act Session α := fun se =>
  match se.handles[i]? with
  | none => ⟨.error (.defect "no such walker"), se, []⟩
  | some h =>
    (x (h.read se.memory, se.store)).mapState fun (w, s) =>
      let (memory, h) := h.write se.memory w
      ⟨memory, se.handles.set i h, s⟩

/-- Makes a walker from another one; it comes last. -/
def joined (i : Nat) (make : Walker → Walker) : Act Session Nat := fun se =>
  match se.view i with
  | none => ⟨.error (.defect "no such walker"), se, []⟩
  | some w => ⟨.ok se.handles.length, se.join (make w), []⟩

/-- What can happen in a session. -/
inductive Step where
  /-- Something is done with the walker of a number. -/
  | perform (i : Nat) (op : Operation)
  | duplicate (i : Nat)
  | spawn (i : Nat)
  /-- The store is changed by others. -/
  | share (s : Store)

def step (resources : Resources) : Step → Act Session Answer
  | .perform i op => onWalker i (Run.perform resources op)
  | .duplicate i => return .count (← joined i Walker.duplicate)
  | .spawn i => return .count (← joined i Walker.spawn)
  | .share s => do
    Act.modify fun se => { se with store := s }
    return .done

structure Reply where
  result : Except Error Answer
  events : List Event

/-- Takes steps one after the other, also after an error. -/
def run (resources : Resources) : List Step → Session → List Reply × Session
  | [], se => ([], se)
  | st :: steps, se =>
    let o := step resources st se
    let (replies, after) := run resources steps o.state
    (⟨o.result, o.events⟩ :: replies, after)

end Session

end CommandScript
