import CommandScript.Proofs.Draining
import CommandScript.Proofs.Quiet

/-!
# Rewinding

A scanner that only prints and includes never writes to the store, so a second walk over
its source is the first walk over again. Rewinding starts that walk, but it leaves open
what the source includes at the moment: what is left of that comes first.
-/

namespace CommandScript

/-! ### Walks that write nothing -/

section

variable {resources : Resources} {load : Text → Act Store Table} {s : Store}

theorem store_andThen {w : Walked} {next : Store → Walked} (hw : w.store = s)
    (hnext : (next s).store = s) : (w.andThen next).store = s := by
  obtain ⟨lines, _ | e, t, events⟩ := w
  · subst hw
    exact hnext
  · exact hw

theorem store_walkLine {site : Site} {visit : Text → Frame → Store → Walked}
    (hkind : site.settings.kind = .basic) (hvisit : ∀ place g s, (visit place g s).store = s)
    (name : Text) (line : Line) :
    (walkLine resources site load visit name line s).store = s := by
  have executed := @store_executeLine resources site.settings load s hkind (line.place name) line
  have surfaced := state_surface site.settings (line.place name) line s
  simp only [walkLine]
  split
  · rcases hexec : executeLine resources site.settings load (line.place name) line s with
      ⟨e | effect, t, events⟩
    · exact executed.fault hexec
    · have kept : t = s := executed.value hexec
      cases effect with
      | entered g => exact (hvisit (line.place name) g t).trans kept
      | _ => exact kept
  · generalize surface site.settings (line.place name) line s = o at surfaced ⊢
    obtain ⟨e | text, t, events⟩ := o
    · exact surfaced
    · dsimp only
      split <;> exact surfaced

/-- A walk over a script without settings writes nothing. -/
theorem store_walk {site : Site} (hkind : site.settings.kind = .basic) {depth : Nat} {name : Text}
    {lines : List Line} : (walk resources depth site name lines s).store = s := by
  induction depth generalizing site name lines s with
  | zero => rfl
  | succ depth ih =>
    have inside (place : Text) (g : Frame) (s : Store) :
        (walk resources depth (site.within place) (g.cursor.name.getD []) g.cursor.lines s).store =
          s :=
      ih (show (site.within place).settings.kind = .basic from hkind)
    rw [walk]
    induction lines generalizing s with
    | nil => rfl
    | cons line rest more => exact store_andThen (store_walkLine hkind inside name line) more

theorem store_walkChain {site : Site} (hkind : site.settings.kind = .basic) {depth : Nat}
    {f : Frame} {included : List Frame} :
    (walkChain resources depth site f included s).store = s := by
  induction depth generalizing site f included with
  | zero => rfl
  | succ depth ih =>
    cases included with
    | nil => exact store_walk hkind
    | cons g rest =>
      have inside : (site.within f.cursor.state).settings.kind = .basic := hkind
      exact store_andThen (ih inside) (store_walk hkind)

end

/-! ### Going back -/

namespace Scanner

variable {resources : Resources} {start now : Scanner × Store}

/-- What calls for a next line lead to, also calls that fail. -/
inductive Reaches (resources : Resources) (start : Scanner × Store) : Scanner × Store → Prop where
  | start : Reaches resources start start
  | asked {now : Scanner × Store} (before : Reaches resources start now) :
    Reaches resources start (hasNext resources now).state
  | offered {now : Scanner × Store} (before : Reaches resources start now) :
    Reaches resources start (next? resources now).state
  | taken {now : Scanner × Store} (before : Reaches resources start now) :
    Reaches resources start (next resources now).state

/-- A scanner that only prints and includes, somewhere in a run from `start`. -/
structure Midway (start now : Scanner × Store) : Prop where
  sound : now.1.chain.Sound
  settings : now.1.settings = start.1.settings
  source : now.1.chain.frame.cursor.source = start.1.chain.frame.cursor.source
  store : now.2 = start.2

theorem state_next (now : Scanner × Store) :
    (next resources now).state = (next? resources now).state := by
  simp only [next, Act.bind_apply]
  generalize next? resources now = o
  obtain ⟨_ | _ | text, st, events⟩ := o <;> rfl

theorem Midway.hasNext (hkind : start.1.settings.kind = .basic) (h : Midway start now) :
    Midway start (hasNext resources now).state where
  sound := sound_settle h.sound
  settings := h.settings
  source := source_settle.trans h.source
  store := (store_settle (h.settings ▸ hkind)).trans h.store

theorem Midway.next? (hkind : start.1.settings.kind = .basic) (h : Midway start now) :
    Midway start (next? resources now).state where
  sound := sound_nextLine h.sound
  settings := h.settings
  source := source_nextLine.trans h.source
  store := (store_nextLine (h.settings ▸ hkind)).trans h.store

theorem Reaches.midway (hkind : start.1.settings.kind = .basic) (sound : start.1.chain.Sound)
    (h : Reaches resources start now) : Midway start now := by
  induction h with
  | start => exact ⟨sound, rfl, rfl, rfl⟩
  | asked before ih => exact ih.hasNext hkind
  | offered before ih => exact ih.next? hkind
  | taken before ih =>
    rw [state_next]
    exact ih.next? hkind

def leftOver (resources : Resources) (sc : Scanner) (s : Store) : Walked :=
  match sc.chain.included with
  | [] => { store := s }
  | g :: rest =>
    let site : Site := { settings := sc.settings }
    walkChain resources (resources.depthBound - 1) (site.within sc.chain.frame.cursor.state) g rest s

theorem store_leftOver {sc : Scanner} (hkind : sc.settings.kind = .basic) (s : Store) :
    (leftOver resources sc s).store = s := by
  unfold leftOver
  split
  · rfl
  · exact store_walkChain hkind

def rewound (sc : Scanner) : Scanner :=
  { sc with chain := { sc.chain with frame := sc.chain.frame.rewound } }

theorem rewind_apply (sc : Scanner) (s : Store) : rewind (sc, s) = ⟨.ok (), (sc.rewound, s), []⟩ :=
  rfl

theorem sound_rewound {sc : Scanner} (h : sc.chain.Sound) : sc.rewound.chain.Sound := by
  refine List.forall_mem_cons.mpr ⟨h.frame.rewind, fun f hf => ?_⟩
  exact h f (List.mem_cons_of_mem _ hf)

/-- After rewinding, what is left of the included sources comes first, and then the walk
from the start. -/
theorem remaining_rewound {sc : Scanner} {s : Store} {name : Text} {lines : List Line}
    (hstart : start.1.chain = ⟨{ cursor := .opened name lines }, []⟩)
    (h : Midway start (sc, s)) :
    remaining resources sc.rewound s =
      (leftOver resources sc.rewound s).andThen (remaining resources start.1) := by
  obtain ⟨settings, ⟨f, included⟩⟩ := sc
  obtain ⟨n, hn⟩ : ∃ n, resources.depthBound = n + 1 := Nat.exists_eq_add_one.mpr (by
    simp only [Resources.depthBound]
    omega)
  have source : f.cursor.source = (some name, lines) := by
    have same := h.source
    rw [hstart] at same
    exact same
  have hname : f.cursor.name = some name := congrArg Prod.fst source
  have hlines : f.cursor.lines = lines := congrArg Prod.snd source
  have hsettings : settings = start.1.settings := h.settings
  have whole : remaining resources start.1 =
      walk resources (n + 1) { settings := settings } name lines := by
    funext t
    rw [remaining, hstart, walkChain_single, hn, hsettings]
    rfl
  have own : walk resources (n + 1) { settings := settings } (f.rewound.cursor.name.getD [])
      f.rewound.cursor.ahead = walk resources (n + 1) { settings := settings } name lines := by
    show walk resources (n + 1) { settings := settings } (f.cursor.name.getD []) f.cursor.lines = _
    rw [hname, hlines, Option.getD_some]
  rw [whole]
  simp only [remaining, leftOver, rewound, hn, walkChain, own, Nat.add_sub_cancel]
  cases included with
  | nil => rfl
  | cons g rest => rfl

/-- **Rewinding restarts the walk but for what is left over.** A scanner that only prints and
includes is opened, called for next lines in any way, rewound and drained. That gives the
lines and the output of draining it from the start exactly if what is left of the
sources included at the moment has no line and no output, or fails after just those
lines and that output. -/
theorem rewind_restarts_iff {source : Source} {trim compress : Option Bool}
    {before : Scanner × Store} {events : List Event}
    (hopen : openSource resources source trim compress before = ⟨.ok (), start, events⟩)
    (hkind : start.1.settings.kind = .basic) (hreach : Reaches resources start now) :
    let back := (rewind now).state
    let left := leftOver resources back.1 back.2
    ∃ fresh again, Drains resources start fresh ∧ Drains resources back again ∧
      ((again.lines = fresh.lines ∧ Event.written again.events = Event.written fresh.events) ↔
        match left.fault with
        | none => left.lines = [] ∧ Event.written left.events = []
        | some _ => left.lines = fresh.lines ∧
          Event.written left.events = Event.written fresh.events) := by
  obtain ⟨sc, s⟩ := now
  obtain ⟨-, name, raw, -, hchain⟩ := @openSource_ok resources before.1 before.2 source trim
    compress start.1 start.2 events hopen
  have sound : start.1.chain.Sound := by
    rw [hchain]
    exact Chain.sound_single.mpr (Cursor.sound_opened ..)
  have midway := hreach.midway hkind sound
  refine ⟨_, _, drains_remaining sound start.2, drains_remaining (sound_rewound midway.sound) s, ?_⟩
  have kept : (leftOver resources sc.rewound s).store = start.2 :=
    (store_leftOver (midway.settings ▸ hkind) s).trans midway.store
  rw [remaining_rewound hchain midway, rewind_apply]
  generalize leftOver resources sc.rewound s = left at kept ⊢
  obtain ⟨lines, _ | e, t, made⟩ := left
  · have written (made more : List Event) :
        Event.written (made ++ more) = Event.written made ++ Event.written more :=
      List.flatMap_append
    subst kept
    simp only [Walked.andThen, written, List.append_left_eq_self]
  · exact Iff.rfl

def twoLines : Resources where
  objects := .ofList [("inc".toList, "i1\ni2".toList)]

def includingTwo : Scanner × Store :=
  (openSource twoLines (.text "include !inc\nm1".toList) none none (new {}, {})).state

/-- The included lines have all been taken, though their source is still open. -/
theorem rewind_restarts_iff_all_taken :
    let now := (next twoLines (next twoLines includingTwo).state).state
    now.1.nesting = 1 ∧ Reaches twoLines includingTwo now ∧
      ∃ fresh again, Drains twoLines includingTwo fresh ∧ Drains twoLines (rewind now).state again ∧
        again.lines = fresh.lines ∧ Event.written again.events = Event.written fresh.events := by
  intro now
  have reaches : Reaches twoLines includingTwo now := .taken (.taken .start)
  obtain ⟨fresh, again, hfresh, hagain, hiff⟩ := @rewind_restarts_iff twoLines includingTwo now
    (.text "include !inc\nm1".toList) none none (new {}, {}) [] rfl rfl reaches
  have nothing : let left := leftOver twoLines (rewind now).state.1 (rewind now).state.2
      left.fault = none ∧ left.lines = [] ∧ Event.written left.events = [] := by
    decide +kernel
  refine ⟨by decide +kernel, reaches, fresh, again, hfresh, hagain, hiff.mpr ?_⟩
  rw [nothing.1]
  exact nothing.2

/-- One of the two included lines has been taken, and rewinding goes on with the other. -/
theorem rewind_keeps_included :
    let now := (next twoLines includingTwo).state
    Reaches twoLines includingTwo now ∧
      ∃ fresh again, Drains twoLines includingTwo fresh ∧ Drains twoLines (rewind now).state again ∧
        fresh.lines.map (·.1) = ["i1".toList, "i2".toList, "m1".toList] ∧
        again.lines.map (·.1) = ["i2".toList, "i1".toList, "i2".toList, "m1".toList] := by
  intro now
  have sound : includingTwo.1.chain.Sound := Chain.sound_single.mpr (Cursor.sound_opened ..)
  have reaches : Reaches twoLines includingTwo now := .taken .start
  have midway := reaches.midway rfl sound
  exact ⟨reaches, _, _, drains_remaining sound _, drains_remaining (sound_rewound midway.sound) _,
    by decide +kernel, by decide +kernel⟩

end Scanner

end CommandScript
