import CommandScript.Scanner.Basic

/-!
# Settling

Settling one source goes from line to line, and may end in five ways. What holds of
each line that is executed, and of each source that is included, holds so of a whole
run.

Settling stops at two kinds of chains only: an ordinary line is next in the
innermost source, or the outermost source has no line left and includes nothing.
A chain of either kind is left as it is by settling again, so to ask for the next
line settles once, however many sources of the chain ask again.
-/

namespace CommandScript

/-- An ordinary line is next in the innermost source, less than `depth` sources deep. -/
def Ready (settings : Settings) : Nat → Frame → List Frame → Prop
  | 0, _, _ => False
  | _ + 1, f, [] =>
    ∃ line ahead, f.cursor.ahead = line :: ahead ∧ settings.kind.recognizes line.text = false
  | depth + 1, _, g :: rest => Ready settings depth g rest

/-- The outermost source has been read to its end and includes nothing. -/
def Exhausted (f : Frame) (included : List Frame) : Prop :=
  included = [] ∧ f.cursor.reading.isSome ∧ f.cursor.ahead = []

def Chain.AtRest (settings : Settings) (depth : Nat) (c : Chain) : Bool → Prop
  | true => Ready settings depth c.frame c.included
  | false => 0 < depth ∧ Exhausted c.frame c.included

namespace Frame

theorem started_of_reading {f : Frame} (h : f.cursor.reading.isSome) : f.started = f := by
  obtain ⟨r, hr⟩ := Option.isSome_iff_exists.mp h
  simp only [started, hr]

theorem reading_started (f : Frame) : f.started.cursor.reading.isSome := by
  cases h : f.cursor.reading with
  | none => simp [started, h, rewound, Cursor.rewind]
  | some r => simp [started, h]

theorem reading_of_ahead {f : Frame} {line : Line} {ahead : List Line}
    (h : f.cursor.ahead = line :: ahead) : f.cursor.reading.isSome := by
  cases hr : f.cursor.reading with
  | none => simp [Cursor.ahead, hr] at h
  | some r => rfl

@[simp] theorem ahead_moved (f : Frame) (line : Line) (ahead : List Line) :
    (f.moved line ahead).cursor.ahead = ahead := rfl

@[simp] theorem reading_moved (f : Frame) (line : Line) (ahead : List Line) :
    (f.moved line ahead).cursor.reading.isSome = true := rfl

end Frame

/-! ### How settling goes -/

section

variable (resources : Resources) (settings : Settings) (load : Text → Act Store Table)
variable (enter : Frame → Store → Settled)

/-- A line is executed, and what it includes is settled to the end. Then the source goes on. -/
inductive GoesOn (line : Line) (f : Frame) (s : Store) : Frame → Store → List Event → Prop where
  | done {t : Store} {events : List Event}
      (executed : executeLine resources settings load f.cursor.state line s =
        ⟨.ok .done, t, events⟩) :
      GoesOn line f s f t events
  | replayed {t : Store} {events : List Event}
      (executed : executeLine resources settings load f.cursor.state line s =
        ⟨.ok .replayRequested, t, events⟩) :
      GoesOn line f s { f with replayRequested := true } t events
  | behind {g : Frame} {c : Chain} {t u : Store} {events inner : List Event}
      (executed : executeLine resources settings load f.cursor.state line s =
        ⟨.ok (.entered g), t, events⟩)
      (ended : enter g t = ⟨.ok false, (c, u), inner⟩) :
      GoesOn line f s f u (events ++ inner)

/-- How settling one source goes, with what it comes to. -/
inductive LinesSettle : List Line → Frame → Store → Settled → Prop where
  | ended {f : Frame} {s : Store} : LinesSettle [] f s ⟨.ok false, (⟨f, []⟩, s), []⟩
  | ordinary {line : Line} {ahead : List Line} {f : Frame} {s : Store}
      (other : settings.kind.recognizes line.text = false) :
      LinesSettle (line :: ahead) f s ⟨.ok true, (⟨f, []⟩, s), []⟩
  | failed {line : Line} {ahead : List Line} {f : Frame} {s t : Store} {e : Error}
      {events : List Event} (recognized : settings.kind.recognizes line.text = true)
      (executed : executeLine resources settings load (f.moved line ahead).cursor.state line s =
        ⟨.error e, t, events⟩) :
      LinesSettle (line :: ahead) f s ⟨.error e, (⟨f.moved line ahead, []⟩, t), events⟩
  | inside {line : Line} {ahead : List Line} {f g : Frame} {s t u : Store} {c : Chain}
      {events inner : List Event} {result : Except Error Bool}
      (recognized : settings.kind.recognizes line.text = true)
      (executed : executeLine resources settings load (f.moved line ahead).cursor.state line s =
        ⟨.ok (.entered g), t, events⟩)
      (entered : enter g t = ⟨result, (c, u), inner⟩) (unfinished : result ≠ .ok false) :
      LinesSettle (line :: ahead) f s
        ⟨result, (⟨f.moved line ahead, c.frame :: c.included⟩, u), events ++ inner⟩
  | passed {line : Line} {ahead : List Line} {f f' : Frame} {s t : Store} {o : Settled}
      {events : List Event} (recognized : settings.kind.recognizes line.text = true)
      (goes : GoesOn resources settings load enter line (f.moved line ahead) s f' t events)
      (rest : LinesSettle ahead f' t o) :
      LinesSettle (line :: ahead) f s (o.after events)

variable {resources settings load enter}

/-- The source goes on behind the line that was executed. -/
theorem GoesOn.cursor {line : Line} {f f' : Frame} {s t : Store} {events : List Event}
    (h : GoesOn resources settings load enter line f s f' t events) : f'.cursor = f.cursor := by
  cases h <;> rfl

theorem GoesOn.ahead {line : Line} {ahead : List Line} {f f' : Frame} {s t : Store}
    {events : List Event}
    (h : GoesOn resources settings load enter line (f.moved line ahead) s f' t events) :
    f'.cursor.ahead = ahead := by
  rw [h.cursor, Frame.ahead_moved]

theorem linesSettle (lines : List Line) (f : Frame) (s : Store) :
    LinesSettle resources settings load enter lines f s
      (settleLines resources settings load enter lines f s) := by
  fun_induction settleLines resources settings load enter lines f s with
  | case1 f s => exact .ended
  | case2 line ahead f s hline f' e s' events hexec => exact .failed hline hexec
  | case3 line ahead f s hline f' s' events hexec ih => exact .passed hline (.done hexec) ih
  | case4 line ahead f s hline f' s' events hexec ih => exact .passed hline (.replayed hexec) ih
  | case5 line ahead f s hline f' g s' events hexec c s'' inner hinner ih =>
    exact .passed hline (.behind hexec hinner) ih
  | case6 line ahead f s hline f' g s' events hexec result c s'' inner hnot hinner =>
    exact .inside hline hexec hinner hnot
  | case7 line ahead f s hline => exact .ordinary (by simpa using hline)

/-- Settling goes one way only. -/
theorem LinesSettle.eq {lines : List Line} {f : Frame} {s : Store} {o : Settled}
    (h : LinesSettle resources settings load enter lines f s o) :
    settleLines resources settings load enter lines f s = o := by
  induction h with
  | ended => rfl
  | ordinary other => rw [settleLines, other, if_neg Bool.false_ne_true]
  | failed recognized executed => simp only [settleLines, recognized, if_true, executed]
  | inside recognized executed entered unfinished =>
    simp only [settleLines, recognized, if_true, executed, entered]
  | passed recognized goes rest ih =>
    cases goes with
    | done executed => simp only [settleLines, recognized, if_true, executed, ih]
    | replayed executed => simp only [settleLines, recognized, if_true, executed, ih]
    | behind executed ended => simp only [settleLines, recognized, if_true, executed, ended, ih]

end

def loadAt (resources : Resources) (depth : Nat) (settings : Settings) (reference : Text) :
    Act Store Table :=
  withOwnTarget (readRecords resources settings.forRecords
    (fun g s => settle resources depth settings.forRecords g [] s) (.text reference))

section

variable {resources : Resources} {settings : Settings} {depth : Nat} {f g : Frame}
  {rest : List Frame} {s t : Store} {c : Chain} {events : List Event}

/-- A source that includes nothing settles from its next line on. -/
theorem settle_single (resources : Resources) (depth : Nat) (settings : Settings) (f : Frame)
    (s : Store) :
    LinesSettle resources settings (loadAt resources depth settings)
      (fun g s => settle resources depth settings g [] s) f.started.cursor.ahead f.started s
      (settle resources (depth + 1) settings f [] s) :=
  linesSettle ..

theorem settle_of_ahead {line : Line} {ahead : List Line}
    (h : f.cursor.ahead = line :: ahead) :
    settle resources (depth + 1) settings f [] s =
      settleLines resources settings (loadAt resources depth settings)
        (fun g s => settle resources depth settings g [] s) (line :: ahead) f s := by
  simp only [settle, Frame.started_of_reading (Frame.reading_of_ahead h), h]
  rfl

/-- The outermost source goes on when what it includes has come to its end. -/
theorem settle_of_finished
    (h : settle resources depth settings g rest s = ⟨.ok false, (c, t), events⟩) :
    settle resources (depth + 1) settings f (g :: rest) s =
      (settle resources (depth + 1) settings f [] t).after events := by
  simp only [settle, h]

theorem settle_of_within {result : Except Error Bool}
    (h : settle resources depth settings g rest s = ⟨result, (c, t), events⟩)
    (unfinished : result ≠ .ok false) :
    settle resources (depth + 1) settings f (g :: rest) s =
      ⟨result, (⟨f, c.frame :: c.included⟩, t), events⟩ := by
  rw [settle, h]
  rcases result with e | _ | _
  · rfl
  · exact absurd rfl unfinished
  · rfl

end

/-- **A whole run of settling** has a property if chains that nest too deep have it, if settling one
source does when all that it loads and includes does, and if a chain does when what its outermost
source includes does, and that source behind it. -/
theorem settle_induction {resources : Resources}
    {motive : Nat → Settings → Frame → List Frame → Store → Settled → Prop}
    (tooDeep : ∀ settings f included s,
      motive 0 settings f included s ⟨.error .tooDeep, (⟨f, included⟩, s), []⟩)
    (own : ∀ depth settings f s o,
      (∀ settings f included s,
        motive depth settings f included s (settle resources depth settings f included s)) →
      LinesSettle resources settings (loadAt resources depth settings)
        (fun g s => settle resources depth settings g [] s) f.started.cursor.ahead f.started s o →
      motive (depth + 1) settings f [] s o)
    (finished : ∀ depth settings f g rest s c t events,
      settle resources depth settings g rest s = ⟨.ok false, (c, t), events⟩ →
      motive depth settings g rest s ⟨.ok false, (c, t), events⟩ →
      motive (depth + 1) settings f [] t (settle resources (depth + 1) settings f [] t) →
      motive (depth + 1) settings f (g :: rest) s
        ((settle resources (depth + 1) settings f [] t).after events))
    (within : ∀ depth settings f g rest s result c t events,
      settle resources depth settings g rest s = ⟨result, (c, t), events⟩ → result ≠ .ok false →
      motive depth settings g rest s ⟨result, (c, t), events⟩ →
      motive (depth + 1) settings f (g :: rest) s
        ⟨result, (⟨f, c.frame :: c.included⟩, t), events⟩)
    (depth : Nat) (settings : Settings) (f : Frame) (included : List Frame) (s : Store) :
    motive depth settings f included s (settle resources depth settings f included s) := by
  induction depth generalizing settings f included s with
  | zero => exact tooDeep settings f included s
  | succ depth ih =>
    have single (s : Store) :
        motive (depth + 1) settings f [] s (settle resources (depth + 1) settings f [] s) :=
      own depth settings f s _ ih (settle_single resources depth settings f s)
    cases included with
    | nil => exact single s
    | cons g rest =>
      -- What is included settles first; the source itself goes on only when that has ended.
      have inner := ih settings g rest s
      rcases settled : settle resources depth settings g rest s with ⟨result, ⟨c, t⟩, events⟩
      rw [settled] at inner
      by_cases ended : result = .ok false
      · subst ended
        rw [settle_of_finished settled]
        exact finished depth settings f g rest s c t events settled inner (single t)
      · rw [settle_of_within settled ended]
        exact within depth settings f g rest s result c t events settled ended inner

/-! ### What settling preserves -/

section

variable {resources : Resources} {R : Store → List Event → Store → Prop}

/-- **What executing each line preserves, settling one source preserves**, if settling what it
includes does. -/
theorem LinesSettle.preserves (refl : ∀ s, R s [] s)
    (trans : ∀ {s t u early late}, R s early t → R t late u → R s (early ++ late) u)
    {settings : Settings} {load : Text → Act Store Table} {enter : Frame → Store → Settled}
    (executes : ∀ place line s, R s (executeLine resources settings load place line s).events
      (executeLine resources settings load place line s).state)
    (enters : ∀ g s, R s (enter g s).events (enter g s).state.2)
    {lines : List Line} {f : Frame} {s : Store} {o : Settled}
    (run : LinesSettle resources settings load enter lines f s o) :
    R s o.events o.state.2 := by
  have first {place : Text} {line : Line} {s t : Store} {result : Except Error Effect}
      {events : List Event} (executed : executeLine resources settings load place line s =
        ⟨result, t, events⟩) : R s events t := by
    have kept := executes place line s
    rwa [executed] at kept
  have inner {g : Frame} {c : Chain} {t u : Store} {result : Except Error Bool}
      {events : List Event} (entered : enter g t = ⟨result, (c, u), events⟩) : R t events u := by
    have kept := enters g t
    rwa [entered] at kept
  induction run with
  | ended => exact refl _
  | ordinary => exact refl _
  | failed recognized executed => exact first executed
  | inside recognized executed entered => exact trans (first executed) (inner entered)
  | passed recognized goes rest ih =>
    cases goes with
    | done executed => exact trans (first executed) ih
    | replayed executed => exact trans (first executed) ih
    | behind executed ended => exact trans (trans (first executed) (inner ended)) ih

/-- **What executing each line preserves, settling preserves**, for all settings of a kind. -/
theorem settle_preserves {P : Settings → Prop} (refl : ∀ s, R s [] s)
    (trans : ∀ {s t u early late}, R s early t → R t late u → R s (early ++ late) u)
    (executes : ∀ depth settings, P settings →
      (∀ g s, P settings.forRecords →
        R s (settle resources depth settings.forRecords g [] s).events
          (settle resources depth settings.forRecords g [] s).state.2) →
      ∀ place line s,
        R s (executeLine resources settings (loadAt resources depth settings) place line s).events
          (executeLine resources settings (loadAt resources depth settings) place line s).state)
    {depth : Nat} {settings : Settings} (h : P settings) {f : Frame} {included : List Frame}
    {s : Store} :
    R s (settle resources depth settings f included s).events
      (settle resources depth settings f included s).state.2 := by
  revert h
  refine settle_induction (motive := fun _ settings _ _ s o =>
    P settings → R s o.events o.state.2)
    ?tooDeep ?own ?finished ?within depth settings f included s
  case tooDeep => exact fun _ _ _ s _ => refl s
  case own =>
    intro depth settings f s o ih run h
    exact run.preserves refl trans
      (executes depth settings h fun g s => ih settings.forRecords g [] s)
      fun g s => ih settings g [] s h
  case finished =>
    intro depth settings f g rest s c t events settled inner own h
    exact trans (inner h) (own h)
  case within =>
    intro depth settings f g rest s result c t events settled unfinished inner h
    exact inner h

end

/-! ### Chains at rest -/

section

variable {resources : Resources} {settings : Settings}

/-- Settling one source stops at a chain at rest if settling what it includes does. -/
theorem LinesSettle.atRest {depth : Nat} {load : Text → Act Store Table}
    {enter : Frame → Store → Settled}
    (henter : ∀ g s, (enter g s).result = .ok true →
      (enter g s).state.1.AtRest settings depth true)
    {lines : List Line} {f : Frame} {s : Store} {o : Settled} {answer : Bool}
    (run : LinesSettle resources settings load enter lines f s o)
    (hahead : f.cursor.ahead = lines) (hreading : f.cursor.reading.isSome)
    (h : o.result = .ok answer) : o.state.1.AtRest settings (depth + 1) answer := by
  induction run with
  | ended =>
    cases h
    exact ⟨Nat.succ_pos depth, rfl, hreading, hahead⟩
  | @ordinary line ahead f s other =>
    cases h
    exact ⟨line, ahead, hahead, other⟩
  | failed => cases h
  | @inside line ahead f g s t u c events inner result recognized executed entered unfinished =>
    cases answer with
    | false => exact absurd h unfinished
    | true =>
      have rest := henter g t
      rw [entered] at rest
      exact rest h
  | passed recognized goes rest ih =>
    refine ih goes.ahead ?_ h
    rw [goes.cursor, Frame.reading_moved]

theorem settle_atRest {depth : Nat} {f : Frame} {included : List Frame} {s : Store}
    {answer : Bool} (h : (settle resources depth settings f included s).result = .ok answer) :
    (settle resources depth settings f included s).state.1.AtRest settings depth answer := by
  revert answer
  refine settle_induction (motive := fun depth settings _ _ _ o => ∀ {answer : Bool},
    o.result = .ok answer → o.state.1.AtRest settings depth answer)
    ?tooDeep ?own ?finished ?within depth settings f included s
  case tooDeep => rintro settings f included s answer ⟨⟩
  case own =>
    intro depth settings f s o ih run answer h
    exact run.atRest (fun g s => ih settings g [] s) rfl f.reading_started h
  case finished =>
    intro depth settings f g rest s c t events settled inner own answer h
    exact own h
  case within =>
    intro depth settings f g rest s result c t events settled unfinished inner answer h
    cases answer with
    | false => exact absurd h unfinished
    | true => exact inner h

/-- Settling leaves a chain at rest as it is. -/
theorem settle_of_atRest {depth : Nat} {c : Chain} {answer : Bool}
    (h : c.AtRest settings depth answer) (s : Store) :
    settle resources depth settings c.frame c.included s = ⟨.ok answer, (c, s), []⟩ := by
  obtain ⟨f, included⟩ := c
  cases answer with
  | false =>
    obtain ⟨hdepth, hnil, hreading, hahead⟩ := h
    obtain ⟨depth, rfl⟩ := Nat.exists_eq_succ_of_ne_zero (Nat.ne_of_gt hdepth)
    simp only at hnil hreading hahead
    subst hnil
    simp only [settle, Frame.started_of_reading hreading, hahead, settleLines]
  | true =>
    induction depth generalizing f included with
    | zero => exact h.elim
    | succ depth ih =>
      cases included with
      | nil =>
        obtain ⟨line, ahead, hahead, hline⟩ := h
        rw [settle_of_ahead hahead]
        exact (LinesSettle.ordinary hline).eq
      | cons g rest => simp only [settle, ih g rest h]

theorem settle_idem {depth : Nat} {f : Frame} {included : List Frame} {s s' : Store} {c : Chain}
    {answer : Bool} {events : List Event}
    (h : settle resources depth settings f included s = ⟨.ok answer, (c, s'), events⟩)
    (t : Store) :
    settle resources depth settings c.frame c.included t = ⟨.ok answer, (c, t), []⟩ := by
  have rest := @settle_atRest resources settings depth f included s answer (by rw [h])
  rw [h] at rest
  exact settle_of_atRest rest t

/-- Where an ordinary line is next, the sources that ask again change nothing. -/
theorem nextLine_of_ready {depth : Nat} {f : Frame} {included : List Frame}
    (h : Ready settings depth f included) (s : Store) :
    nextLine resources depth settings f included s = takeNext settings f included s := by
  induction depth generalizing f included with
  | zero => exact h.elim
  | succ depth ih =>
    have again : settle resources (depth + 1) settings f included s =
        ⟨.ok true, (⟨f, included⟩, s), []⟩ :=
      @settle_of_atRest resources settings _ ⟨f, included⟩ true h s
    cases included with
    | nil => simp only [nextLine, again, Outcome.after_nil]
    | cons g rest =>
      have inner : nextLine resources depth settings g rest s = takeNext settings g rest s := ih h
      simp only [nextLine, again, inner, takeNext, Outcome.after_nil]

/-- Asking for the next line settles the chain, and takes the line that follows then. -/
theorem nextLine_eq (depth : Nat) (f : Frame) (included : List Frame) (s : Store) :
    nextLine resources depth settings f included s =
      match settle resources depth settings f included s with
      | ⟨.error e, after, events⟩ => ⟨.error e, after, events⟩
      | ⟨.ok false, after, events⟩ => ⟨.ok none, after, events⟩
      | ⟨.ok true, (c, s), events⟩ => (takeNext settings c.frame c.included s).after events := by
  cases depth with
  | zero => rfl
  | succ depth =>
    have rest := @settle_atRest resources settings (depth + 1) f included s true
    rw [nextLine]
    generalize settle resources (depth + 1) settings f included s = o at rest ⊢
    obtain ⟨result, ⟨⟨f', included'⟩, s'⟩, events⟩ := o
    match result, included', rest with
    | .error e, _, _ => rfl
    | .ok false, _, _ => rfl
    | .ok true, [], _ => rfl
    | .ok true, g :: tail, rest =>
      have ready : Ready settings depth g tail := rest rfl
      simp only [nextLine_of_ready ready s', takeNext]

end

end CommandScript
