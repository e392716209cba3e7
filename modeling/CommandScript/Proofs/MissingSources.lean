import CommandScript.Proofs.NestedChains
import CommandScript.Proofs.OptionalForms
import CommandScript.Proofs.SpacedRecords
import CommandScript.Proofs.WholeLoads

/-!
# Lines that name a missing source

A line with an optional mark names a source that cannot be found. Executing it only makes sure of
a table, if the line asks for one, and settling goes on behind it.
-/

namespace CommandScript

open Act
open Event (unlogged)
open Scanner (unlogged_append)

/-- What a line says of itself when it is taken: nothing, unless it is echoed. -/
def Line.said (settings : Settings) (s : Store) (line : Line) : List Event :=
  if (splitEcho line.text).1 then settings.echoOf (withoutEcho line.text) s else []

/-- The built-in evaluates to a source that cannot be found. If the source is optional, executing
the built-in leaves the store `t`. -/
inductive Builtin.Misses (resources : Resources) (settings : Settings) (s : Store) :
    Builtin → Store → Prop where
  | included {reference u gone : Text} {state : Option Text}
      (named : settings.expander.expand s.registry reference = .ok u)
      (absent : (Source.text (Text.splitOptional u).2).read resources =
        .error (.notFound gone state)) : Misses resources settings s (.includeSource reference) s
  | loaded {label reference l u gone : Text} {state : Option Text}
      (labelled : settings.expander.expand s.registry label = .ok l)
      (named : settings.expander.expand s.registry reference = .ok u)
      (absent : (Source.text (Text.asFileReference (Text.splitOptional u).2)).read resources =
        .error (.notFound gone state)) :
      Misses resources settings s (.properties label reference)
        { s with registry := s.registry.ensure l }

section

variable {resources : Resources} {settings : Settings} {load : Text → Act Store Table}
variable {place : Text} {s t : Store} {b b' : Builtin}

/-- Executing a line surfaces it and then executes what it says. -/
theorem executeLine_apply {line : Line}
    (form : settings.kind.builtin? (withoutEcho line.text) = some b) :
    ∃ own, unlogged own = line.said settings s ∧
      executeLine resources settings load place line s =
        match settings.expander.expand s.registry (withoutEcho line.text) with
        | .error e => ⟨.error e, s, own⟩
        | .ok _ => (execute resources settings load place b s).after own := by
  obtain ⟨log, quiet, logged⟩ : Quietly (onlyIf settings.options.verbose (debug .builtins
      ("has_next_line(): quietly executing [" ++ line.text ++ "]"))) s () s := .onlyIf_debug ..
  have result := @result_surface settings place line s
  have state := state_surface settings place line s
  have said := @unlogged_surface settings place line s
  simp only [executeLine, bind_apply, logged, form]
  generalize surface settings place line s = o at result state said
  obtain ⟨r, u, made⟩ := o
  dsimp only at result state said
  subst result state
  refine ⟨log ++ made, by rw [unlogged_append, quiet, said]; rfl, ?_⟩
  cases settings.expander.expand u.registry (withoutEcho line.text) with
  | error e => rfl
  | ok text => simp [Outcome.after, List.append_assoc]

theorem openingEvents_of_error {source : Source} {e : Error}
    (h : source.read resources = .error e) :
    openingEvents resources settings source = source.path?.toList.map .sought := by
  rw [openingEvents, h, List.append_nil]

theorem unlogged_sought (paths : List Path) :
    unlogged (paths.map .sought) = paths.map .sought := by
  rw [Event.unlogged, List.filter_eq_self]
  intro event mem
  obtain ⟨path, -, rfl⟩ := List.mem_map.mp mem
  rfl

/-- An optional source that cannot be found is looked for, and that is all. -/
theorem Builtin.Misses.execute (misses : b.Misses resources settings s t)
    (optional : b.Optional b') (depth : Nat) (place : Text) :
    ∃ effect, ∃ paths : List Path, (effect = .done ∨ effect = .entered {}) ∧
      (execute resources settings (loadAt resources depth settings) place b s).ComesTo
        (.ok effect) t (paths.map .sought) := by
  have tried {α : Type} {x : Act Store α} {e : Error} {shown : List Event}
      (h : (x s).ComesTo (.error e) s shown) : (attempt x s).ComesTo (.ok (.error e)) s shown :=
    ⟨congrArg Except.ok h.result, h.state, h.shown⟩
  cases misses with
  | @included _ _ gone state named absent =>
    cases optional with
    | included =>
      obtain ⟨v, -, rfl⟩ := Expander.expand_cons_ok s.registry (by decide) named
      have absent : (Source.text v).read resources = .error (.notFound gone state) := absent
      have opened : (openFrame resources settings (.text v) s).ComesTo
          (.error (.notFound gone state)) s ((Source.text v).path?.toList.map .sought) := by
        rw [openFrame_apply, openingEvents_of_error absent, absent]
        exact ⟨rfl, rfl, unlogged_sought _⟩
      refine ⟨.entered {}, (Source.text v).path?.toList, .inr rfl, ?_⟩
      refine .bind (quietly_expand settings.options.verbose named) ?_
      refine .quietly (.quietly (tried opened) ?_) (.bind (.onlyIf_debug ..) .pure)
      exact .bind ⟨[_], rfl, rfl⟩ .pure
  | @loaded _ _ l _ gone state labelled named absent =>
    cases optional with
    | loaded =>
      obtain ⟨v, -, rfl⟩ := Expander.expand_cons_ok s.registry (by decide) named
      have absent : (Source.text (Text.asFileReference v)).read resources =
        .error (.notFound gone state) := absent
      obtain ⟨rfl, rfl⟩ : gone = Text.asFileReference v ∧ state = none := by
        cases Source.read_fault absent
        exact ⟨rfl, rfl⟩
      have loaded : (loadAt resources depth settings (Text.asFileReference v) s).ComesTo
          (.error (.notFound (Text.asFileReference v) none)) s
          ((Source.text (Text.asFileReference v)).path?.toList.map .sought) := by
        simp only [loadAt, withOwnTarget, readRecords_apply, absent]
        rw [openingEvents_of_error absent]
        exact ⟨rfl, rfl, unlogged_sought _⟩
      obtain ⟨values, log, quiet, merged⟩ := merge_nothing l s
      refine ⟨.done, (Source.text (Text.asFileReference v)).path?.toList, .inl rfl, ?_⟩
      refine .bind (quietly_expand settings.options.verbose labelled) ?_
      refine .bind (quietly_expand settings.options.verbose named) ?_
      refine .quietly (b := (∅ : Table)) (t := s) (.quietly (tried loaded) ?_) ?_
      · simp only [ne_eq, not_true_eq_false, if_false, if_true]
        exact .bind ⟨[_], rfl, rfl⟩ .pure
      · exact .bind ⟨log, quiet, merged⟩ (.bind (.onlyIf_debug ..) .pure)

/-! ### Settling goes on -/

/-- What settling the innermost source does first, settling the whole chain does first. -/
theorem settle_changed {change : Frame → Frame} {f : Frame} {included : List Frame}
    {depth : Nat} {events : List Event} (room : included.length < depth)
    (innermost : settle resources (depth - included.length) settings
        (Chain.innermost ⟨f, included⟩) [] s =
      (settle resources (depth - included.length) settings
        (change (Chain.innermost ⟨f, included⟩)) [] t).after events) :
    settle resources depth settings f included s =
      (settle resources depth settings (Chain.changed change f included).frame
        (Chain.changed change f included).included t).after events := by
  induction included generalizing f depth with
  | nil => exact innermost
  | cons g rest ih =>
    obtain ⟨depth, rfl⟩ := Nat.exists_eq_succ_of_ne_zero (Nat.ne_zero_of_lt room)
    rw [Chain.innermost_cons, List.length_cons, Nat.succ_eq_add_one, Nat.add_sub_add_right]
      at innermost
    have inner := ih (Nat.lt_of_succ_lt_succ room) innermost
    simp only [settle, inner, Chain.changed]
    generalize settle resources depth settings (Chain.changed change g rest).frame
      (Chain.changed change g rest).included t = o
    obtain ⟨e | _ | _, ⟨c, u⟩, made⟩ := o
    · rfl
    · simp only [Outcome.after, List.append_assoc]
    · rfl

/-- A line that is executed without an effect on its source is passed. -/
theorem settle_passed {f : Frame} {line : Line} {rest : List Line} {depth : Nat}
    {effect : Effect} {events : List Event} (ahead : f.cursor.ahead = line :: rest)
    (recognized : settings.kind.recognizes line.text = true)
    (executed : executeLine resources settings (loadAt resources depth settings)
      (f.moved line rest).cursor.state line s = ⟨.ok effect, t, events⟩)
    (idle : effect = .done ∨ effect = .entered {} ∧ 0 < depth) :
    settle resources (depth + 1) settings f [] s =
      (settle resources (depth + 1) settings (f.passed line rest false) [] t).after events := by
  have behind := settle_single resources depth settings (f.passed line rest false) t
  have goes : GoesOn resources settings (loadAt resources depth settings)
      (fun g s => settle resources depth settings g [] s) line (f.moved line rest) s
      (f.passed line rest false) t events := by
    obtain rfl | ⟨rfl, room⟩ := idle
    · exact .done executed
    · obtain ⟨depth, rfl⟩ := Nat.exists_eq_add_one.mpr room
      rw [← List.append_nil events]
      exact .behind executed rfl
  rw [settle_of_ahead ahead]
  exact (LinesSettle.passed recognized goes behind).eq

theorem Builtin.Misses.names {line : Line}
    (misses : b.Misses resources settings s t)
    (form : settings.kind.builtin? (withoutEcho line.text) = some b) :
    ∃ settings' reference, Names settings line.text settings' reference := by
  cases misses with
  | included named absent => exact ⟨_, _, .included form named⟩
  | loaded labelled named absent => exact ⟨_, _, .loaded form named⟩

end

def Scanner.settled (resources : Resources) (depth : Nat) (sc : Scanner) (s : Store) : Settled :=
  settle resources depth sc.settings sc.chain.frame sc.chain.included s

/-- Settling passes a line that names a missing source, if it marks the source as optional. -/
theorem Scanner.Reached.settled_of_misses {resources : Resources} {outer : Settings} {depth : Nat}
    {sc : Scanner} {line : Line} {rest : List Line} {b b' : Builtin} {s t : Store} {u : Text}
    (reached : Reached resources outer depth sc) (acyclic : Acyclic resources outer)
    (ahead : sc.chain.innermost.cursor.ahead = line :: rest)
    (form : sc.settings.kind.builtin? (withoutEcho line.text) = some b) (optional : b.Optional b')
    (evaluates : sc.settings.expander.expand s.registry (withoutEcho line.text) = .ok u)
    (misses : b.Misses resources sc.settings s t) :
    ∃ events, ∃ paths : List Path,
      unlogged events = line.said sc.settings s ++ paths.map .sought ∧
        sc.settled resources depth s =
          ((sc.changed (.passed line rest false)).settled resources depth t).after events := by
  have sound := reached.sound_nests.1 _ sc.chain.innermost_mem
  obtain ⟨settings', reference, names⟩ := misses.names form
  have room := reached.room acyclic (sound.mem_lines ahead) names
  obtain ⟨below, hdepth⟩ : ∃ below, depth - sc.chain.included.length = below + 1 :=
    ⟨depth - sc.chain.included.length - 1, by omega⟩
  obtain ⟨own, said, executed⟩ := @executeLine_apply resources sc.settings
    (loadAt resources below sc.settings) (sc.chain.innermost.moved line rest).cursor.state s b line
    form
  obtain ⟨effect, paths, idle, comes⟩ := misses.execute optional below
    (sc.chain.innermost.moved line rest).cursor.state
  obtain ⟨log, shown, run⟩ := comes.exists_eq
  rw [evaluates, run] at executed
  refine ⟨own ++ log, paths, by rw [unlogged_append, said, shown], ?_⟩
  refine settle_changed (by omega) ?_
  have passed := settle_passed ahead (Kind.recognizes_of_builtin? form) executed
    (idle.imp_right fun entered => ⟨entered, by omega⟩)
  rw [hdepth]
  exact passed

end CommandScript
