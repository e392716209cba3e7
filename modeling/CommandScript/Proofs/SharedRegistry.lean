import CommandScript.Proofs.Duplication
import CommandScript.Proofs.Growth
import CommandScript.Properties

/-!
# The registry only grows

Many walkers share a registry: scanners and their copies, loaders, and what each of them
includes. Whatever is done with them, also where it fails, the registry grows as the lines say
that are executed. One lemma for each operation, one for each deed of a session, and a run by
induction.
-/

namespace CommandScript

open Act

/-! ### Operations -/

namespace Scanner

variable {α : Type} {resources : Resources} {sc : Scanner} {s : Store} {op : Operation}

abbrev Reads (x : Scan α) (sc : Scanner) (s : Store) : Prop := Leaves x (fun st => st.2 = s) (sc, s)

theorem Reads.grows {x : Scan α} (h : Reads x sc s) (executed : ExecutedLine → Prop) :
    Leaves x (fun st => Grows executed s.registry st.2.registry) (sc, s) :=
  h.mono (fun _ _ same => same ▸ .refl _ _) fun _ _ same => same ▸ .refl _ _

theorem reads_openSource (source : Source) (trim compress : Option Bool) :
    Reads (openSource resources source trim compress) sc s := by
  simp only [Reads, openSource, modifyChain, Leaves, Wp.bind_iff, Wp.modify_iff, Wp.get_iff,
    wp_openFrame]
  split <;> trivial

theorem reads_expand (t : Text) : Reads (expand t) sc s := (rests_expand t _).of_rests rfl

theorem reads_current? : Reads current? sc s := (rests_current? _).of_rests rfl

theorem reads_current : Reads current sc s := (rests_current _).of_rests rfl

/-- The operation changes the registry as the lines say that it executes. -/
abbrev GrowsBy (resources : Resources) (op : Operation) (x : Scan α) (sc : Scanner) (s : Store) :
    Prop :=
  Leaves x (fun st => Grows (sc.Performs resources s op) s.registry st.2.registry) (sc, s)

theorem grows_hasNext : GrowsBy resources .hasNext (hasNext resources) sc s := by
  refine leaves_iff.mpr ((grows_settle _ _ _ s).mono fun e => ?_)
  exact .settling (by simp)

theorem grows_next? (asks : op ∈ [.hasNext, .next, .next?]) :
    GrowsBy resources op (next? resources) sc s := by
  refine leaves_iff.mpr ((grows_nextLine _ _ _ s).mono fun e => ?_)
  exact .settling asks

theorem grows_next : GrowsBy resources .next (next resources) sc s := by
  refine (grows_next? (by simp)).bind fun text st grown => ?_
  cases text <;> exact grown

theorem grows_loadTable (loads : sc.settings.kind.loadsTables = true) (reference : Text) :
    GrowsBy resources (.loadTable reference) (loadTable resources reference) sc s := by
  have loaded := leaves_iff.mp (@grows_loadAt resources sc.settings resources.depthBound
    (.text (Text.asFileReference reference)) s)
  exact leaves_iff.mpr (loaded.mono fun e => .table loads)

theorem grows_executeCurrent :
    GrowsBy resources .executeCurrent (executeCurrent resources) sc s := by
  simp only [GrowsBy, executeCurrent, Leaves, Wp.bind_iff, Wp.get_iff]
  split
  · exact .refl _ _
  · rename_i line taken
    split
    · exact .refl _ _
    · rename_i written
      split
      · exact .refl _ _
      · rename_i builtin form
        rw [Wp.bind_iff, onStore, Wp.onSnd_iff]
        have executed := @grows_execute resources sc.settings
          (loadAt resources resources.depthBound sc.settings) _
          (fun reference => grows_loadAt resources.depthBound (.text reference)) sc.state builtin s
        have current : ∀ e, builtin.Executes sc.settings (fun reference =>
            LoadsAt resources resources.depthBound sc.settings (.text reference)) s e →
              sc.Performs resources s .executeCurrent e :=
          fun e => .current taken (by simpa using written) form
        exact executed.mono (fun _ _ grown => grown.mono current) fun _ _ grown =>
          grown.mono current

end Scanner

namespace Run

variable {α : Type} {resources : Resources} {w : Walker} {s : Store} {op : Operation}

/-- Only scanners reach the store. -/
theorem grows_byFamily {r : Act Reader α} {c : Act Classifier α} {sc : Scanner.Scan α}
    (hsc : ∀ x : Scanner, Scanner.GrowsBy resources op sc x s) :
    Leaves (byFamily r c sc)
      (fun st => Grows (w.Performs resources s op) s.registry st.2.registry) (w, s) := by
  rw [leaves_iff]
  cases w with
  | reader x => exact .refl _ _
  | classifier x => exact .refl _ _
  | scanner x => exact leaves_iff.mp (hsc x)

/-- Every operation changes the registry as the lines say that it executes, also where it
fails. -/
theorem grows_perform (resources : Resources) (w : Walker) (s : Store) (op : Operation) :
    Leaves (perform resources op)
      (fun st => Grows (w.Performs resources s op) s.registry st.2.registry) (w, s) := by
  cases op with
  | openSource source trim compress =>
    exact (grows_byFamily fun x => (Scanner.reads_openSource source trim compress).grows _).map _
  | reset =>
    refine (grows_byFamily fun x => ?_).map _
    exact .refl _ _
  | rewind =>
    refine (grows_byFamily fun x => ?_).map _
    exact .refl _ _
  | hasNext => exact (grows_byFamily fun x => Scanner.grows_hasNext).map _
  | next => exact (grows_byFamily fun x => Scanner.grows_next).map _
  | next? => exact (grows_byFamily fun x => Scanner.grows_next? (by simp)).map _
  | current => exact (grows_byFamily fun x => Scanner.reads_current.grows _).map _
  | current? => exact (grows_byFamily fun x => Scanner.reads_current?.grows _).map _
  | ask q => exact .refl _ _
  | executeCurrent => exact (grows_byFamily fun x => Scanner.grows_executeCurrent).map _
  | expand t => exact (grows_byFamily fun x => (Scanner.reads_expand t).grows _).map _
  | loadTable reference =>
    refine (grows_byFamily fun x => ?_).map _
    rw [Scanner.GrowsBy, Leaves, Wp.bind_iff, Wp.get_iff]
    by_cases loads : x.settings.kind.loadsTables
    · simp only [loads, if_true]
      exact Scanner.grows_loadTable loads reference
    · simp only [loads]
      exact .refl _ _
  | determine line =>
    refine (grows_byFamily fun x => ?_).map _
    exact .refl _ _

end Run

/-! ### Runs -/

namespace Session

/-- What can be done with walkers that share a registry, if nobody else writes to it. -/
inductive Deed where
  | step (st : Step) (own : ¬ st.Shares)
  /-- A walker is made; one that sees the environment adds it to the registry. -/
  | make (options : Options) (family : Family) (seesEnvironment : Bool)
  /-- A properties source is loaded, and its table handed out. -/
  | load (loader : PropertiesLoader) (source : Source)

def prepare (resources : Resources) (family : Family) (seesEnvironment : Bool) (s : Store) :
    Store :=
  let s := match family with
    | .scanner kind _ _ => Scanner.prepare kind s
    | .reader | .classifier => s
  if seesEnvironment then
    { s with registry := s.registry.withEnvironment resources.environment }
  else s

namespace Deed

def take (resources : Resources) : Deed → Session → Session
  | .step st _, se => (Session.step resources st se).state
  | .make options family seesEnvironment, se =>
    join { se with store := prepare resources family seesEnvironment se.store }
      (.new options family)
  | .load loader source, se => { se with store := (loader.load resources source se.store).state }

inductive Executes (resources : Resources) (se : Session) : Deed → ExecutedLine → Prop where
  | performed {i : Nat} {op : Operation} {own : ¬ (Step.perform i op).Shares} {w : Walker}
      {e : ExecutedLine} (there : se.view i = some w)
      (executes : w.Performs resources se.store op e) :
      Executes resources se (.step (.perform i op) own) e
  | loaded {loader : PropertiesLoader} {source : Source} {e : ExecutedLine}
      (executes : LoadsAt resources resources.depthBound loader.settings source
        (Scanner.prepare .records se.store) e) : Executes resources se (.load loader source) e

end Deed

def after (resources : Resources) (deeds : List Deed) (se : Session) : Session :=
  deeds.foldl (fun se deed => deed.take resources se) se

inductive Executed (resources : Resources) : List Deed → Session → ExecutedLine → Prop where
  | first {deed : Deed} {deeds : List Deed} {se : Session} {e : ExecutedLine}
      (executes : deed.Executes resources se e) : Executed resources (deed :: deeds) se e
  | later {deed : Deed} {deeds : List Deed} {se : Session} {e : ExecutedLine}
      (executes : Executed resources deeds (deed.take resources se) e) :
      Executed resources (deed :: deeds) se e

variable {resources : Resources} {se : Session}

theorem grows_make (executed : ExecutedLine → Prop) (family : Family) (seesEnvironment : Bool)
    (s : Store) :
    Grows executed s.registry (prepare resources family seesEnvironment s).registry := by
  have made : Grows executed s.registry
      (match family with
        | .scanner kind _ _ => Scanner.prepare kind s
        | .reader | .classifier => s).registry := by
    cases family with
    | scanner kind expander replays => exact .prepare _ kind s
    | reader | classifier => exact .refl _ _
  cases seesEnvironment with
  | false => exact made
  | true => exact made.trans (.withEnvironment _ _ _)

theorem grows_load (loader : PropertiesLoader) (source : Source) (s : Store) :
    Act.Grows (loader.load resources source)
      (LoadsAt resources resources.depthBound loader.settings source (Scanner.prepare .records s))
      s := by
  rw [Act.Grows, Leaves, PropertiesLoader.load, Wp.bind_iff, Wp.modify_iff]
  have made := Grows.prepare (LoadsAt resources resources.depthBound loader.settings source
    (Scanner.prepare .records s)) .records s
  have loaded := @grows_loadAt resources loader.settings resources.depthBound source
    (Scanner.prepare .records s)
  exact loaded.mono (fun _ _ grown => made.trans grown) fun _ _ grown => made.trans grown

/-- One deed changes the registry as the lines say that it executes. -/
theorem grows_take (deed : Deed) (se : Session) :
    Grows (deed.Executes resources se) se.store.registry
      (deed.take resources se).store.registry := by
  cases deed with
  | step st own =>
    cases st with
    | perform i op =>
      simp only [Deed.take, step, onWalker]
      cases hh : se.handles[i]? with
      | none => exact .refl _ _
      | some h =>
        have there : se.view i = some (h.read se.memory) := by rw [view, hh, Option.map_some]
        have grown := leaves_iff.mp (Run.grows_perform resources (h.read se.memory) se.store op)
        exact grown.mono fun e => .performed there
    | duplicate i =>
      rw [Deed.take, step, state_map, joined]
      cases se.view i <;> exact .refl _ _
    | spawn i =>
      rw [Deed.take, step, state_map, joined]
      cases se.view i <;> exact .refl _ _
    | share s => exact absurd trivial own
  | make options family seesEnvironment => exact grows_make _ family seesEnvironment se.store
  | load loader source =>
    exact (leaves_iff.mp (grows_load loader source se.store)).mono fun e => .loaded

theorem grows_after (deeds : List Deed) (se : Session) :
    Grows (Executed resources deeds se) se.store.registry
      (after resources deeds se).store.registry := by
  induction deeds generalizing se with
  | nil => exact .refl _ _
  | cons deed deeds ih =>
    exact ((grows_take deed se).mono fun e => .first).trans
      ((ih (deed.take resources se)).mono fun e => .later)

/-- **The registry only grows.** Whatever is done with walkers that share a registry, and
wherever it fails: the labels that there were stay in their places, and so do the keys of every
table. A table that was there changes only if it holds the script variables or a line was
executed that loads under its label, and a script variable that had a value has another one
only if a line was executed that sets it without a guard or loads under the label of the script
variables. A guarded line that is executed changes no value that there is. -/
theorem registry_only_grows (resources : Resources) (deeds : List Deed) (se : Session) :
    Grows (Executed resources deeds se) se.store.registry
        (after resources deeds se).store.registry ∧
      ∀ e written value, Executed resources deeds se e → e.builtin = .setProperty written value →
        (Text.splitOptional written).1 = true → ∀ (load : Text → Act Store Table) (place key old),
          (e.store.registry.table globalsLabel).find? key = some old →
            ((execute resources e.settings load place e.builtin e.store).state.registry.table
              globalsLabel).find? key = some old := by
  constructor
  · exact grows_after deeds se
  · intro e written value _ form guarded load place key old found
    rw [form]
    exact leaves_iff.mp (guarded_execute guarded found)

def defaults : Resources where
  objects := .ofList [("first".toList, "a=1".toList), ("second".toList, "b=${x}".toList)]

def prepared : Session :=
  after defaults
    [.make {} (.scanner .script {} false) false,
      .step (.perform 0 (.openSource (.text "setProperty x=1\nproperties t=!first".toList)
        none none)) id,
      .step (.perform 0 .hasNext) id] {}

/-- A second script that sets the variable twice, the first time with a guard, adds to the table
and then fails, and a properties loader beside it. -/
def overriding : List Deed :=
  [.step (.perform 0 (.openSource (.text
      "setProperty ?x=2\nproperties t=!second\nsetProperty x=3\ninclude !gone".toList)
      none none)) id,
    .step (.perform 0 .hasNext) id, .step (.duplicate 0) id, .step (.perform 1 .next) id,
    .load {} (.text "setProperty ?y=4; c=5".toList)]

/-- The guarded line left the variable as it was when the table was loaded, the other one changed
it, and both changes have their lines. -/
theorem registry_only_grows_overridden :
    let final := after defaults overriding prepared
    prepared.store.registry.entries.map (fun entry => (entry.1, entry.2.entries)) =
        [("GLOBAL.VARIABLES".toList, [("x".toList, "1".toList)]),
          ("t".toList, [("a".toList, "1".toList)])] ∧
      final.store.registry.entries.map (fun entry => (entry.1, entry.2.entries)) =
        [("GLOBAL.VARIABLES".toList, [("x".toList, "3".toList), ("y".toList, "4".toList)]),
          ("t".toList, [("a".toList, "1".toList), ("b".toList, "1".toList)])] ∧
      (∃ e, Executed defaults overriding prepared e ∧ e.LoadsUnder "t".toList) ∧
      ∃ e, Executed defaults overriding prepared e ∧
        (e.Sets false "x".toList ∨ e.LoadsUnder globalsLabel) := by
  intro final
  obtain ⟨grown, -⟩ := registry_only_grows defaults overriding prepared
  have loaded := grown.tables "t".toList (by decide +kernel) (by decide +kernel)
  have set := grown.values "x".toList "1".toList (by decide +kernel) (by decide +kernel)
  exact ⟨by decide +kernel, by decide +kernel, loaded.resolve_left (by decide +kernel), set⟩

end Session

end CommandScript
