import Mathlib.Order.Lattice.Nat
import CommandScript.Proofs.IncludeTrees
import CommandScript.Proofs.LineCounts
import CommandScript.Proofs.UnboundedRuns

/-!
# Scanning ends

Let the references to files and named texts have ranks that fall from each source to what its lines
name, whatever the registry holds. Then no text leads back to itself, so the runs of a scanner stay
below the bound on their depth: they are the finite runs of the recursion without a bound. A drain
surfaces at most as many lines as the tree of its inclusions has, and then the scanner stays at its
end until it begins anew or executes a line again.
-/

namespace CommandScript

open Act

/-! ### Ranks -/

/-- References can be ranked such that a line of a source, read as a script or as a table, names
with any registry only what cannot be read or has a smaller rank. -/
def Ranked (resources : Resources) (settings : Settings) : Prop :=
  ∃ rank : Text → Nat, ∀ reference name raw, Marked reference →
    (Source.text reference).read resources = .ok (name, raw) →
      ∀ how ∈ [settings, settings.forRecords], ∀ line ∈ how.linesOf raw, ∀ how' reference',
        Names how line.text how' reference' →
          (∃ e, (Source.text reference').read resources = .error e) ∨
            rank reference' < rank reference

section

variable {resources : Resources} {settings : Settings} {rank : Text → Nat}

def ranksOf (resources : Resources) (rank : Text → Nat) (raw : Text) : Set Nat :=
  { n | ∃ reference name, Marked reference ∧
    (Source.text reference).read resources = .ok (name, raw) ∧ rank reference = n }

/-- The smallest rank of a reference to a text, or a rank above all of these where there is no
reference to it. -/
noncomputable def textRank (resources : Resources) (rank : Text → Nat) (raw : Text) : Nat :=
  open Classical in
  if (ranksOf resources rank raw).Nonempty then sInf (ranksOf resources rank raw)
  else (resources.contents.map fun raw => sInf (ranksOf resources rank raw)).foldl (· + ·) 0 + 1

theorem textRank_le {reference name raw : Text} (marked : Marked reference)
    (read : (Source.text reference).read resources = .ok (name, raw)) :
    textRank resources rank raw ≤ rank reference := by
  have here : rank reference ∈ ranksOf resources rank raw :=
    ⟨reference, name, marked, read, rfl⟩
  rw [textRank, if_pos ⟨_, here⟩]
  exact Nat.sInf_le here

/-- A text has the rank of some reference to it, or it stands above all texts that have one. -/
theorem textRank_cases (resources : Resources) (rank : Text → Nat) (raw : Text) :
    textRank resources rank raw ∈ ranksOf resources rank raw ∨
      ∀ reference name raw', Marked reference →
        (Source.text reference).read resources = .ok (name, raw') →
          textRank resources rank raw' < textRank resources rank raw := by
  by_cases named : (ranksOf resources rank raw).Nonempty
  · left
    rw [textRank, if_pos named]
    exact Nat.sInf_mem named
  · refine .inr fun reference name raw' marked read => ?_
    have named' : (ranksOf resources rank raw').Nonempty :=
      ⟨rank reference, reference, name, marked, read, rfl⟩
    rw [textRank, if_pos named', textRank, if_neg named, Nat.lt_succ_iff]
    exact le_foldl_map (fun raw => sInf (ranksOf resources rank raw)) (mem_contents marked read) 0

/-- Sources whose references are ranked do not lead back to themselves. -/
theorem Ranked.acyclic (h : Ranked resources settings) : Acyclic resources settings := by
  obtain ⟨rank, falls⟩ := h
  refine ⟨textRank resources rank, ?_⟩
  rintro how hhow raw - how' raw' ⟨line, hline, reference', name', names, read'⟩
  rcases textRank_cases resources rank raw with ⟨reference, name, marked, read, least⟩ | above
  · rcases falls reference name raw marked read how hhow line hline how' reference' names with
      ⟨e, missing⟩ | less
    · cases missing.symm.trans read'
    · rw [← least]
      exact Nat.lt_of_le_of_lt (textRank_le names.marked read') less
  · exact above reference' name' raw' names.marked read'

/-- Where texts are ranked, so are the references to them. -/
theorem Acyclic.ranked (h : Acyclic resources settings) : Ranked resources settings := by
  obtain ⟨rank, falls⟩ := h
  refine ⟨fun reference =>
    (((Source.text reference).read resources).toOption.map fun found => rank found.2).getD 0, ?_⟩
  intro reference name raw marked read how hhow line hline how' reference' names
  rcases read' : (Source.text reference').read resources with e | ⟨name', raw'⟩
  · exact .inl ⟨e, rfl⟩
  · right
    simp only [read, read', Except.toOption, Option.map_some, Option.getD_some]
    exact falls how hhow raw (mem_contents marked read) how' raw'
      ⟨line, hline, reference', name', names, read'⟩

end

/-! ### Scanners -/

namespace Scanner

inductive DrainsTo (resources : Resources) : Scanner × Store → Scanner × Store → Prop where
  | ended {st st' : Scanner × Store} {events : List Event}
      (asked : hasNext resources st = ⟨.ok false, st', events⟩) : DrainsTo resources st st'
  | took {st mid st' last : Scanner × Store} {events made : List Event} {text : Text}
      (asked : hasNext resources st = ⟨.ok true, mid, events⟩)
      (taken : next resources mid = ⟨.ok text, st', made⟩)
      (more : DrainsTo resources st' last) : DrainsTo resources st last

theorem drainsTo_of_drains {resources : Resources} {st : Scanner × Store} {w : Walked}
    (h : Drains resources st w) (whole : w.fault = none) :
    ∃ sc', DrainsTo resources st (sc', w.store) := by
  induction h with
  | ended asked => exact ⟨_, .ended asked⟩
  | failed asked => cases whole
  | refused asked taken => cases whole
  | took asked taken more ih =>
    obtain ⟨sc', rest⟩ := ih whole
    exact ⟨sc', .took asked taken rest⟩

/-- Behind a drain no line follows, whatever becomes of the store. -/
theorem DrainsTo.finished {resources : Resources} {st last : Scanner × Store}
    (h : DrainsTo resources st last) (t : Store) : Finished resources (last.1, t) := by
  induction h with
  | ended asked => exact hasNext_still asked t
  | took asked taken more ih => exact ih

def trees (resources : Resources) (sc : Scanner) (s : Store) : List IncludeTree :=
  treesOfChain resources resources.depthBound { settings := sc.settings } sc.chain.frame
    sc.chain.included s

variable {resources : Resources} {sc : Scanner}

/-- Whatever the store holds, the runs of a scanner end, and a drain surfaces no more lines than it
has still to read. -/
structure Ends (resources : Resources) (sc : Scanner) : Prop where
  /-- Looking for a line is a finite run. -/
  hasNext : ∀ s, ∃ o, (∀ o', Settles resources sc.settings sc.chain.frame sc.chain.included s o' ↔
      o' = o) ∧
    Scanner.hasNext resources (sc, s) = o.mapState fun (c, s) => ({ sc with chain := c }, s)
  /-- So is taking it, in both ways. -/
  next : ∀ s, ∃ o, (∀ o', Takes resources sc.settings sc.chain.frame sc.chain.included s o' ↔
      o' = o) ∧
    next? resources (sc, s) = (o.mapState fun (c, s) => ({ sc with chain := c }, s)) ∧
    Outcome.Offers id id (Scanner.next resources (sc, s)) (next? resources (sc, s))
  /-- So is loading a table. -/
  loadTable : ∀ reference s, ∃ o, (∀ o', Loads resources sc.settings.forRecords
      (.text (Text.asFileReference reference)) s o' ↔ o' = o) ∧
    Scanner.loadTable resources reference (sc, s) = o.mapState (sc, ·)
  /-- A drain ends and surfaces some of the lines. Without an error it leaves the scanner at its
  end. -/
  drain : ∀ s, ∃ w, (∀ w', Drains resources (sc, s) w' ↔ w' = w) ∧ w.fault ≠ some .tooDeep ∧
    w.lines.length ≤ IncludeTree.sizes (sc.trees resources s) ∧
    (w.fault = none → ∃ sc', DrainsTo resources (sc, s) (sc', w.store) ∧
      ∀ t, Finished resources (sc', t))
  /-- These are the lines ahead in each source, the innermost first, and below a line stands
  nothing, or all lines of the source that it includes. No bound on the depth cuts the trees. -/
  lines : ∀ s, (sc.trees resources s).map IncludeTree.top =
      (sc.chain.frame :: sc.chain.included).reverse.flatMap (·.cursor.ahead) ∧
    (∀ t ∈ sc.trees resources s, t.Grown resources sc.settings) ∧
    ∀ depth, resources.depthBound ≤ depth → treesOfChain resources depth
      { settings := sc.settings } sc.chain.frame sc.chain.included s = sc.trees resources s

theorem ends (reached : Reached resources sc.settings resources.depthBound sc)
    (acyclic : Acyclic resources sc.settings) : Ends resources sc := by
  obtain ⟨sound, nests⟩ := reached.sound_nests
  obtain ⟨raw, lines, shallow⟩ := reached.shallow acyclic
  constructor
  · intro s
    exact ⟨_, fun o' => (settles_settle shallow lines sound nests.linked s).iff_eq, rfl⟩
  · intro s
    exact ⟨_, fun o' => (takes_nextLine shallow lines sound nests.linked s).iff_eq, rfl,
      offers_next resources (sc, s)⟩
  · intro reference s
    have run := @loads_of_shallow resources sc.settings.forRecords resources.depthBound
      (.text (Text.asFileReference reference))
      (fun name raw _ => shallow_of_acyclic acyclic.forRecords raw) s
    exact ⟨_, fun o' => run.iff_eq, rfl⟩
  · intro s
    refine ⟨sc.remaining resources s, fun w' => drains_iff sound, ?_, ?_, fun whole => ?_⟩
    · exact @walkChain_shallow resources { settings := sc.settings } _ _ _ raw shallow lines sound
        nests.linked s
    · exact length_walkChain_le_sizes ..
    · obtain ⟨sc', drained⟩ := drainsTo_of_drains (drains_remaining sound s) whole
      exact ⟨sc', drained, drained.finished⟩
  · intro s
    refine ⟨top_treesOfChain s (reached.fits acyclic), grown_treesOfChain _ _ _ s,
      fun depth hle => ?_⟩
    exact @treesOfChain_eq_of_le resources { settings := sc.settings } _ _ _ _ raw shallow lines
      sound nests.linked s hle

end Scanner

/-! ### Sessions -/

namespace Run

variable {resources : Resources}

theorem perform_hasNext (sc : Scanner) (s : Store) :
    let o := Scanner.hasNext resources (sc, s)
    perform resources .hasNext (.scanner sc, s) =
      ⟨o.result.map .truth, (.scanner o.state.1, o.state.2), o.events⟩ := by
  simp only [perform, bind_apply, byFamily]
  rcases Scanner.hasNext resources (sc, s) with ⟨e | answer, st, events⟩
  · rfl
  · simp [Except.map]

/-- What neither begins anew nor executes a line again leaves a scanner at its end as it is. -/
theorem rests_at_end {sc : Scanner} (ended : ∀ t, Scanner.Finished resources (sc, t))
    {op : Operation} (continues : ¬ op.Restarts) (once : op ≠ .executeCurrent) (s : Store) :
    Leaves (perform resources op) (·.1 = .scanner sc) (.scanner sc, s) := by
  have settled : Leaves (Scanner.hasNext resources) (·.1 = sc) (sc, s) :=
    leaves_iff.mpr (by rw [ended s])
  cases op with
  | openSource | reset | rewind => exact absurd trivial continues
  | executeCurrent => exact absurd rfl once
  | next =>
    obtain ⟨e, -, refused⟩ := Scanner.next_at_end (ended s)
    exact (rests_byFamily (leaves_iff.mpr (by rw [refused]))).map _
  | next? =>
    exact (rests_byFamily (leaves_iff.mpr (by rw [Scanner.next?_of_finished (ended s)]))).map _
  | hasNext | current | current? | ask | expand | loadTable | determine =>
    exact rests_perform sc s trivial fun _ => settled

end Run

/-- Loading is a finite run, whatever the source and the store are. -/
def PropertiesLoader.Ends (resources : Resources) (loader : PropertiesLoader) : Prop :=
  ∀ source s o, Loads resources loader.settings source (Scanner.prepare .records s) o ↔
    o = loader.load resources source s

namespace Session

/-- Where a scanner has said that no line follows, it says so again, until it begins anew or
executes a line again. -/
def StaysAtEnd (resources : Resources) (se : Session) (i : Nat) : Prop :=
  ∀ after events, take resources (.step (.perform i .hasNext)) se =
      ⟨.ok (.truth false), after, events⟩ →
    ∀ later, Continues i later → ExecutesOnce i later →
      let again := take resources (.step (.perform i .hasNext)) (history resources later after).2
      again.result = .ok (.truth false) ∧ again.events = []

theorem staysAtEnd {resources : Resources} {se : Session} {i : Nat} {sc : Scanner}
    (hsep : se.Separate) (there : se.view i = some (.scanner sc)) : StaysAtEnd resources se i := by
  intro after events asked later continues once
  have acts := acts_onWalker hsep there (Run.perform resources .hasNext)
  have said : (onWalker i (Run.perform resources .hasNext) se).result = .ok (.truth false) :=
    congrArg Outcome.result asked
  have left : (onWalker i (Run.perform resources .hasNext) se).state = after :=
    congrArg Outcome.state asked
  have became := acts.became
  rw [acts.result, Run.perform_hasNext] at said
  rw [left, Run.perform_hasNext] at became
  rcases ran : Scanner.hasNext resources (sc, se.store) with ⟨e | _ | _, ⟨sc', s'⟩, made⟩
  · simp [ran, Except.map] at said
  · rw [ran] at became
    have ended (t : Store) : Scanner.Finished resources (sc', t) := Scanner.hasNext_still ran t
    have rests (s : Store) (op : Operation) (allowed : ¬ op.Restarts ∧ op ≠ .executeCurrent) :
        (Run.perform resources op (.scanner sc', s)).state.1 = .scanner sc' :=
      leaves_iff.mp (Run.rests_at_end ended allowed.1 allowed.2 s)
    have view := view_of_rests _ rests became.separate became.view
      fun turn mem op does => ⟨continues turn mem op does, once turn mem op does⟩
    have again := acts_onWalker (separate_history resources became.separate later) view
      (Run.perform resources .hasNext)
    rw [Run.perform_hasNext, ended] at again
    exact ⟨again.result, again.events⟩
  · simp [ran, Except.map] at said

/-- **Scanning ends.** Let the references to files and named texts have ranks that fall from each
source to what its lines name. Whatever has happened to walkers that share a store, looking for the
next line of a scanner, taking it, and loading a table are finite runs, and a drain surfaces at most
as many lines as the tree of its inclusions has. At its end the scanner stays. -/
theorem scanning_ends {resources : Resources} {settings : Settings}
    (ranked : Ranked resources settings) :
    (∀ (s : Store) (turns : List Turn) (i : Nat) (sc : Scanner),
      let se := (history resources turns { store := s }).2
      se.view i = some (.scanner sc) → sc.settings = settings →
        sc.Ends resources ∧ StaysAtEnd resources se i) ∧
    ∀ loader : PropertiesLoader, loader.settings = settings.forRecords → loader.Ends resources := by
  have acyclic := ranked.acyclic
  refine ⟨fun s turns i sc => ?_, fun loader same source s o => ?_⟩
  · intro se there same
    subst same
    exact ⟨Scanner.ends (.between there rfl) acyclic,
      staysAtEnd (separate_history resources (separate_empty s) turns) there⟩
  · have run := @loads_of_shallow resources loader.settings resources.depthBound source
      (fun name raw _ => same ▸ shallow_of_acyclic acyclic.forRecords raw)
      (Scanner.prepare .records s)
    exact run.iff_eq

open Scanner (nestedResources nestedResources_acyclic)

def readingOuter (taken : Nat) : List Turn :=
  [.make (.scanner .script {} false) {} false,
    .step (.perform 0 (.openSource (.text "!outer".toList) none none))] ++
    List.replicate taken (.step (.perform 0 .next))

def outlook (resources : Resources) (s : Store) : Walker → Option (Settings × Nat × Nat × Nat)
  | .scanner sc => some (sc.settings, sc.nesting, (sc.remaining resources s).lines.length,
      IncludeTree.sizes (sc.trees resources s))
  | _ => none

/-- Inside the inner text, two of six lines are surfaced. Behind the last line it stays at its end,
and a table is loaded. -/
theorem scanning_ends_nested :
    let se (taken : Nat) := (history nestedResources (readingOuter taken) {}).2
    Ranked nestedResources { kind := .script } ∧
    (∃ sc, (se 1).view 0 = some (.scanner sc) ∧ sc.nesting = 1 ∧ sc.Ends nestedResources ∧
      ∃ w, Drains nestedResources (sc, (se 1).store) w ∧ w.lines.length = 2 ∧
        IncludeTree.sizes (sc.trees nestedResources (se 1).store) = 6) ∧
    (take nestedResources (.step (.perform 0 .hasNext)) (history nestedResources
      [.step (.perform 0 .next), .step (.perform 0 .current)]
        (take nestedResources (.step (.perform 0 .hasNext)) (se 3)).state).2).result =
      .ok (.truth false) ∧
    ∃ o, Loads nestedResources (Settings.forRecords {}) (.text "k = v".toList)
        (Scanner.prepare .records {}) o ∧
      o.result = .ok (.ofList [("k".toList, "v".toList)]) := by
  intro se
  have ranked : Ranked nestedResources { kind := .script } := nestedResources_acyclic.ranked
  obtain ⟨scanners, loaders⟩ := scanning_ends ranked
  refine ⟨ranked, ?_, ?_, ?_⟩
  · have seen : ((se 1).view 0).bind (outlook nestedResources (se 1).store) =
        some ({ kind := .script }, 1, 2, 6) := by
      decide +kernel
    obtain ⟨w, there, said⟩ := Option.bind_eq_some_iff.mp seen
    cases w with
    | scanner sc =>
      simp only [outlook, Option.some.injEq, Prod.mk.injEq] at said
      obtain ⟨settings, nesting, surfaced, all⟩ := said
      obtain ⟨ends, -⟩ := scanners {} (readingOuter 1) 0 sc there settings
      obtain ⟨sound, -⟩ := (Scanner.Reached.between there settings).sound_nests
      exact ⟨sc, there, nesting, ends, _, Scanner.drains_remaining sound _, surfaced, all⟩
    | reader | classifier => cases said
  · have seen : ((se 3).view 0).bind (outlook nestedResources (se 3).store) =
        some ({ kind := .script }, 1, 0, 2) := by
      decide +kernel
    obtain ⟨w, there, said⟩ := Option.bind_eq_some_iff.mp seen
    cases w with
    | scanner sc =>
      simp only [outlook, Option.some.injEq, Prod.mk.injEq] at said
      have asked : (take nestedResources (.step (.perform 0 .hasNext)) (se 3)).result =
          .ok (.truth false) := by
        decide +kernel
      obtain ⟨-, stays⟩ := scanners {} (readingOuter 3) 0 sc there said.1
      rcases whole : take nestedResources (.step (.perform 0 .hasNext)) (se 3) with
        ⟨result, after, events⟩
      rw [whole] at asked
      subst asked
      have own : ∀ turn ∈ [Turn.step (.perform 0 .next), .step (.perform 0 .current)], ∀ op,
          turn.Does 0 op → op = .next ∨ op = .current := by
        rintro turn mem op rfl
        simpa using mem
      refine (stays after events whole _ (fun turn mem op does => ?_) fun turn mem op does => ?_).1
      · rcases own turn mem op does with rfl | rfl <;> exact id
      · rcases own turn mem op does with rfl | rfl <;> rintro ⟨⟩
    | reader | classifier => cases said
  · exact ⟨_, (loaders {} rfl _ _ _).mpr rfl, by decide +kernel⟩

end Session

end CommandScript
