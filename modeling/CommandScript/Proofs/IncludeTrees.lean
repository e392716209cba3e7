import CommandScript.Proofs.Draining
import CommandScript.Proofs.NestedChains

/-!
# Include trees

The lines that a walk passes form a tree: below a line that includes a source stand all lines of
that source, as often as it is included. A walk surfaces each line of its tree at most once, so the
number of lines in the tree, each counted as often as it occurs, bounds what is surfaced. Where
sources nest less deep than the bound on the walk, the bound cuts no tree.
-/

namespace CommandScript

/-- A line, with the lines of the source that it includes. -/
inductive IncludeTree where
  | node (line : Line) (inside : List IncludeTree)

namespace IncludeTree

def top : IncludeTree → Line
  | .node line _ => line

mutual

def size : IncludeTree → Nat
  | .node _ inside => sizes inside + 1

def sizes : List IncludeTree → Nat
  | [] => 0
  | t :: rest => t.size + sizes rest

end

def bare (lines : List Line) : List IncludeTree := lines.map (.node · [])

theorem sizes_append (ts us : List IncludeTree) : sizes (ts ++ us) = sizes ts + sizes us := by
  induction ts with
  | nil => simp [sizes]
  | cons t ts ih => simp only [List.cons_append, sizes, ih, Nat.add_assoc]

theorem top_bare (lines : List Line) : (bare lines).map top = lines := by
  simp [bare, Function.comp_def, top]

/-- Below a line stands nothing, or all lines of a source that it opens. -/
inductive Grown (resources : Resources) (settings : Settings) : IncludeTree → Prop where
  | bare (line : Line) : Grown resources settings (.node line [])
  | including {line : Line} {inside : List IncludeTree} {g : Frame}
      (opens : Opens resources settings line.text g) (all : inside.map top = g.cursor.lines)
      (grown : ∀ t ∈ inside, Grown resources settings t) :
      Grown resources settings (.node line inside)

end IncludeTree

/-! ### The tree of a walk -/

section

variable (resources : Resources)

/-- The trees below a line, given how to load and the trees of a source that the line at a place
includes. -/
def treesBelow (site : Site) (load : Text → Act Store Table)
    (grow : Text → Frame → Store → List IncludeTree) (name : Text) (line : Line) (s : Store) :
    List IncludeTree :=
  if site.settings.kind.recognizes line.text then
    match executeLine resources site.settings load (line.place name) line s with
    | ⟨.ok (.entered g), s, _⟩ => grow (line.place name) g s
    | _ => []
  else []

/-- The trees of lines that are walked over in their order. Behind an error no line is reached. -/
def treesOfLines (site : Site) (load : Text → Act Store Table)
    (visit : Text → Frame → Store → Walked) (grow : Text → Frame → Store → List IncludeTree)
    (name : Text) : List Line → Store → List IncludeTree
  | [], _ => []
  | line :: rest, s =>
    let w := walkLine resources site load visit name line s
    .node line (treesBelow resources site load grow name line s) ::
      if w.fault.isSome then IncludeTree.bare rest
      else treesOfLines site load visit grow name rest w.store

abbrev wholeWalk (depth : Nat) (site : Site) (g : Frame) : Store → Walked :=
  walk resources depth site (g.cursor.name.getD []) g.cursor.lines

def treesOfWalk : Nat → Site → Text → List Line → Store → List IncludeTree
  | 0, _, _, lines, _ => IncludeTree.bare lines
  | depth + 1, site, name, lines, s =>
    treesOfLines resources site
      (loadByWalk resources site.settings (wholeWalk resources depth (.forRecords site.settings)))
      (fun place => wholeWalk resources depth (site.within place))
      (fun place g => treesOfWalk depth (site.within place) (g.cursor.name.getD []) g.cursor.lines)
      name lines s

/-- The trees of the walk that a chain has still to do, the innermost source first. -/
def treesOfChain : Nat → Site → Frame → List Frame → Store → List IncludeTree
  | 0, _, _, _, _ => []
  | depth + 1, site, f, included, s =>
    let own : Store → List IncludeTree :=
      treesOfWalk resources (depth + 1) site (f.cursor.name.getD []) f.cursor.ahead
    match included with
    | [] => own s
    | g :: rest =>
      let w := walkChain resources depth (site.within f.cursor.state) g rest s
      treesOfChain depth (site.within f.cursor.state) g rest s ++
        if w.fault.isSome then IncludeTree.bare f.cursor.ahead else own w.store

end

section

variable {resources : Resources} {site : Site} {load : Text → Act Store Table}
variable {visit : Text → Frame → Store → Walked} {grow : Text → Frame → Store → List IncludeTree}

open IncludeTree

/-! ### Which lines -/

theorem top_treesOfLines (name : Text) (lines : List Line) (s : Store) :
    (treesOfLines resources site load visit grow name lines s).map top = lines := by
  induction lines generalizing s with
  | nil => rfl
  | cons line rest ih =>
    rw [treesOfLines]
    split
    · rw [List.map_cons, top_bare]
      rfl
    · rw [List.map_cons, ih]
      rfl

/-- On top of the trees stand all lines that are walked over. -/
theorem top_treesOfWalk (depth : Nat) (name : Text) (lines : List Line) (s : Store) :
    (treesOfWalk resources depth site name lines s).map top = lines := by
  cases depth with
  | zero => exact top_bare lines
  | succ depth => exact top_treesOfLines name lines s

/-- On top of the trees of a chain stand the lines ahead of its sources, the innermost first. -/
theorem top_treesOfChain {depth : Nat} {f : Frame} {included : List Frame} (s : Store)
    (fits : included.length < depth) :
    (treesOfChain resources depth site f included s).map top =
      (f :: included).reverse.flatMap (·.cursor.ahead) := by
  induction included generalizing depth site f s with
  | nil =>
    obtain ⟨depth, rfl⟩ := Nat.exists_eq_add_one.mpr fits
    rw [treesOfChain, top_treesOfWalk]
    simp
  | cons g rest ih =>
    obtain ⟨depth, rfl⟩ := Nat.exists_eq_add_one.mpr (Nat.zero_lt_of_lt fits)
    have behind : (if (walkChain resources depth (site.within f.cursor.state) g rest s).fault.isSome
        then bare f.cursor.ahead
        else treesOfWalk resources (depth + 1) site (f.cursor.name.getD []) f.cursor.ahead
          (walkChain resources depth (site.within f.cursor.state) g rest s).store).map top =
        f.cursor.ahead := by
      split
      · exact top_bare _
      · exact top_treesOfWalk ..
    rw [treesOfChain, List.map_append, ih s (Nat.lt_of_succ_lt_succ fits), behind]
    simp

/-! ### What stands below a line -/

theorem grown_bare (settings : Settings) (lines : List Line) :
    ∀ t ∈ bare lines, Grown resources settings t := by
  intro t mem
  obtain ⟨line, -, rfl⟩ := List.mem_map.mp mem
  exact .bare line

theorem grown_treesOfLines
    (grows : ∀ place g s, (grow place g s).map top = g.cursor.lines ∧
      ∀ t ∈ grow place g s, Grown resources site.settings t)
    (name : Text) (lines : List Line) (s : Store) :
    ∀ t ∈ treesOfLines resources site load visit grow name lines s,
      Grown resources site.settings t := by
  induction lines generalizing s with
  | nil => rintro t ⟨⟩
  | cons line rest ih =>
    have first : Grown resources site.settings
        (.node line (treesBelow resources site load grow name line s)) := by
      rw [treesBelow]
      split
      · have enters := @executeLine_enters resources site.settings load (line.place name) line s
        split
        · rename_i g s' events hexec
          have opens : Opens resources site.settings line.text g := enters.value hexec
          obtain ⟨all, grown⟩ := grows (line.place name) g s'
          exact .including opens all grown
        · exact .bare line
      · exact .bare line
    rw [treesOfLines]
    refine List.forall_mem_cons.mpr ⟨first, ?_⟩
    split
    · exact grown_bare _ rest
    · exact ih _

/-- Below a line stand all lines of the source that it includes. -/
theorem grown_treesOfWalk (depth : Nat) (name : Text) (lines : List Line) (s : Store) :
    ∀ t ∈ treesOfWalk resources depth site name lines s, Grown resources site.settings t := by
  induction depth generalizing site name lines s with
  | zero => exact grown_bare site.settings lines
  | succ depth ih =>
    refine grown_treesOfLines (fun place g s => ⟨top_treesOfWalk .., ?_⟩) name lines s
    exact @ih (site.within place) _ _ s

theorem grown_treesOfChain (depth : Nat) (f : Frame) (included : List Frame) (s : Store) :
    ∀ t ∈ treesOfChain resources depth site f included s, Grown resources site.settings t := by
  induction depth generalizing site f included s with
  | zero => rintro t ⟨⟩
  | succ depth ih =>
    cases included with
    | nil => exact grown_treesOfWalk _ _ _ s
    | cons g rest =>
      rw [treesOfChain]
      refine List.forall_mem_append.mpr ⟨@ih (site.within f.cursor.state) g rest s, ?_⟩
      split
      · exact grown_bare _ _
      · exact grown_treesOfWalk _ _ _ _

/-! ### How many lines -/

theorem length_walkLine_le_size
    (grows : ∀ place g t, (visit place g t).lines.length ≤ sizes (grow place g t))
    (name : Text) (line : Line) (s : Store) :
    (walkLine resources site load visit name line s).lines.length ≤
      (IncludeTree.node line (treesBelow resources site load grow name line s)).size := by
  simp only [walkLine, treesBelow, size]
  split
  · rcases executeLine resources site.settings load (line.place name) line s with
      ⟨e | effect, t, events⟩
    · exact Nat.zero_le _
    · cases effect with
      | entered g => exact Nat.le_succ_of_le (grows (line.place name) g t)
      | _ => exact Nat.zero_le _
  · rcases surface site.settings (line.place name) line s with ⟨e | text, t, events⟩
    · exact Nat.zero_le _
    · dsimp only
      split
      · exact Nat.zero_le _
      · exact Nat.le_refl _

/-- Going on from a walk surfaces what both surface, if the first one did not fail. -/
theorem length_andThen_le_sizes {w : Walked} {next : Store → Walked} {lines : List Line}
    {own : List IncludeTree} {trees : Store → List IncludeTree} (hw : w.lines.length ≤ sizes own)
    (hnext : ∀ s, (next s).lines.length ≤ sizes (trees s)) :
    (w.andThen next).lines.length ≤
      sizes (own ++ if w.fault.isSome then bare lines else trees w.store) := by
  rw [sizes_append]
  obtain ⟨made, _ | e, s, events⟩ := w
  · have more := hnext s
    simp only [Walked.andThen, List.length_append]
    exact Nat.add_le_add hw more
  · exact Nat.le_trans hw (Nat.le_add_right ..)

theorem length_walkLines_le_sizes
    (grows : ∀ place g t, (visit place g t).lines.length ≤ sizes (grow place g t))
    (name : Text) (lines : List Line) (s : Store) :
    (walkLines resources site load visit name lines s).lines.length ≤
      sizes (treesOfLines resources site load visit grow name lines s) := by
  induction lines generalizing s with
  | nil => exact Nat.zero_le _
  | cons line rest ih =>
    have first := @length_walkLine_le_size resources site load visit grow grows name line s
    have own : (walkLine resources site load visit name line s).lines.length ≤
        sizes [.node line (treesBelow resources site load grow name line s)] := first
    rw [walkLines, treesOfLines]
    exact length_andThen_le_sizes own ih

/-- A walk surfaces at most as many lines as its trees have. -/
theorem length_walk_le_sizes (depth : Nat) (site : Site) (name : Text) (lines : List Line)
    (s : Store) :
    (walk resources depth site name lines s).lines.length ≤
      sizes (treesOfWalk resources depth site name lines s) := by
  induction depth generalizing site name lines s with
  | zero => exact Nat.zero_le _
  | succ depth ih => exact length_walkLines_le_sizes (fun place g t => ih _ _ _ t) name lines s

theorem length_walkChain_le_sizes (depth : Nat) (site : Site) (f : Frame) (included : List Frame)
    (s : Store) :
    (walkChain resources depth site f included s).lines.length ≤
      sizes (treesOfChain resources depth site f included s) := by
  induction depth generalizing site f included s with
  | zero => exact Nat.zero_le _
  | succ depth ih =>
    cases included with
    | nil => exact length_walk_le_sizes (depth + 1) site _ f.cursor.ahead s
    | cons g rest =>
      exact length_andThen_le_sizes (ih ..) fun s => length_walk_le_sizes (depth + 1) site _ _ s

/-! ### More depth -/

variable {load' : Text → Act Store Table} {visit' : Text → Frame → Store → Walked}
variable {grow' : Text → Frame → Store → List IncludeTree}

theorem treesBelow_congr {name : Text} {line : Line} {s : Store}
    (executed : executeLine resources site.settings load' (line.place name) line s =
      executeLine resources site.settings load (line.place name) line s)
    (grown : ∀ place g t, Opens resources site.settings line.text g →
      grow' place g t = grow place g t) :
    treesBelow resources site load' grow' name line s =
      treesBelow resources site load grow name line s := by
  have enters := @executeLine_enters resources site.settings load (line.place name) line s
  simp only [treesBelow, executed]
  rcases hexec : executeLine resources site.settings load (line.place name) line s with
    ⟨e | effect, t, events⟩
  · rfl
  · cases effect with
    | entered g =>
      have opens : Opens resources site.settings line.text g := enters.value hexec
      simp only [grown (line.place name) g t opens]
    | _ => rfl

theorem treesOfLines_congr {name : Text} {lines : List Line}
    (same : ∀ line ∈ lines, ∀ s,
      walkLine resources site load' visit' name line s =
          walkLine resources site load visit name line s ∧
        treesBelow resources site load' grow' name line s =
          treesBelow resources site load grow name line s) (s : Store) :
    treesOfLines resources site load' visit' grow' name lines s =
      treesOfLines resources site load visit grow name lines s := by
  induction lines generalizing s with
  | nil => rfl
  | cons line rest ih =>
    obtain ⟨walked, below⟩ := same line List.mem_cons_self s
    have behind := ih fun line mem => same line (List.mem_cons_of_mem _ mem)
    simp only [treesOfLines, walked, below, behind]

section

variable {depth : Nat} {raw : Text} {line : Line}

theorem bounded_load (h : Shallow resources (depth + 1) site.settings raw)
    (mem : line ∈ site.settings.linesOf raw) {reference : Text}
    (names : Names site.settings line.text site.settings.forRecords reference) (s : Store) :
    (loadByWalk resources site.settings (wholeWalk resources depth (.forRecords site.settings))
      reference s).result ≠ .error .tooDeep := by
  obtain ⟨-, below⟩ := h line mem _ reference names
  refine loadByWalk_bounded (fun name' raw' read s => ?_) s
  have shallow : Shallow resources depth site.settings.forRecords raw' := below name' raw' read
  exact @walk_shallow resources depth (.forRecords site.settings) raw' shallow name' s

theorem bounded_visit (h : Shallow resources (depth + 1) site.settings raw)
    (mem : line ∈ site.settings.linesOf raw) (place : Text) {g : Frame}
    (opens : Opens resources site.settings line.text g) (s : Store) :
    (wholeWalk resources depth (site.within place) g s).fault ≠ some .tooDeep := by
  obtain ⟨raw', inner, shallow⟩ := opens.shallow h mem
  exact @walk_of_subset resources depth (site.within place) raw' _ shallow
    (fun line mem => inner ▸ mem) _ s

theorem deeper_load (reference : Text) : Act.Deeper
    (loadByWalk resources site.settings (wholeWalk resources depth (.forRecords site.settings))
      reference)
    (loadByWalk resources site.settings
      (wholeWalk resources (depth + 1) (.forRecords site.settings)) reference) :=
  deeper_loadByWalk (fun _ s => deeper_walk _ _ _ _ s) reference

/-- More depth makes no difference to a line of a text that leads less deep. -/
theorem executeLine_succ (h : Shallow resources (depth + 1) site.settings raw)
    (mem : line ∈ site.settings.linesOf raw) (place : Text) (s : Store) :
    executeLine resources site.settings (loadByWalk resources site.settings
        (wholeWalk resources (depth + 1) (.forRecords site.settings))) place line s =
      executeLine resources site.settings (loadByWalk resources site.settings
        (wholeWalk resources depth (.forRecords site.settings))) place line s := by
  have bounded := @executeLine_opens resources site.settings _ line
    (fun _ names t => bounded_load h mem names t) place s
  refine deeper_executeLine deeper_load place line s fun deep => ?_
  rw [Act.Wp, deep] at bounded
  exact bounded rfl

theorem walkLine_succ (h : Shallow resources (depth + 1) site.settings raw)
    (mem : line ∈ site.settings.linesOf raw) (name : Text) (s : Store) :
    walkLine resources site (loadByWalk resources site.settings
        (wholeWalk resources (depth + 1) (.forRecords site.settings)))
        (fun place => wholeWalk resources (depth + 1) (site.within place)) name line s =
      walkLine resources site (loadByWalk resources site.settings
        (wholeWalk resources depth (.forRecords site.settings)))
        (fun place => wholeWalk resources depth (site.within place)) name line s := by
  refine deeper_walkLine deeper_load (fun place g s => deeper_walk _ _ _ _ s) name line s ?_
  exact walkLine_bounded (fun _ names t => bounded_load h mem names t)
    (fun place _ t opens => bounded_visit h mem place opens t) name s

end

/-- No tree is cut where the sources nest less deep than the bound. -/
theorem treesOfWalk_succ {depth : Nat} {raw : Text} {lines : List Line}
    (h : Shallow resources depth site.settings raw)
    (sub : ∀ line ∈ lines, line ∈ site.settings.linesOf raw) (name : Text) (s : Store) :
    treesOfWalk resources (depth + 1) site name lines s =
      treesOfWalk resources depth site name lines s := by
  induction depth generalizing site raw lines name s with
  | zero => exact h.elim
  | succ depth ih =>
    refine treesOfLines_congr (fun line mem s => ⟨walkLine_succ h (sub line mem) name s, ?_⟩) s
    refine treesBelow_congr (executeLine_succ h (sub line mem) _ s) fun place g t opens => ?_
    obtain ⟨raw', inner, shallow⟩ := opens.shallow h (sub line mem)
    exact @ih (site.within place) raw' g.cursor.lines shallow (fun line mem => inner ▸ mem) _ t

/-- The walk that a chain has still to do does not nest too deep. -/
theorem walkChain_shallow {depth : Nat} {f : Frame} {included : List Frame} {raw : Text}
    (h : Shallow resources depth site.settings raw)
    (lines : f.cursor.lines = site.settings.linesOf raw) (sound : Chain.Sound ⟨f, included⟩)
    (linked : Chain.Linked resources site.settings ⟨f, included⟩) (s : Store) :
    (walkChain resources depth site f included s).fault ≠ some .tooDeep := by
  induction depth generalizing site f included raw s with
  | zero => exact h.elim
  | succ depth ih =>
    have hf : f.cursor.Sound := sound.frame
    have own (s : Store) :
        (walk resources (depth + 1) site (f.cursor.name.getD []) f.cursor.ahead s).fault ≠
          some .tooDeep := by
      refine walk_of_subset h (fun line ahead => ?_) _ s
      rw [hf.ahead, lines] at ahead
      exact List.mem_of_mem_drop ahead
    cases included with
    | nil => exact own s
    | cons g rest =>
      obtain ⟨-, hrest⟩ := Chain.sound_cons.mp sound
      obtain ⟨⟨line, mem, start, opens, same⟩, linked⟩ := Chain.linked_cons.mp linked
      obtain ⟨raw', inner, shallow⟩ := opens.shallow h (lines ▸ mem)
      exact andThen_bounded
        (@ih (site.within f.cursor.state) g rest raw' shallow (same.trans inner) hrest linked s) own

theorem deeper_walkChain (depth : Nat) (site : Site) (f : Frame) (included : List Frame)
    (s : Store) :
    (walkChain resources depth site f included s).Deeper
      (walkChain resources (depth + 1) site f included s) := by
  induction depth generalizing site f included s with
  | zero => exact fun h => absurd rfl h
  | succ depth ih =>
    cases included with
    | nil => exact deeper_walk (depth + 1) site _ f.cursor.ahead s
    | cons g rest => exact deeper_andThen (ih _ _ _ s) fun s => deeper_walk (depth + 1) site _ _ s

theorem treesOfChain_succ {depth : Nat} {f : Frame} {included : List Frame} {raw : Text}
    (h : Shallow resources depth site.settings raw)
    (lines : f.cursor.lines = site.settings.linesOf raw) (sound : Chain.Sound ⟨f, included⟩)
    (linked : Chain.Linked resources site.settings ⟨f, included⟩) (s : Store) :
    treesOfChain resources (depth + 1) site f included s =
      treesOfChain resources depth site f included s := by
  induction depth generalizing site f included raw s with
  | zero => exact h.elim
  | succ depth ih =>
    have hf : f.cursor.Sound := sound.frame
    have own (s : Store) :
        treesOfWalk resources (depth + 2) site (f.cursor.name.getD []) f.cursor.ahead s =
          treesOfWalk resources (depth + 1) site (f.cursor.name.getD []) f.cursor.ahead s := by
      refine treesOfWalk_succ h (fun line ahead => ?_) _ s
      rw [hf.ahead, lines] at ahead
      exact List.mem_of_mem_drop ahead
    cases included with
    | nil => exact own s
    | cons g rest =>
      obtain ⟨-, hrest⟩ := Chain.sound_cons.mp sound
      obtain ⟨⟨line, mem, start, opens, same⟩, linked⟩ := Chain.linked_cons.mp linked
      obtain ⟨raw', inner, shallow⟩ := opens.shallow h (lines ▸ mem)
      have walked := deeper_walkChain depth (site.within f.cursor.state) g rest s
        (@walkChain_shallow resources (site.within f.cursor.state) depth g rest raw' shallow
          (same.trans inner) hrest linked s)
      have grown := @ih (site.within f.cursor.state) g rest raw' shallow (same.trans inner) hrest
        linked s
      rw [treesOfChain, treesOfChain]
      simp only [walked, grown, own]

/-- The trees of a chain are the same with any greater bound. -/
theorem treesOfChain_eq_of_le {depth more : Nat} {f : Frame} {included : List Frame} {raw : Text}
    (h : Shallow resources depth site.settings raw)
    (lines : f.cursor.lines = site.settings.linesOf raw) (sound : Chain.Sound ⟨f, included⟩)
    (linked : Chain.Linked resources site.settings ⟨f, included⟩) (s : Store) (hle : depth ≤ more) :
    treesOfChain resources more site f included s =
      treesOfChain resources depth site f included s := by
  induction hle with
  | refl => rfl
  | step hle ih => exact (treesOfChain_succ (h.mono hle) lines sound linked s).trans ih

end

end CommandScript
