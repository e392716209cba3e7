import CommandScript.Proofs.MissingSources
import CommandScript.Proofs.TwinWalks

/-!
# What an optional mark covers

A mark lets the named source be missing, and nothing else. Where the source is missing, the line
is passed. Everywhere else the line does what it does without its mark, whatever fails inside the
source.
-/

namespace CommandScript

open Act
open Event (unlogged)
open Outcome (Announced)

/-! ### One built-in -/

/-- What the built-in names does not evaluate to something with a mark. -/
def Builtin.Plain (settings : Settings) (s : Store) : Builtin → Prop
  | includeSource reference | properties _ reference =>
    ∀ u, settings.expander.expand s.registry reference = .ok u → u.head? ≠ some '?'
  | _ => True

theorem Text.splitOptional_of_head {u : Text} (h : u.head? ≠ some '?') :
    Text.splitOptional u = (false, u) := by
  unfold Text.splitOptional
  split
  · exact absurd rfl h
  · rfl

section

variable {resources : Resources} {settings : Settings} {s : Store} {b b' : Builtin}

/-- Payloads whose expansions go together are expanded first. -/
theorem announced_payload {p p' : Text} {f : Text → Text} {k k' : Text → Act Store Effect}
    (together : settings.expander.expand s.registry p =
      (settings.expander.expand s.registry p').map f)
    (hk : ∀ u, settings.expander.expand s.registry p' = .ok u →
      Announced [] (k (f u) s) (k' u s)) :
    Announced [] ((expandPayload settings p >>= k) s) ((expandPayload settings p' >>= k') s) := by
  cases h : settings.expander.expand s.registry p' with
  | error e =>
    rw [h] at together
    simp only [expandPayload, Act.bind_apply, Store.expand_apply, h, together, Except.map]
    exact .refl _
  | ok u =>
    rw [h] at together
    exact .quiet_bind (quietly_expand _ together) (quietly_expand _ h) (hk u h)

/-- A source that is there is included alike, and one that cannot be read fails alike. -/
theorem announced_include_unmarked {r : Text} (place place' : Text)
    (plain : (Builtin.includeSource r).Plain settings s)
    (found : ∀ t, ¬ (Builtin.includeSource ('?' :: r)).Misses resources settings s t) :
    Announced [] (executeInclude resources settings place ('?' :: r) s)
      (executeInclude resources settings place' r s) := by
  have marked := @Expander.expand_cons settings.expander s.registry '?' (by decide) r
  refine announced_payload marked fun u named => ?_
  have front : Text.splitOptional ('?' :: u) = (true, u) := rfl
  simp only [front, Text.splitOptional_of_head (plain u named)]
  refine .bind (.bind_of_ok fun opened hopened => ?_) fun frame t => .refl _
  rw [attempt_apply, openFrame_apply] at hopened
  obtain rfl := Except.ok.inj hopened
  cases hread : (Source.text u).read resources with
  | ok p => exact .refl _
  | error e =>
    cases e with
    | notFound gone state =>
      rw [named] at marked
      exact absurd (.included marked hread) (found s)
    | _ => exact .refl _

/-- A source that is there is loaded alike, and a load that fails inside the source fails alike. -/
theorem announced_properties_unmarked {label r : Text} (depth : Nat) (place place' : Text)
    (plain : (Builtin.properties label r).Plain settings s)
    (found : ∀ t, ¬ (Builtin.properties label ('?' :: r)).Misses resources settings s t) :
    Announced []
      (executeProperties settings (loadAt resources depth settings) place label ('?' :: r) s)
      (executeProperties settings (loadAt resources depth settings) place' label r s) := by
  have same : settings.expander.expand s.registry label =
      (settings.expander.expand s.registry label).map id := by
    cases settings.expander.expand s.registry label <;> rfl
  have marked := @Expander.expand_cons settings.expander s.registry '?' (by decide) r
  refine announced_payload same fun l labelled => announced_payload marked fun u named => ?_
  have front : Text.splitOptional ('?' :: u) = (true, u) := rfl
  simp only [front, Text.splitOptional_of_head (plain u named)]
  refine .bind (.bind_of_ok fun loaded hloaded => ?_) fun values t => .refl _
  obtain rfl := Except.ok.inj hloaded
  have missing := @missing_of_loadAt resources settings s depth _ (marked_asFileReference u)
  cases hresult : (loadAt resources depth settings (Text.asFileReference u) s).result with
  | ok values => exact .refl _
  | error e =>
    cases e with
    | notFound gone state =>
      by_cases itself : gone = Text.asFileReference u
      · subst itself
        rw [Wp, hresult] at missing
        obtain ⟨gone, state, absent⟩ := missing state rfl
        rw [named] at marked
        exact absurd (.loaded labelled marked absent) (found _)
      · simp only [ne_eq, itself, not_false_eq_true, if_true]
        exact .refl _
    | _ => exact .refl _

/-- Where the named source is there, or cannot be told, the mark changes nothing. -/
theorem Builtin.Optional.announced (optional : b.Optional b') (plain : b'.Plain settings s)
    (found : ∀ t, ¬ b.Misses resources settings s t) (depth : Nat) (place place' : Text) :
    Announced [] (execute resources settings (loadAt resources depth settings) place b s)
      (execute resources settings (loadAt resources depth settings) place' b' s) := by
  cases optional with
  | included => exact announced_include_unmarked place place' plain found
  | loaded => exact announced_properties_unmarked depth place place' plain found

end

/-! ### One line -/

/-- Without its mark, the line evaluates as it does with it: what it names bears no other mark,
and where expansion is strict, the line as a whole fails alike. -/
structure Line.Steady (settings : Settings) (s : Store) (line : Line) (b' : Builtin) : Prop where
  plain : b'.Plain settings s
  alike : settings.expander.strict = true → ∀ fault,
    settings.expander.expand s.registry (withoutEcho line.text) = .error fault ↔
      settings.expander.expand s.registry (withoutEcho line.unmarked.text) = .error fault

theorem Line.Steady.error_iff {settings : Settings} {s : Store} {line : Line} {b' : Builtin}
    (h : line.Steady settings s b') (fault : Error) :
    settings.expander.expand s.registry (withoutEcho line.text) = .error fault ↔
      settings.expander.expand s.registry (withoutEcho line.unmarked.text) = .error fault := by
  cases strict : settings.expander.strict with
  | true => exact h.alike strict fault
  | false =>
    obtain ⟨u, marked⟩ := Expander.expand_ok s.registry strict (withoutEcho line.text)
    obtain ⟨u', bare⟩ := Expander.expand_ok s.registry strict (withoutEcho line.unmarked.text)
    rw [marked, bare]
    exact ⟨by rintro ⟨⟩, by rintro ⟨⟩⟩

/-- The line evaluates, to a source that cannot be found. -/
def Line.NamesMissing (resources : Resources) (settings : Settings) (s : Store) (line : Line)
    (b : Builtin) (t : Store) : Prop :=
  (∃ u, settings.expander.expand s.registry (withoutEcho line.text) = .ok u) ∧
    b.Misses resources settings s t

section

variable {resources : Resources} {depth : Nat} {settings : Settings} {s : Store}
variable {line : Line} {rest : List Line} {b b' : Builtin}

/-- What an `include` line names begins with a marker, so no mark can come to its front. -/
theorem Line.steady_of_include {reference : Text}
    (form : settings.kind.builtin? (withoutEcho line.text) =
      some (.includeSource ('?' :: reference))) :
    line.Steady settings s (.includeSource reference) := by
  refine ⟨fun u named head => ?_,
    fun _ fault => (Builtin.Optional.unmarks .included form).alike _ rfl _ _ _⟩
  obtain ⟨-, object⟩ := Option.filter_eq_some_iff.mp (Kind.include_of_builtin? form)
  obtain ⟨marker, name, hmarker, whole⟩ := Text.marker_of_isObjectReference object
  obtain rfl : reference = marker :: name := by
    rcases whole with front | behind
    · obtain ⟨rfl, -⟩ := List.cons.inj front
      rcases hmarker with mark | mark <;> exact absurd mark (by decide)
    · exact (List.cons.inj behind).2
  have plain : marker ≠ '$' := by rcases hmarker with rfl | rfl <;> decide
  obtain ⟨v, -, rfl⟩ := Expander.expand_cons_ok s.registry plain named
  obtain rfl : marker = '?' := Option.some.inj head
  rcases hmarker with mark | mark <;> exact absurd mark (by decide)

/-- Walking over a line with its mark and without comes to the same, but for what the line says
of itself. -/
theorem walkLine_unmarked {site : Site} {name : Text} {enter : Text → Frame → Store → Walked}
    (form : site.settings.kind.builtin? (withoutEcho line.text) = some b)
    (optional : b.Optional b') (steady : line.Steady site.settings s b')
    (found : ∀ t, ¬ line.NamesMissing resources site.settings s b t)
    (henter : ∀ place place' g s, Walked.Twin [] [] (enter place g s) (enter place' g s)) :
    Walked.Twin (line.said site.settings s) (line.unmarked.said site.settings s)
      (walkLine resources site (loadAt resources depth site.settings) enter name line s)
      (walkLine resources site (loadAt resources depth site.settings) enter name line.unmarked
        s) := by
  have bare := (optional.unmarks form).form
  obtain ⟨own, said, run⟩ := @executeLine_apply resources site.settings
    (loadAt resources depth site.settings) (line.place name) s b line form
  obtain ⟨own', said', run'⟩ := @executeLine_apply resources site.settings
    (loadAt resources depth site.settings) (line.unmarked.place name) s b' line.unmarked bare
  simp only [walkLine, Kind.recognizes_of_builtin? form, Kind.recognizes_of_builtin? bare, if_true,
    run, run']
  cases whole : site.settings.expander.expand s.registry (withoutEcho line.text) with
  | error e =>
    rw [(steady.error_iff e).mp whole]
    exact .failed (.refl e) (.of_unlogged said said')
  | ok u =>
    cases whole' : site.settings.expander.expand s.registry (withoutEcho line.unmarked.text) with
    | error e => cases whole.symm.trans ((steady.error_iff e).mpr whole')
    | ok u' =>
      obtain ⟨result, state, events⟩ := optional.announced steady.plain
        (fun t misses => found t ⟨⟨u, whole⟩, misses⟩) depth (line.place name)
        (line.unmarked.place name)
      generalize execute resources site.settings (loadAt resources depth site.settings)
        (line.place name) b s = o at result state events ⊢
      generalize execute resources site.settings (loadAt resources depth site.settings)
        (line.unmarked.place name) b' s = o' at result state events ⊢
      obtain ⟨r, t, made⟩ := o
      obtain ⟨r', t', made'⟩ := o'
      obtain rfl : t' = t := state
      have rejoin : Event.Rejoin (line.said site.settings s) (line.unmarked.said site.settings s)
          (own ++ made) (own' ++ made') := by
        refine .append (.of_unlogged said said') ⟨unlogged made, rfl, events⟩
      cases result with
      | error restated => exact .failed (.restated restated) rejoin
      | ok effect =>
        cases effect with
        | entered g => exact (henter _ _ g t').after rejoin
        | _ => exact ⟨rfl, .none, rfl, rejoin⟩

/-- The same for a walk that begins with the line. -/
theorem walk_unmarked {site : Site} {name : Text}
    (form : site.settings.kind.builtin? (withoutEcho line.text) = some b)
    (optional : b.Optional b') (steady : line.Steady site.settings s b')
    (found : ∀ t, ¬ line.NamesMissing resources site.settings s b t) :
    Walked.Twin (line.said site.settings s) (line.unmarked.said site.settings s)
      (walk resources (depth + 1) site name (line :: rest) s)
      (walk resources (depth + 1) site name (line.unmarked :: rest) s) := by
  rw [walk_cons line, walk_cons line.unmarked]
  refine .andThen ?_ fun s => .refl _
  simp only [walk, walkLines, Walked.andThen_done, ← loadAt_eq]
  exact walkLine_unmarked form optional steady found fun place place' g s =>
    @walk_twin resources depth (site.within place) _ _ _ s

end

/-! ### One source among others -/

def Cursor.unmarked (c : Cursor) : Cursor :=
  { c with
    lines := c.lines.modify (c.position?.getD 0) Line.unmarked
    reading := c.reading.map fun r => { r with ahead := r.ahead.modifyHead Line.unmarked } }

def Frame.unmarked (f : Frame) : Frame := { f with cursor := f.cursor.unmarked }

theorem Cursor.ahead_unmarked (c : Cursor) :
    c.unmarked.ahead = c.ahead.modifyHead Line.unmarked := by
  obtain ⟨name, lines, reading⟩ := c
  cases reading <;> rfl

theorem Cursor.Sound.unmarked {c : Cursor} (h : c.Sound) : c.unmarked.Sound := by
  have position : c.unmarked.position? = c.position? := by
    obtain ⟨name, lines, reading⟩ := c
    cases reading <;> rfl
  refine ⟨?_, fun lines => h.named fun none => lines ?_⟩
  · rw [c.ahead_unmarked, position, h.ahead]
    simp only [Cursor.unmarked, List.drop_modify_of_ge _ _ _ _ (Nat.le_refl _), Nat.sub_self,
      List.modifyHead_eq_modify_zero]
  · simp only [Cursor.unmarked, none, List.modify_nil]

/-- What the innermost source does differently first, the whole chain does differently first. -/
theorem walkChain_changed {resources : Resources} {change : Frame → Frame} {f : Frame}
    {included : List Frame} {depth : Nat} {settings : Settings} {s : Store}
    {said said' : List Event} (room : included.length < depth)
    (innermost : ∀ site : Site, site.settings = settings →
      Walked.Twin said said'
        (walkChain resources (depth - included.length) site (Chain.innermost ⟨f, included⟩) [] s)
        (walkChain resources (depth - included.length) site
          (change (Chain.innermost ⟨f, included⟩)) [] s))
    {site : Site} (how : site.settings = settings) :
    Walked.Twin said said' (walkChain resources depth site f included s)
      (walkChain resources depth site (Chain.changed change f included).frame
        (Chain.changed change f included).included s) := by
  induction included generalizing f depth site with
  | nil => exact innermost site how
  | cons g rest ih =>
    obtain ⟨depth, rfl⟩ := Nat.exists_eq_succ_of_ne_zero (Nat.ne_zero_of_lt room)
    rw [Chain.innermost_cons, List.length_cons, Nat.succ_eq_add_one, Nat.add_sub_add_right]
      at innermost
    have inner := @ih g depth (Nat.lt_of_succ_lt_succ room) innermost
      (site.within f.cursor.state) how
    exact inner.andThen fun s => .refl _

/-! ### The theorem -/

/-- The walk that a scanner has still to do is the same without the mark of the next line. -/
theorem Scanner.walk_unmarked {resources : Resources} {sc : Scanner} {line : Line}
    {rest : List Line} {b b' : Builtin} {s : Store}
    (ahead : sc.chain.innermost.cursor.ahead = line :: rest)
    (form : sc.settings.kind.builtin? (withoutEcho line.text) = some b)
    (optional : b.Optional b') (steady : line.Steady sc.settings s b')
    (found : ∀ t, ¬ line.NamesMissing resources sc.settings s b t) {bound : Nat}
    (room : sc.chain.included.length < bound) {site : Site} (how : site.settings = sc.settings) :
    Walked.Twin (line.said sc.settings s) (line.unmarked.said sc.settings s)
      (walkChain resources bound site sc.chain.frame sc.chain.included s)
      (walkChain resources bound site (sc.changed .unmarked).chain.frame
        (sc.changed .unmarked).chain.included s) := by
  refine walkChain_changed room (fun site how => ?_) how
  obtain ⟨left, hleft⟩ : ∃ left, bound - sc.chain.included.length = left + 1 :=
    ⟨bound - sc.chain.included.length - 1, by omega⟩
  have behind : (Frame.unmarked sc.chain.innermost).cursor.ahead = line.unmarked :: rest := by
    show (Cursor.unmarked _).ahead = _
    rw [Cursor.ahead_unmarked, ahead, List.modifyHead_cons]
  have name : (Frame.unmarked sc.chain.innermost).cursor.name = sc.chain.innermost.cursor.name :=
    rfl
  rw [hleft, walkChain_single, walkChain_single, behind, name, ← how]
  rw [← how] at form steady found
  show Walked.Twin _ _
    (walk resources (left + 1) site _ (Chain.innermost sc.chain).cursor.ahead s) _
  rw [ahead]
  exact CommandScript.walk_unmarked form optional steady found

/-- **The optional mark covers the named source.** Let the texts have no cycle. Somewhere in a run,
or in a load that the run begins or comes to, let the next line be an `include` or `properties`
line with a mark, and let the store be any. The mark is the only question mark of the line, and
without it the line makes the same statement. If the line evaluates and the source that it names
cannot be found, then the line, having announced itself if it is echoed, only looks for the source:
settling goes on behind it, and the store has changed only in that a label without a table has an
empty one. In all other cases the mark changes nothing but what an echoed line announces. The run
surfaces the same lines, shows the same, leaves the same store and fails with the same error, but
for the places that the error names; and so does the load, and hands out the same table. For a
`properties` line this asks that its reference does not evaluate to one with another mark and, where
expansion is strict, that the line as a whole fails to evaluate with the mark as it does without. -/
theorem optional_mark_covers_source {resources : Resources} {outer : Settings} {depth : Nat}
    {sc : Scanner} {line : Line} {rest : List Line} {b b' : Builtin}
    (reached : Scanner.Reached resources outer depth sc) (acyclic : Acyclic resources outer)
    (ahead : sc.chain.innermost.cursor.ahead = line :: rest)
    (form : sc.settings.kind.builtin? (withoutEcho line.text) = some b)
    (optional : b.Optional b') (s : Store) :
    let missing := line.NamesMissing resources sc.settings s b
    let unmarked := sc.changed .unmarked
    line.Unmarks sc.settings.kind b b' ∧
      (∀ t, missing t → ∃ events, ∃ paths : List Path,
        unlogged events = line.said sc.settings s ++ paths.map .sought ∧
          sc.settled resources depth s =
            ((sc.changed (.passed line rest false)).settled resources depth t).after events) ∧
      ((∀ t, ¬ missing t) →
        (∀ label reference, b' = .properties label reference → line.Steady sc.settings s b') →
        (∃ w w', Drains resources (sc, s) w ∧ Drains resources (unmarked, s) w' ∧
          w.Twin (line.said sc.settings s) (line.unmarked.said sc.settings s) w') ∧
        Outcome.Twin (line.said sc.settings s) (line.unmarked.said sc.settings s)
          (tableOf sc.settings (sc.settled resources depth s))
          (tableOf sc.settings (unmarked.settled resources depth s))) := by
  intro missing unmarked
  refine ⟨optional.unmarks form, ?_, fun found steady => ?_⟩
  · rintro t ⟨⟨u, evaluates⟩, misses⟩
    exact reached.settled_of_misses acyclic ahead form optional evaluates misses
  · have steady : line.Steady sc.settings s b' := by
      cases optional with
      | included => exact Line.steady_of_include form
      | loaded => exact steady _ _ rfl
    have sound := reached.sound_nests.1
    have sound' : unmarked.chain.Sound :=
      Chain.sound_changed sound (sound _ sc.chain.innermost_mem).unmarked
    have fits := reached.fits acyclic
    refine ⟨⟨_, _, Scanner.drains_remaining sound s, Scanner.drains_remaining sound' s, ?_⟩, ?_⟩
    · exact Scanner.walk_unmarked ahead form optional steady found
        (Nat.lt_of_lt_of_le fits reached.depth_le) rfl
    · have name : unmarked.chain.frame.cursor.name = sc.chain.frame.cursor.name := by
        refine Chain.kept_changed (·.cursor.name) (fun f => ?_) ..
        rfl
      have first := @tableOf_settle resources depth sc.settings sc.chain.frame sc.chain.included s
        sound
      have second := @tableOf_settle resources depth sc.settings unmarked.chain.frame
        unmarked.chain.included s sound'
      rw [Scanner.settled, first, Scanner.settled]
      rw [name] at second
      refine second ▸ (Scanner.walk_unmarked ahead form optional steady found fits rfl).loaded _

def deepText : Text := "include !deep".toList

def missingBelow : Resources where
  objects := .ofList [("t".toList, deepText)]

theorem missingBelow_acyclic : Acyclic missingBelow { kind := .script } := by
  have contents : ∀ raw ∈ missingBelow.contents, raw = deepText := by decide +kernel
  have forms : ∀ how ∈ [{ kind := .script }, Settings.forRecords { kind := .script }],
      ∀ line ∈ how.linesOf deepText, how.kind.builtin? (withoutEcho line.text) =
        some (.includeSource "!deep".toList) := by
    decide +kernel
  refine ⟨fun _ => 0, ?_⟩
  rintro how hhow raw hraw how' raw' ⟨line, hline, reference, name, hnames, hread⟩
  obtain rfl := contents raw hraw
  have form := forms how hhow line hline
  cases hnames with
  | @included registry written u written' named =>
    obtain rfl : written = "!deep".toList := by simpa using written'.symm.trans form
    obtain rfl : "!deep".toList = u := Except.ok.inj
      ((Expander.expand_plain registry (by decide)).symm.trans named)
    cases hread
  | loaded written named => cases written.symm.trans form

def optionalText : Text := "include ?!gone\nproperties L=?!t\nlast".toList

def optionalScanner : Scanner where
  settings := { kind := .script }
  chain := ⟨{ cursor := .opened optionalText (Settings.linesOf { kind := .script } optionalText) },
    []⟩

/-- The first line is passed. The second line fails as it does without its mark. -/
theorem optional_mark_covers_source_below :
    let s : Store := { registry := .withGlobals }
    let here : Line := ⟨1, "include ?!gone".toList⟩
    let later : List Line := [⟨2, "properties L=?!t".toList⟩, ⟨3, "last".toList⟩]
    let behind := optionalScanner.changed (.passed here later false)
    (∃ events, ∃ paths : List Path, unlogged events = paths.map .sought ∧
        optionalScanner.settled missingBelow missingBelow.depthBound s =
          (behind.settled missingBelow missingBelow.depthBound s).after events) ∧
      ∃ w w', Drains missingBelow (behind, s) w ∧
        Drains missingBelow (behind.changed .unmarked, s) w' ∧ w.Twin [] [] w' ∧
        w.lines = [] ∧ w.fault = some (.notFound "!deep".toList
          (some (Line.place ⟨1, deepText⟩ "!t".toList))) := by
  intro s here later behind
  let turns : List Session.Turn := [.make (.scanner .script {} false) {} false,
    .step (.perform 0 (.openSource (.text optionalText) none none))]
  have there : (Session.history missingBelow turns { store := {} }).2.view 0 =
      some (.scanner optionalScanner) := rfl
  have reached : Scanner.Reached missingBelow { kind := .script } missingBelow.depthBound
      optionalScanner := .between there rfl
  have ahead : optionalScanner.chain.innermost.cursor.ahead = here :: later := by decide +kernel
  have ahead' : behind.chain.innermost.cursor.ahead =
      ⟨2, "properties L=?!t".toList⟩ :: [⟨3, "last".toList⟩] := rfl
  have plain (t : Text) (h : '$' ∉ t) : ({} : Expander).expand s.registry t = .ok t :=
    Expander.expand_plain s.registry h
  obtain ⟨-, passes, -⟩ := optional_mark_covers_source reached missingBelow_acyclic ahead
    (b := .includeSource "?!gone".toList) (by decide +kernel) .included s
  have reached' := reached.behind false ahead
  obtain ⟨-, -, fails⟩ := optional_mark_covers_source reached' missingBelow_acyclic
    ahead' (b := .properties "L".toList "?!t".toList) (by decide +kernel) .loaded s
  refine ⟨passes s ⟨⟨_, plain _ (by decide)⟩, .included (plain _ (by decide)) rfl⟩, ?_⟩
  have found (u : Store) : ¬ Line.NamesMissing missingBelow { kind := .script } s
      ⟨2, "properties L=?!t".toList⟩ (.properties "L".toList "?!t".toList) u := by
    rintro ⟨-, misses⟩
    cases misses with
    | loaded labelled named absent =>
      obtain rfl := Except.ok.inj ((plain _ (by decide)).symm.trans named)
      cases absent
  have steady : Line.Steady { kind := .script } s ⟨2, "properties L=?!t".toList⟩
      (.properties "L".toList "!t".toList) := by
    refine ⟨fun u named => ?_, by rintro ⟨⟩⟩
    obtain rfl := Except.ok.inj ((plain _ (by decide)).symm.trans named)
    decide
  obtain ⟨⟨w, w', drains, drains', twin⟩, -⟩ := fails found
    (by rintro label reference ⟨⟩; exact steady)
  obtain rfl := (Scanner.drains_iff reached'.sound_nests.1).mp drains
  exact ⟨_, w', drains, drains', twin, by decide +kernel, by decide +kernel⟩

def markedFiles : Resources where
  files := { entries := [(["?@f".toList], .file (Utf8.encode "a=1".toList)),
    (["f".toList], .file (Utf8.encode "b=2".toList))] }

/-- Where the mark shows. A reference that evaluates to one with a mark names another file without
the mark in front of it, though both files are there. An echoed line is announced with its mark.
Where expansion is strict, a line may fail as a whole though its label and its reference evaluate:
then it fails though the source that it names is missing, and the error tells of the mark. -/
theorem optional_mark_shows :
    let s : Store :=
      { registry := .ofList [(globalsLabel, .ofList [("x".toList, "?@f".toList)])] }
    let asked (strict : Bool) (t : Text) := Scanner.hasNext markedFiles
      (.ofLines { kind := .script, expander := { strict := strict } } "main".toList [⟨1, t⟩], s)
    ((Source.text "@?@f".toList).read markedFiles).isOk = true ∧
      (asked false "properties L=?$\x7bx\x7d").state.2.registry.table "L" = ⟨[("a", "1")]⟩ ∧
      (asked false "properties L=$\x7bx\x7d").state.2.registry.table "L" = ⟨[("b", "2")]⟩ ∧
      Event.written (asked false "echo include ?@f").events =
        "\tEcho (As-Is): include ?@f\n\tEcho (Macros-substituted): include ?@f\n" ∧
      Event.written (asked false "echo include @f").events =
        "\tEcho (As-Is): include @f\n\tEcho (Macros-substituted): include @f\n" ∧
      (∃ t, (Builtin.properties "$\x7ba" "?b\x7d").Misses markedFiles
        { kind := .script, expander := { strict := true } } s t) ∧
      (asked true "properties $\x7ba=?b\x7d").result =
        .error (.undefinedReference "$\x7ba=?b\x7d") ∧
      (asked true "properties $\x7ba=b\x7d").result =
        .error (.undefinedReference "$\x7ba=b\x7d") := by
  intro s asked
  have misses : (Builtin.properties "$\x7ba" "?b\x7d").Misses markedFiles
      { kind := .script, expander := { strict := true } } s
      { s with registry := s.registry.ensure "$\x7ba" } :=
    .loaded (l := "$\x7ba") (u := "?b\x7d") rfl rfl rfl
  exact ⟨by decide +kernel, by decide +kernel, by decide +kernel, by decide +kernel,
    by decide +kernel, ⟨_, misses⟩, rfl, rfl⟩

end CommandScript
