import CommandScript.Proofs.ExpandedPayloads
import CommandScript.Proofs.OptionalMark

/-!
# Marks stand in the raw line

The question mark and the marker of a reference, and the guard of a key, are read off the line as
it is written. Expansion leaves everything in front of the first dollar sign, so no value takes the
marks of an `include` line away or puts others in front of them; and a `setProperty` line loses its
guard before its key is expanded.
-/

namespace CommandScript

open Act
open Event (unlogged)

namespace Text

def marked (optional : Bool) (t : Text) : Text := if optional then '?' :: t else t

theorem head?_marked_iff {optional : Bool} {t : Text} (free : t.head? ≠ some '?') :
    (marked optional t).head? = some '?' ↔ optional = true := by
  cases optional <;> simp [marked, free]

theorem splitOptional_marked {optional : Bool} {t : Text} (free : t.head? ≠ some '?') :
    splitOptional (marked optional t) = (optional, t) := by
  cases optional with
  | true => rfl
  | false => exact splitOptional_of_head free

/-- Expansion leaves the mark and the marker of a reference. -/
theorem expand_marked {e : Expander} (registry : Registry) {marker : Char} (plain : marker ≠ '$')
    (optional : Bool) (name : Text) :
    e.expand registry (marked optional (marker :: name)) =
      (e.expand registry name).map fun v => marked optional (marker :: v) := by
  cases optional with
  | false => exact Expander.expand_cons registry plain name
  | true =>
    have mark := @Expander.expand_cons e registry '?' (by decide) (marker :: name)
    have rest := @Expander.expand_cons e registry marker plain name
    rw [marked, if_pos rfl, mark, rest]
    cases e.expand registry name <;> rfl

end Text

section

variable (resources : Resources) (settings : Settings) (load : Text → Act Store Table)
variable (place : Text) (s : Store)

/-- The line evaluates to nothing: its expansion fails, and nothing is done. -/
def Line.Unexpanded (line : Line) : Prop :=
  ∃ reference said, unlogged said = line.said settings s ∧
    executeLine resources settings load place line s =
      ⟨.error (.undefinedReference reference), s, said⟩

/-- The line announces itself, if it is echoed, and then does what an action does. -/
def Line.ComesDownTo (line : Line) (action : Act Store Effect) : Prop :=
  ∃ said, unlogged said = line.said settings s ∧
    executeLine resources settings load place line s = (action s).after said

end

section

variable {resources : Resources} {settings : Settings} {load : Text → Act Store Table}
variable {place : Text} {s : Store} {line : Line}

/-- A line with a built-in does what the built-in says, if the line as a whole expands. -/
theorem Line.surfaces {builtin : Builtin}
    (form : settings.kind.builtin? (withoutEcho line.text) = some builtin) :
    line.Unexpanded resources settings load place s ∨
      line.ComesDownTo resources settings load place s
        (execute resources settings load place builtin) := by
  obtain ⟨own, said, run⟩ := @executeLine_apply resources settings load place s _ line form
  cases surfaced : settings.expander.expand s.registry (withoutEcho line.text) with
  | error fault =>
    obtain ⟨reference, rfl⟩ := Expander.expand_error s.registry surfaced
    rw [surfaced] at run
    exact .inl ⟨reference, own, said, run⟩
  | ok text =>
    rw [surfaced] at run
    exact .inr ⟨own, said, run⟩

/-- Where a payload is expanded first, the rest is given the expanded payload. -/
theorem Line.ComesDownTo.expand {payload : Text} {k : Text → Act Store Effect}
    (h : line.ComesDownTo resources settings load place s (expandPayload settings payload >>= k)) :
    line.Unexpanded resources settings load place s ∨
      ∃ expanded, settings.expander.expand s.registry payload = .ok expanded ∧
        line.ComesDownTo resources settings load place s (k expanded) := by
  obtain ⟨own, said, run⟩ := h
  obtain ⟨log, quiet, carried⟩ := @expandPayload_bind settings s Effect payload k
  have longer : unlogged (own ++ log) = line.said settings s := by
    rw [Scanner.unlogged_append, said, quiet, List.append_nil]
  rw [carried] at run
  cases result : settings.expander.expand s.registry payload with
  | error fault =>
    obtain ⟨reference, rfl⟩ := Expander.expand_error s.registry result
    rw [result] at run
    exact .inl ⟨reference, own ++ log, longer, run⟩
  | ok expanded =>
    rw [result] at run
    refine .inr ⟨expanded, rfl, own ++ log, longer, ?_⟩
    rw [run]
    simp only [Outcome.after, List.append_assoc]

theorem Line.ComesDownTo.result {action : Act Store Effect}
    (h : line.ComesDownTo resources settings load place s action) :
    (executeLine resources settings load place line s).result = (action s).result := by
  obtain ⟨said, -, run⟩ := h
  rw [run]
  rfl

theorem Line.ComesDownTo.state {action : Act Store Effect}
    (h : line.ComesDownTo resources settings load place s action) :
    (executeLine resources settings load place line s).state = (action s).state := by
  obtain ⟨said, -, run⟩ := h
  rw [run]
  rfl

/-! ### The forms of the two lines -/

theorem Text.head?_of_marker {marker : Char} (marker_ne : marker = '@' ∨ marker = '!') (t : Text) :
    (marker :: t).head? ≠ some '?' := by
  rcases marker_ne with rfl | rfl <;> simp

theorem Text.head?_of_isName {t : Text} (h : t.isName = true) : t.head? ≠ some '?' := by
  intro mark
  have free := (unquestioned_of_isName h).free
  exact free (List.mem_of_mem_head? mark)

/-- What an `include` line names is a marker and a name, perhaps marked. -/
theorem Form.marked_of_include? {t reference : Text} (h : include? t = some reference) :
    ∃ optional marker name, (marker = '@' ∨ marker = '!') ∧
      reference = Text.marked optional (marker :: name) := by
  obtain ⟨-, object⟩ := Option.filter_eq_some_iff.mp h
  obtain ⟨marker, name, hmarker, rfl | rfl⟩ := Text.marker_of_isObjectReference object
  · exact ⟨false, marker, name, hmarker, rfl⟩
  · exact ⟨true, marker, name, hmarker, rfl⟩

/-- The key of a `setProperty` line is a name, perhaps marked. -/
theorem Form.marked_of_setProperty? {t key value : Text}
    (h : setProperty? t = some (key, value)) :
    ∃ guarded name, name.isName = true ∧ key = Text.marked guarded name := by
  obtain ⟨rest, behind, -, -, -, guarded⟩ := setProperty?_eq_some_iff.mp h
  obtain ⟨name, hname, rfl | rfl⟩ := Text.isGuardedName_iff.mp guarded
  · exact ⟨false, key, hname, rfl⟩
  · exact ⟨true, name, hname, rfl⟩

/-- Scanners that load tables take the line for this built-in. -/
theorem Kind.builtin?_setProperty {kind : Kind} (loads : kind.loadsTables = true)
    {t key value : Text} (h : Form.setProperty? t = some (key, value)) :
    kind.builtin? t = some (.setProperty key value) := by
  have word := Form.keyword?_of_setProperty? h
  have noInclude : Form.include? t = none :=
    Form.eq_none_of_keyword? word (fun _ => Form.keyword?_of_include?) (by decide)
  have noPrint : Form.print? t = none :=
    Form.eq_none_of_keyword? word (fun _ => Form.keyword?_of_payload? (by decide)) (by decide)
  have noSleep : Form.sleep? t = none :=
    Form.eq_none_of_keyword? word (fun _ => Form.keyword?_of_payload? (by decide)) (by decide)
  cases kind with
  | basic => cases loads
  | eager => cases loads
  | script => simp [builtin?, Builtin.basic?, Builtin.script?, noInclude, noPrint, noSleep, h]
  | records => simp [builtin?, Builtin.basic?, Builtin.script?, noInclude, noPrint, noSleep, h]

end

/-! ### What no value can change -/

/-- **No value changes what a line names or guards.** Whatever the registry holds: an `include`
line whose expansion does not fail opens a reference with the marker that stands in the raw line,
so a file or an object and never the reference as a text; and a missing source is passed exactly
if a question mark stands in front of the raw reference. A `setProperty` line keeps a value that
is there exactly if a question mark stands in front of the raw key. -/
theorem raw_marks_decide (resources : Resources) (settings : Settings)
    (load : Text → Act Store Table) (place : Text) (line : Line) (s : Store) :
    (∀ reference, Form.include? (withoutEcho line.text) = some reference →
      ∃ optional marker name, (marker = '@' ∨ marker = '!') ∧
        reference = Text.marked optional (marker :: name) ∧
        (reference.head? = some '?' ↔ optional = true) ∧
        (line.Unexpanded resources settings load place s ∨
          ∃ v, settings.expander.expand s.registry name = .ok v ∧
            line.ComesDownTo resources settings load place s
              (enterNamed resources settings place optional (marker :: v)) ∧
            (∀ found, (Source.text (marker :: v)).read resources = .ok found →
              (marker = '@' ∧
                resources.files.read (Path.ofText v) (marker :: v) = .ok found.2) ∨
              (marker = '!' ∧ resources.objects.find? v = some found.2)) ∧
            ∀ gone state, (Source.text (marker :: v)).read resources =
                .error (.notFound gone state) →
              (executeLine resources settings load place line s).result =
                if optional then .ok (.entered {})
                else .error (.notFound (marker :: v) (some place)))) ∧
    (settings.kind.loadsTables = true →
      ∀ key value, Form.setProperty? (withoutEcho line.text) = some (key, value) →
        ∃ guarded name, name.isName = true ∧ key = Text.marked guarded name ∧
          (key.head? = some '?' ↔ guarded = true) ∧
          (line.Unexpanded resources settings load place s ∨
            ∃ k v, settings.expander.expand s.registry name = .ok k ∧
              settings.expander.expand s.registry (Text.trim value) = .ok v ∧
              line.ComesDownTo resources settings load place s (setExpanded settings guarded k v) ∧
              ((executeLine resources settings load place line s).state.registry.table
                  globalsLabel).find? k =
                some (if guarded then ((s.registry.table globalsLabel).find? k).getD v else v))) := by
  constructor
  · intro reference form
    obtain ⟨optional, marker, name, hmarker, rfl⟩ := Form.marked_of_include? form
    have free (t : Text) := Text.head?_of_marker hmarker t
    refine ⟨optional, marker, name, hmarker, rfl, Text.head?_marked_iff (free name), ?_⟩
    rcases Line.surfaces (settings.kind.builtin?_include form) with fails | surfaced
    · exact .inl fails
    rw [execute, executeInclude_eq] at surfaced
    rcases surfaced.expand with fails | ⟨expanded, result, carried⟩
    · exact .inl fails
    have plain : marker ≠ '$' := by rcases hmarker with rfl | rfl <;> decide
    rw [Text.expand_marked s.registry plain] at result
    cases named : settings.expander.expand s.registry name with
    | error fault => simp [named, Except.map] at result
    | ok v =>
      obtain rfl : Text.marked optional (marker :: v) = expanded := by
        simpa [named, Except.map] using result
      rw [includeExpanded, Text.splitOptional_marked (free v)] at carried
      refine .inr ⟨v, rfl, carried, fun found => read_marked hmarker, ?_⟩
      intro gone state missing
      rw [carried.result, result_enterNamed, missing]
  · intro loads key value form
    obtain ⟨guarded, name, hname, rfl⟩ := Form.marked_of_setProperty? form
    have free := Text.head?_of_isName hname
    refine ⟨guarded, name, hname, rfl, Text.head?_marked_iff free, ?_⟩
    rcases Line.surfaces (Kind.builtin?_setProperty loads form) with fails | surfaced
    · exact .inl fails
    rw [execute, executeSetProperty_eq, Text.splitOptional_marked free] at surfaced
    rcases surfaced.expand with fails | ⟨k, hk, inner⟩
    · exact .inl fails
    rcases inner.expand with fails | ⟨v, hv, carried⟩
    · exact .inl fails
    refine .inr ⟨k, v, hk, hv, carried, ?_⟩
    rw [carried.state]
    exact (find?_setExpanded guarded k v).2

/-- A value that begins with a marker becomes part of a file name, and a value that begins with a
question mark part of a key that is written without a guard. -/
theorem raw_marks_decide_marked_values :
    let s : Store :=
      { registry := ⟨[(globalsLabel, ⟨[("a", "!b"), ("c", "?d"), ("?d", "old")]⟩)]⟩ }
    let settings : Settings := { kind := .script }
    let load : Text → Act Store Table := fun _ => pure ∅
    let including : Line := ⟨1, "include ?@$\x7ba\x7d"⟩
    let setting : Line := ⟨2, "setProperty $\x7bc\x7d=new"⟩
    (including.ComesDownTo {} settings load [] s (enterNamed {} settings [] true "@!b") ∧
      (executeLine {} settings load [] including s).result = .ok (.entered {})) ∧
    ((executeLine {} settings load [] setting s).state.registry.table globalsLabel).find? "?d" =
      some "new".toList := by
  intro s settings load including setting
  have failing {line : Line} (h : line.Unexpanded {} settings load [] s) :
      (executeLine {} settings load [] line s).result.isOk = false := by
    obtain ⟨reference, said, -, run⟩ := h
    rw [run]
    rfl
  constructor
  · have named : settings.expander.expand s.registry "$\x7ba\x7d" = .ok "!b".toList := by
      decide +kernel
    obtain ⟨optional, marker, name, -, whole, mark, outcome⟩ :=
      (raw_marks_decide {} settings load [] including s).1 "?@$\x7ba\x7d" (by decide +kernel)
    obtain rfl : optional = true := mark.mp rfl
    obtain ⟨rfl, rfl⟩ : '@' = marker ∧ "$\x7ba\x7d".toList = name :=
      List.cons.inj (List.cons.inj whole).2
    rcases outcome with fails | ⟨v, hv, run, -, missing⟩
    · exact absurd (failing fails) (by decide +kernel)
    · obtain rfl : v = "!b".toList := Except.ok.inj (hv.symm.trans named)
      exact ⟨run, missing _ _ rfl⟩
  · have named : settings.expander.expand s.registry "$\x7bc\x7d" = .ok "?d".toList := by
      decide +kernel
    have valued : settings.expander.expand s.registry (Text.trim "new") = .ok "new".toList := by
      decide +kernel
    obtain ⟨guarded, name, -, whole, mark, outcome⟩ :=
      (raw_marks_decide {} settings load [] setting s).2 rfl "$\x7bc\x7d" "new" (by decide +kernel)
    obtain rfl : guarded = false := by
      rw [← Bool.not_eq_true, ← mark]
      decide
    obtain rfl : "$\x7bc\x7d".toList = name := whole
    rcases outcome with fails | ⟨k, v, hk, hv, -, found⟩
    · exact absurd (failing fails) (by decide +kernel)
    · obtain rfl : k = "?d".toList := Except.ok.inj (hk.symm.trans named)
      obtain rfl : v = "new".toList := Except.ok.inj (hv.symm.trans valued)
      exact found

end CommandScript
