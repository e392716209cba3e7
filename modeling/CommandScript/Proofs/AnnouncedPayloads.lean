import CommandScript.Proofs.ExpandedPayloads

/-!
# What an echoed line announces

An echoed line announces its expanded text and then prints or includes its expanded payload. The
line and the payload are expanded apart from each other. The text in front of the payload holds no
reference, so every pass leaves it as it is and does to the rest what it does to the payload alone,
for as many passes as there are: whatever the definitions lead to, both expansions stop alike.
-/

namespace CommandScript

open Act
open Event (unlogged)

/-- What a scanner of any kind does with the payload of a line. -/
inductive Verb where
  | prints
  | includes
  deriving DecidableEq, Repr

namespace Verb

def keyword : Verb → Text
  | prints => "print".toList
  | includes => "include".toList

def form? : Verb → Text → Option Text
  | prints => Form.print?
  | includes => Form.include?

def builtin : Verb → Text → Builtin
  | prints => .print
  | includes => .includeSource

/-- What is done with the expanded payload. -/
def carryOut (resources : Resources) (settings : Settings) (place : Text) :
    Verb → Text → Act Store Effect
  | prints => printExpanded settings
  | includes => includeExpanded resources settings place

section

variable {verb : Verb} {text payload : Text}

theorem isWord_keyword (verb : Verb) : Form.IsWord verb.keyword := by
  cases verb <;> decide

theorem payload?_of_form? (h : verb.form? text = some payload) :
    Form.payload? verb.keyword text = some payload ∧ payload ≠ [] := by
  cases verb with
  | prints =>
    obtain ⟨whole, long⟩ := Option.filter_eq_some_iff.mp h
    refine ⟨whole, ?_⟩
    rintro rfl
    simp at long
  | includes =>
    obtain ⟨whole, object⟩ := Option.filter_eq_some_iff.mp h
    refine ⟨whole, ?_⟩
    rintro rfl
    cases object

/-- Every kind of scanner takes the line for this built-in. -/
theorem builtin?_of_form? (h : verb.form? text = some payload) (kind : Kind) :
    kind.builtin? text = some (verb.builtin payload) := by
  cases verb with
  | includes => exact kind.builtin?_include h
  | prints =>
    have word := Form.keyword?_of_payload? (isWord_keyword prints) h
    have noInclude : Form.include? text = none :=
      Form.eq_none_of_keyword? word (fun _ => Form.keyword?_of_include?) (by decide)
    have print : Form.print? text = some payload := h
    cases kind <;> simp [Kind.builtin?, Builtin.basic?, noInclude, print, builtin]

/-- A text without blanks at its ends is the keyword, blanks and the payload. -/
theorem eq_of_form? (h : verb.form? text = some payload)
    (front : text.head?.any isBlank = false)
    (back : ∀ c, text.getLast? = some c → isBlank c = false) :
    ∃ gap, gap ≠ [] ∧ (∀ c ∈ gap, isBlank c) ∧ text = verb.keyword ++ (gap ++ payload) := by
  obtain ⟨whole, nonempty⟩ := payload?_of_form? h
  have spaced := Form.spaced_of_payload? whole nonempty
  obtain ⟨-, gap, apart, hgap, whole⟩ := (Form.spaced_iff (isWord_keyword verb) nonempty).mp spaced
  rw [Text.trim_eq_self front back] at whole
  exact ⟨gap, apart, hgap, whole⟩

theorem execute_eq (resources : Resources) (settings : Settings) (load : Text → Act Store Table)
    (place : Text) (verb : Verb) (payload : Text) :
    execute resources settings load place (verb.builtin payload) =
      expandPayload settings payload >>= verb.carryOut resources settings place := by
  cases verb with
  | prints => exact executePrint_eq payload
  | includes => exact executeInclude_eq payload

end

end Verb

/-- What an echoed line says it is without its keyword has no blanks at its ends. -/
theorem solid_of_splitEcho {t text : Text} (echoed : splitEcho t = (true, text)) :
    text.head?.any isBlank = false ∧ ∀ c, text.getLast? = some c → isBlank c = false := by
  cases form : Form.echo? t with
  | none => simp [splitEcho, form] at echoed
  | some bare =>
    obtain rfl : bare = text := by simpa [splitEcho, form] using echoed
    obtain ⟨payload, long, -⟩ := Form.echo?_eq_some_iff.mp form
    have nonempty : bare ≠ [] := by
      rintro rfl
      simp at long
    have spaced := Form.spaced_of_payload? payload nonempty
    exact ⟨spaced.solid, spaced.closed⟩

/-- **What an echoed line announces is what it does.** The line is a keyword, blanks and a payload.
If the payload expands, the line expands to the same with the expanded payload in its place; that
is announced, and printed or included is the very expanded payload. If the expansion of the payload
fails, so does that of the line: nothing is announced, and nothing is done. -/
theorem announced_is_carried_out (resources : Resources) (settings : Settings)
    (load : Text → Act Store Table) (place : Text) {line : Line} {text payload : Text} {verb : Verb}
    (echoed : splitEcho line.text = (true, text)) (form : verb.form? text = some payload)
    (s : Store) :
    settings.kind.recognizes line.text = true ∧
    ∃ gap, gap ≠ [] ∧ (∀ c ∈ gap, isBlank c) ∧ text = verb.keyword ++ (gap ++ payload) ∧
      match settings.expander.expand s.registry payload with
      | .error fault =>
        settings.expander.expand s.registry text = .error fault ∧
        ∃ log, unlogged log = [] ∧
          executeLine resources settings load place line s = ⟨.error fault, s, log⟩
      | .ok expanded =>
        settings.expander.expand s.registry text = .ok (verb.keyword ++ (gap ++ expanded)) ∧
        ∃ said, unlogged said =
            [.wrote ("\tEcho (As-Is): " ++ text ++ "\n"),
              .wrote ("\tEcho (Macros-substituted): " ++
                (verb.keyword ++ (gap ++ expanded)) ++ "\n")] ∧
          executeLine resources settings load place line s =
            (verb.carryOut resources settings place expanded s).after said := by
  have bare : withoutEcho line.text = text := congrArg Prod.snd echoed
  have builtin : settings.kind.builtin? (withoutEcho line.text) = some (verb.builtin payload) := by
    rw [bare]
    exact Verb.builtin?_of_form? form settings.kind
  refine ⟨Kind.recognizes_of_builtin? builtin, ?_⟩
  obtain ⟨front, back⟩ := solid_of_splitEcho echoed
  obtain ⟨gap, apart, blank, whole⟩ := Verb.eq_of_form? form front back
  refine ⟨gap, apart, blank, whole, ?_⟩
  -- No reference begins in front of the payload.
  have plain : '$' ∉ verb.keyword ++ gap := by
    intro mem
    rcases List.mem_append.mp mem with mem | mem
    · cases verb <;> exact absurd mem (by decide)
    · exact absurd (blank _ mem) (by decide)
  have alike := @Expander.expand_append settings.expander s.registry _ plain payload
  rw [List.append_assoc, ← whole] at alike
  obtain ⟨own, said, run⟩ := @executeLine_apply resources settings load place s _ line builtin
  obtain ⟨log, quiet, carried⟩ := @expandPayload_bind settings s Effect payload
    (verb.carryOut resources settings place)
  rw [Line.said, echoed, bare] at said
  rw [bare, Verb.execute_eq, carried] at run
  cases result : settings.expander.expand s.registry payload with
  | error fault =>
    have fails : settings.expander.expand s.registry text = .error fault := by
      rw [alike, result]
      rfl
    rw [if_pos rfl, Settings.echoOf, fails] at said
    rw [fails] at run
    exact ⟨fails, own, said, run⟩
  | ok expanded =>
    have gives : settings.expander.expand s.registry text =
        .ok (verb.keyword ++ (gap ++ expanded)) := by
      rw [alike, result, ← List.append_assoc]
      rfl
    rw [if_pos rfl, Settings.echoOf, gives] at said
    rw [gives, result] at run
    refine ⟨gives, own ++ log, ?_, ?_⟩
    · rw [Scanner.unlogged_append, said, quiet, List.append_nil]
    · rw [run]
      simp only [Outcome.after, List.append_assoc]

/-- A definition that leads back to itself is unfolded as often in the line as in its payload. -/
theorem announced_is_carried_out_cyclic :
    let cyclic : Store := { registry := ⟨[(globalsLabel, ⟨[("a", "x$\x7ba\x7d")]⟩)]⟩ }
    let line : Line := ⟨1, "echo  print\t$\x7ba\x7d"⟩
    let text : Text := "print\t$\x7ba\x7d"
    let payload : Text := "$\x7ba\x7d"
    let expanded : Text := "xxxxxxxxxxxxxxxx$\x7ba\x7d"
    splitEcho line.text = (true, text) ∧ Verb.prints.form? text = some payload ∧
      ({} : Settings).expander.expand cyclic.registry payload = .ok expanded ∧
      ∃ said, unlogged said =
          [.wrote ("\tEcho (As-Is): " ++ text ++ "\n"),
            .wrote ("\tEcho (Macros-substituted): " ++ ("print\t" ++ expanded) ++ "\n")] ∧
        executeLine {} {} (fun _ => pure ∅) [] line cyclic =
          (printExpanded {} expanded cyclic).after said := by
  intro cyclic line text payload expanded
  have echoed : splitEcho line.text = (true, text) := by decide +kernel
  have form : Verb.prints.form? text = some payload := by decide +kernel
  have result : ({} : Settings).expander.expand cyclic.registry payload = .ok expanded := by
    decide +kernel
  obtain ⟨-, gap, -, -, whole, outcome⟩ :=
    announced_is_carried_out {} {} (fun _ => pure ∅) [] echoed form cyclic
  rw [result] at outcome
  obtain ⟨-, said, announced, run⟩ := outcome
  have same : Verb.prints.keyword ++ (gap ++ payload) =
      Verb.prints.keyword ++ (['\t'] ++ payload) := whole.symm
  obtain rfl : gap = ['\t'] := List.append_cancel_right (List.append_cancel_left same)
  exact ⟨echoed, form, result, said, announced, run⟩

end CommandScript
