import CommandScript.CommandLine.Perform

/-!
# What a command draws

A command draws words of its own between lines, names and messages that come from a script, and
those are escaped. How a display reads such markup is a matter of the display. What is assumed of
it is stated here: malformed markup alone keeps it from drawing, and an escaped text is read as it
is.
-/

namespace CommandScript

/-! ### Markup -/

/-- No mark, and nothing that has no place on a screen. -/
def isWordChar (c : Char) : Bool :=
  !(['[', ']', '\\', ':'].contains c) && 32 ≤ c.toNat

/-- Words are read as they are wherever they stand. -/
def Words (t : Text) : Prop := ∀ c ∈ t, isWordChar c = true

instance : DecidablePred Words := fun t =>
  decidable_of_iff (t.all isWordChar = true) List.all_eq_true

theorem Words.append {t u : Text} (ht : Words t) (hu : Words u) : Words (t ++ u) :=
  List.forall_mem_append.mpr ⟨ht, hu⟩

theorem Words.ofNat (n : Nat) : Words (Text.ofNat n) := by
  intro c mem
  rw [Text.ofNat, Nat.toList_repr] at mem
  have digit : c.isDigit = true := Nat.isDigit_of_mem_toDigits (by decide) (by decide) mem
  have other (d : Char) (h : d.isDigit = false) : c ≠ d := by
    rintro rfl
    rw [digit] at h
    cases h
  have visible : 32 ≤ c.toNat := by
    simp only [Char.isDigit, Bool.and_eq_true, decide_eq_true_eq] at digit
    exact Nat.le_trans (show 32 ≤ '0'.toNat by decide) digit.1
  simp [isWordChar, visible, other '[' rfl, other ']' rfl, other '\\' rfl, other ':' rfl]

theorem Words.spaces (n : Nat) : Words (Screen.spaces n) := by
  intro c mem
  rw [List.eq_of_mem_replicate mem]
  rfl

/-- Words with a style of their own, which a colon may end. -/
def IsLabel (t : Text) : Prop := ∃ words, Words words ∧ (t = words ∨ t = words ++ [':'])

theorem Words.isLabel {t : Text} (h : Words t) : IsLabel t :=
  ⟨t, h, .inl rfl⟩

def styleNames : List Text :=
  ["dim".toList, "bold yellow".toList, "bold red".toList, "white".toList, "green".toList]

open CommandLine (styled) in
/-- How a text is read that is made of words, of words in a style, of a sentence in a style about an
escaped text, and of an escaped text at its end. -/
inductive Reads (escape literal : Text → Text) : Text → Text → Prop where
  | nil : Reads escape literal [] []
  | words {words more read : Text} (plain : Words words) (next : Reads escape literal more read) :
      Reads escape literal (words ++ more) (words ++ read)
  | styled {style label more read : Text} (known : style ∈ styleNames) (plain : IsLabel label)
      (next : Reads escape literal more read) :
      Reads escape literal (styled style label ++ more) (label ++ read)
  | sentence {style front back : Text} (t : Text) (known : style ∈ styleNames)
      (before : Words front) (after : Words back) (some : back ≠ []) :
      Reads escape literal (styled style (front ++ escape t ++ back)) (front ++ literal t ++ back)
  | escaped (t : Text) : Reads escape literal (escape t) (literal t)

theorem Reads.ofWords {escape literal : Text → Text} {t : Text} (h : Words t) :
    Reads escape literal t t := by
  have reads : Reads escape literal (t ++ []) (t ++ []) := .words h .nil
  rwa [List.append_nil] at reads

/-! ### Displays -/

/-- How a display reads and lays out: the text that is read from markup, unless this is malformed,
and what is drawn of it. -/
structure Rendering where
  read? : Text → Option Text
  page : Text → Text
  table : Screen.Table → Text
  panel : Screen.Panel → Text
  document : List (Text × Table) → Text

/-- A table as it is read, unless its title or one of its cells is malformed. -/
def Rendering.readTable? (rendering : Rendering) (marked : Screen.Table) : Option Screen.Table := do
  let title ← rendering.read? marked.title
  let rows ← marked.rows.mapM (·.mapM rendering.read?)
  return { marked with title, rows }

theorem Rendering.readTable?_of_rows (rendering : Rendering) {title : Text}
    {columns : List Screen.Column} {rows read : List (List Text)}
    (h : rows.mapM (·.mapM rendering.read?) = some read) :
    rendering.readTable? ⟨title, columns, rows⟩ =
      (rendering.read? title).map fun title => ⟨title, columns, read⟩ := by
  simp only [readTable?, h]
  cases rendering.read? title <;> rfl

/-- **Only malformed markup keeps the display from drawing**, and what is well-formed is drawn as
what is read. Tables of texts can be written in any case. -/
structure Display.Draws (display : Display) (rendering : Rendering) : Prop where
  print {marked read : Text} (reads : rendering.read? marked = some read) :
    display.print marked = .ok (rendering.page read)
  table {marked read : Screen.Table} (reads : rendering.readTable? marked = some read) :
    display.table marked = .ok (rendering.table read)
  panel {marked : Screen.Panel} {title : Text} (reads : rendering.read? marked.title = some title) :
    display.panel marked = .ok (rendering.panel { marked with title })
  document (tables : List (Text × Table)) :
    display.document tables = .ok (rendering.document tables)
  /-- The errors of drawing are neither those of a script nor defects of the scanner. -/
  foreign {marked : Screen.Table} {e : Error} (failed : display.table marked = .error e) :
    e.isReportable = false ∧ e.isDefect = false

/-- **Escaping makes a text literal**: what the display reads of an escaped text is what `literal`
makes of the text, and all around it is read as it is meant. -/
def Display.Escapes (display : Display) (rendering : Rendering) (literal : Text → Text) : Prop :=
  ∀ {marked read : Text}, Reads display.escape literal marked read →
    rendering.read? marked = some read

namespace CommandLine

/-! ### Lines, summaries and errors -/

section

variable (literal : Text → Text)

def lineSeen (number : Nat) (text : Text) (echoed : Bool) : Text :=
  Screen.spaces (4 - (Text.ofNat number).length) ++ Text.ofNat number ++ "  " ++
    (if echoed then "echo ".toList else []) ++ literal text

def summarySeen (lines : Nat) (name : Text) : Text :=
  "ℹ " ++ Text.ofNat lines ++ " line(s) surfaced from " ++ literal name ++ "."

def faultSeen (message : Text) : Text := "Error: " ++ literal message

end

example : lineSeen id 1 "a [/b]".toList true = "   1  echo a [/b]".toList := by decide +kernel

section

variable {display : Display} {rendering : Rendering} {literal : Text → Text}

theorem reads_markedLine (number : Nat) (text : Text) (echoed : Bool) :
    Reads display.escape literal (markedLine display number text echoed)
      (lineSeen literal number text echoed) := by
  have dim : "dim".toList ∈ styleNames := by decide +kernel
  have digits := ((Words.spaces (4 - (Text.ofNat number).length)).append (.ofNat number)).isLabel
  have gap : Words "  ".toList := by decide +kernel
  cases echoed with
  | false =>
    have reads : Reads display.escape literal _ _ :=
      .styled dim digits (.words gap (.escaped text))
    simpa [markedLine, lineSeen] using reads
  | true =>
    have yellow : "bold yellow".toList ∈ styleNames := by decide +kernel
    have mark : IsLabel "echo".toList := Words.isLabel (by decide +kernel)
    have space : Words " ".toList := by decide +kernel
    have echo : Reads display.escape literal _ _ :=
      .styled yellow mark (.words space (.escaped text))
    have reads := Reads.styled dim digits (.words gap echo)
    simpa [markedLine, lineSeen] using reads

theorem reads_markedSummary (lines : Nat) (name : Text) :
    Reads display.escape literal (markedSummary display lines name)
      (summarySeen literal lines name) := by
  have dim : "dim".toList ∈ styleNames := by decide +kernel
  have sign : Words "ℹ ".toList := by decide +kernel
  have words : Words " line(s) surfaced from ".toList := by decide +kernel
  have front := (sign.append (.ofNat lines)).append words
  rw [markedSummary, summarySeen]
  exact .sentence name dim front (by decide +kernel) (by decide +kernel)

theorem reads_markedFault (message : Text) :
    Reads display.escape literal (markedFault display "Error" message)
      (faultSeen literal message) := by
  have red : "bold red".toList ∈ styleNames := by decide +kernel
  have label : IsLabel ("Error".toList ++ [':']) :=
    ⟨"Error".toList, by decide +kernel, .inr rfl⟩
  have space : Words " ".toList := by decide +kernel
  have reads : Reads display.escape literal _ _ :=
    .styled red label (.words space (.escaped message))
  have heading : "Error: ".toList = "Error".toList ++ ([':'] ++ " ".toList) := by decide +kernel
  show Reads _ _ _ ("Error: ".toList ++ literal message)
  simpa only [markedFault, heading, List.append_assoc] using reads

end

end CommandLine
end CommandScript
