import CommandScript.Proofs.DrawnTexts

/-!
# A plain display

This display takes all that stands between square brackets for a tag, and whatever follows a
backslash for itself. So a text is literal for it when each opening bracket and each backslash has
a backslash in front. What is assumed of displays holds of this one.
-/

namespace CommandScript.PlainDisplay

/-- What reading has behind it. -/
inductive Place where
  | text
  | slash
  | insideTag

def readFrom : Place → Text → Option Text
  | .text, [] => some []
  | .slash, [] | .insideTag, [] => none
  | .text, c :: rest =>
    if c = '\\' then readFrom .slash rest
    else if c = '[' then readFrom .insideTag rest
    else (readFrom .text rest).map (c :: ·)
  | .slash, c :: rest => (readFrom .text rest).map (c :: ·)
  | .insideTag, c :: rest => readFrom (if c = ']' then .text else .insideTag) rest

def escape (t : Text) : Text :=
  t.flatMap fun c => if c = '\\' ∨ c = '[' then ['\\', c] else [c]

def rendering : Rendering where
  read? := readFrom .text
  page := Screen.page
  table := Screen.Table.draw
  panel := Screen.Panel.draw
  document := Yaml.ofTables

/-- What is read is drawn, and it is an error if there is nothing. -/
def drawn {α : Type} (draw : α → Text) (read : Option α) : Except Error Text :=
  match read with
  | some a => .ok (draw a)
  | none => .error (.nothingToClose 0)

def display : Display where
  escape := escape
  print marked := drawn rendering.page (rendering.read? marked)
  table marked := drawn rendering.table (rendering.readTable? marked)
  panel marked :=
    drawn (fun title => rendering.panel { marked with title }) (rendering.read? marked.title)
  document tables := .ok (rendering.document tables)

theorem draws : display.Draws rendering where
  print reads := by simp only [display, reads, drawn]
  table reads := by simp only [display, reads, drawn]
  panel reads := by simp only [display, reads, drawn]
  document _ := rfl
  foreign {marked e} failed := by
    change drawn rendering.table (rendering.readTable? marked) = .error e at failed
    cases read : rendering.readTable? marked with
    | none =>
      rw [read] at failed
      cases failed
      exact ⟨rfl, rfl⟩
    | some _ =>
      rw [read] at failed
      cases failed

/-! ### Reading -/

def Unmarked (t : Text) : Prop := ∀ c ∈ t, c ≠ '\\' ∧ c ≠ '['

theorem unmarked_of_words {t : Text} (h : Words t) : Unmarked t := by
  intro c mem
  have word := h c mem
  constructor <;> (rintro rfl; revert word; decide)

theorem unmarked_of_label {t : Text} (h : IsLabel t) : Unmarked t := by
  obtain ⟨words, plain, rfl | rfl⟩ := h
  · exact unmarked_of_words plain
  · exact List.forall_mem_append.mpr
      ⟨unmarked_of_words plain, List.forall_mem_singleton.mpr (by decide)⟩

theorem readFrom_plain {t : Text} (plain : Unmarked t) (rest : Text) :
    readFrom .text (t ++ rest) = (readFrom .text rest).map (t ++ ·) := by
  induction t with
  | nil => simp
  | cons c t ih =>
    obtain ⟨⟨slash, bracket⟩, plain⟩ := List.forall_mem_cons.mp plain
    rw [List.cons_append, readFrom, if_neg slash, if_neg bracket, ih plain, Option.map_map]
    rfl

/-- An escaped text is read as itself, whatever follows. -/
theorem readFrom_escape (t rest : Text) :
    readFrom .text (escape t ++ rest) = (readFrom .text rest).map (t ++ ·) := by
  induction t with
  | nil => simp [escape]
  | cons c t ih =>
    have split : escape (c :: t) ++ rest =
        (if c = '\\' ∨ c = '[' then ['\\', c] else [c]) ++ (escape t ++ rest) := by
      simp [escape]
    rw [split]
    by_cases marks : c = '\\' ∨ c = '['
    · rw [if_pos marks]
      change (readFrom .text (escape t ++ rest)).map (c :: ·) = _
      rw [ih, Option.map_map]
      rfl
    · obtain ⟨slash, bracket⟩ := not_or.mp marks
      rw [if_neg marks, List.singleton_append, readFrom, if_neg slash, if_neg bracket, ih,
        Option.map_map]
      rfl

theorem readFrom_insideTag {inside : Text} (closing : ']' ∉ inside) (rest : Text) :
    readFrom .insideTag (inside ++ ']' :: rest) = readFrom .text rest := by
  induction inside with
  | nil => rfl
  | cons c inside ih =>
    rw [List.mem_cons, not_or] at closing
    rw [List.cons_append, readFrom, if_neg (Ne.symm closing.1), ih closing.2]

open CommandLine (styled) in
/-- The tags around a text in a style vanish. -/
theorem readFrom_styled {style t seen : Text} (known : style ∈ styleNames)
    (inner : ∀ rest, readFrom .text (t ++ rest) = (readFrom .text rest).map (seen ++ ·))
    (rest : Text) :
    readFrom .text (styled style t ++ rest) = (readFrom .text rest).map (seen ++ ·) := by
  have closing : ']' ∉ style := by
    revert style
    decide +kernel
  have opened : styled style t ++ rest =
      '[' :: (style ++ ']' :: (t ++ ('[' :: (('/' :: style) ++ ']' :: rest)))) := by
    simp [styled]
  have closed : readFrom .text ('[' :: (('/' :: style) ++ ']' :: rest)) = readFrom .text rest :=
    readFrom_insideTag (List.not_mem_cons_of_ne_of_not_mem (by decide) closing) rest
  rw [opened, ← closed, ← inner]
  exact readFrom_insideTag closing _

/-- **Escaping makes every text literal** for the plain display. -/
theorem escapes : display.Escapes rendering id := by
  intro marked read reads
  change readFrom .text marked = some read
  induction reads with
  | nil => rfl
  | words plain next ih => rw [readFrom_plain (unmarked_of_words plain), ih]; rfl
  | styled known plain next ih =>
    rw [readFrom_styled known (readFrom_plain (unmarked_of_label plain)), ih]
    rfl
  | @sentence style front back t known before after some =>
    have inner (rest : Text) : readFrom .text (front ++ escape t ++ back ++ rest) =
        (readFrom .text rest).map (front ++ t ++ back ++ ·) := by
      rw [List.append_assoc, List.append_assoc, readFrom_plain (unmarked_of_words before),
        readFrom_escape, readFrom_plain (unmarked_of_words after), Option.map_map, Option.map_map]
      simp [Function.comp_def]
    have whole := readFrom_styled known inner []
    rw [List.append_nil] at whole
    exact whole.trans (by simp [readFrom])
  | escaped t =>
    have whole := readFrom_escape t []
    rw [List.append_nil] at whole
    exact whole.trans (by simp [readFrom])

end CommandScript.PlainDisplay
