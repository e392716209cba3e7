import CommandScript.Proofs.Escaping
import CommandScript.Proofs.ExitStatus

/-!
# The laws of displays on the screen

The screen that the program runs with obeys the laws of displays: it draws whatever is well-formed,
and what it shows of an escaped text is the text, but for names of emoji, backslashes and characters
that are never shown. So the program ends on it as it does on any display.
-/

namespace CommandScript.Screen

def rendering : Rendering where
  read? marked := (shown marked).toOption
  page := page
  table := Table.draw
  panel := Panel.draw
  document := Yaml.ofTables

/-! ### Drawing -/

theorem toOption_mapM {ε α β : Type} (f : α → Except ε β) (l : List α) :
    (l.mapM f).toOption = l.mapM fun a => (f a).toOption := by
  induction l with
  | nil => rfl
  | cons a l ih =>
    simp only [List.mapM_cons, ← ih]
    cases f a <;> cases l.mapM f <;> rfl

theorem toOption_eq_some {ε α : Type} {x : Except ε α} {a : α} (h : x.toOption = some a) :
    x = .ok a := by
  cases x with
  | error e => cases h
  | ok b => rw [Option.some.inj h]

theorem toOption_table_shown (marked : Table) :
    marked.shown.toOption = rendering.readTable? marked := by
  have rows : (marked.rows.mapM fun row : List Text => row.mapM shown).toOption =
      marked.rows.mapM fun row : List Text => row.mapM rendering.read? := by
    rw [toOption_mapM]
    exact congrArg marked.rows.mapM (funext fun row => toOption_mapM shown row)
  rw [Rendering.readTable?, ← rows, Table.shown]
  change _ = (shown marked.title).toOption.bind fun title =>
    (marked.rows.mapM fun row : List Text => row.mapM shown).toOption.bind fun rows =>
      some { marked with title, rows }
  cases shown marked.title <;>
    cases marked.rows.mapM (fun row : List Text => row.mapM shown) <;> rfl

def OfMarkup (e : Error) : Prop :=
  (∃ tag position, e = .unmatchedTag tag position) ∨ ∃ position, e = .nothingToClose position

theorem OfMarkup.unreportable {e : Error} (h : OfMarkup e) :
    e.isReportable = false ∧ e.isDefect = false := by
  rcases h with ⟨tag, position, rfl⟩ | ⟨position, rfl⟩ <;> exact ⟨rfl, rfl⟩

theorem ofMarkup_applyTag {position : Nat} {inside : Text} {opened : List Text} {e : Error}
    (h : applyTag position inside opened = .error e) : OfMarkup e := by
  simp only [applyTag] at h
  split at h
  · split at h
    · split at h
      · cases h
        exact .inr ⟨position, rfl⟩
      · cases h
    · split at h
      · cases h
      · cases h
        exact .inl ⟨_, position, rfl⟩
  · cases h

theorem ofMarkup_showPieces {stretch : Text} {opened : List Text} {pieces : List MarkupPiece}
    {e : Error} (h : showPieces stretch opened pieces = .error e) : OfMarkup e := by
  have inner {shown : Except Error Text} {f : Text → Text} (h : shown.map f = .error e) :
      shown = .error e := by
    cases shown with
    | error e' => exact h
    | ok t => cases h
  induction pieces generalizing stretch opened with
  | nil => cases h
  | cons piece pieces ih =>
    cases piece with
    | char c => exact ih h
    | tag position slashes inside =>
      rw [showPieces] at h
      split at h
      · exact ih (inner h)
      · split at h
        · rename_i failed
          cases h
          exact ofMarkup_applyTag failed
        · exact ih (inner h)

/-- Showing a text fails on malformed markup only. -/
theorem ofMarkup_shown {t : Text} {e : Error} (h : shown t = .error e) : OfMarkup e := by
  rw [shown_eq] at h
  cases pieces : showPieces [] [] (MarkupPiece.ofText t) with
  | error e' =>
    rw [pieces] at h
    cases h
    exact ofMarkup_showPieces pieces
  | ok t =>
    rw [pieces] at h
    cases h

theorem ofMarkup_table_shown {marked : Table} {e : Error} (h : marked.shown = .error e) :
    OfMarkup e := by
  rw [Table.shown] at h
  cases title : shown marked.title with
  | error e' =>
    rw [title] at h
    cases h
    exact ofMarkup_shown title
  | ok title' =>
    cases rows : marked.rows.mapM (·.mapM shown) with
    | error e' =>
      rw [title, rows] at h
      cases h
      obtain ⟨-, row, -, -, -, cells⟩ := mapM_eq_error_iff.mp rows
      obtain ⟨-, cell, -, -, -, failed⟩ := mapM_eq_error_iff.mp cells
      exact ofMarkup_shown failed
    | ok rows' =>
      rw [title, rows] at h
      cases h

theorem draws : display.Draws rendering where
  print reads := congrArg (Except.map page) (toOption_eq_some reads)
  table {marked read} reads := by
    rw [← toOption_table_shown] at reads
    exact congrArg (Except.map Table.draw) (toOption_eq_some reads)
  panel {marked title} reads :=
    congrArg (Except.map fun title => Panel.draw { marked with title }) (toOption_eq_some reads)
  document _ := rfl
  foreign {marked e} failed := by
    change marked.shown.map Table.draw = .error e at failed
    cases read : marked.shown with
    | error e' =>
      rw [read] at failed
      cases failed
      exact (ofMarkup_table_shown read).unreportable
    | ok read' =>
      rw [read] at failed
      cases failed

/-! ### Words -/

theorem not_mem_words {t : Text} (h : Words t) {c : Char} (mark : isWordChar c = false) :
    c ∉ t := by
  intro mem
  rw [h c mem] at mark
  cases mark

theorem shownStretch_words {t : Text} (h : Words t) : shownStretch t = t :=
  shownStretch_plain (not_mem_words h (by decide)) (not_mem_words h (by decide))

theorem visible_words {t : Text} (h : Words t) : visible t = t := by
  refine List.filter_eq_self.mpr fun c mem => ?_
  have word := h c mem
  by_contra unshown
  simp only [Bool.not_eq_true, Bool.not_eq_false', isUnshown, List.contains_iff_mem, List.mem_cons,
    List.not_mem_nil, or_false] at unshown
  simp only [isWordChar, Bool.and_eq_true, decide_eq_true_eq] at word
  omega

structure ShownAsIs (t : Text) : Prop where
  bracket : '[' ∉ t
  slash : '\\' ∉ t
  stretch : shownStretch t = t
  visible : visible t = t

theorem shownAsIs_words {t : Text} (h : Words t) : ShownAsIs t :=
  ⟨not_mem_words h (by decide), not_mem_words h (by decide), shownStretch_words h, visible_words h⟩

theorem shownAsIs_label {t : Text} (h : IsLabel t) : ShownAsIs t := by
  obtain ⟨words, plain, rfl | rfl⟩ := h
  · exact shownAsIs_words plain
  · have colon := not_mem_words plain (show isWordChar ':' = false by decide)
    obtain ⟨bracket, slash, stretch, seen⟩ := shownAsIs_words plain
    have around := @shownStretch_around words [] (by simpa using colon) slash (by simp) [':']
    rw [List.append_nil, List.append_nil] at around
    refine ⟨by simpa using bracket, by simpa using slash, around, ?_⟩
    rw [visible, List.filter_append]
    exact congrArg (· ++ [':']) seen

/-! ### Styles -/

/-- It is clear of this name that it names a style. -/
def isStyleName : Text → Bool
  | [] => false
  | c :: body =>
    startsTag c && c != '/' && !(Text.trim (c :: body)).isEmpty &&
      (c :: body).all fun d => d != '[' && d != ']' && d != '='

theorem isStyle_of_isStyleName {name : Text} (h : isStyleName name = true) : IsStyle name := by
  cases name with
  | nil => cases h
  | cons c body =>
    simp only [isStyleName, Bool.and_eq_true, bne_iff_ne, Bool.not_eq_true',
      List.isEmpty_eq_false_iff, List.all_eq_true] at h
    obtain ⟨⟨⟨starts, slash⟩, named⟩, plain⟩ := h
    have brackets : ∀ d ∈ c :: body, d ≠ '[' ∧ d ≠ ']' := fun d mem => (plain d mem).1
    exact {
      opens := ⟨c, body, rfl, starts, (List.forall_mem_cons.mp brackets).2⟩
      closes := ⟨'/', c :: body, rfl, rfl, brackets⟩
      slash := by simpa using slash
      equals := fun mem => (plain '=' mem).2 rfl
      named := named }

theorem isStyle_of_mem {style : Text} (known : style ∈ styleNames) : IsStyle style := by
  have all : styleNames.all isStyleName = true := by decide +kernel
  exact isStyle_of_isStyleName (List.all_eq_true.mp all style known)

theorem Shows.styled {name t : Text} {opened : List Text} {rest visible : Text} (h : IsStyle name)
    (bracket : '[' ∉ t) (slash : '\\' ∉ t) (stretch : Text) (more : Shows [] opened rest visible) :
    Shows stretch opened (CommandLine.styled name t ++ rest)
      (shownStretch stretch.reverse ++ (shownStretch t ++ visible)) := by
  have whole : CommandLine.styled name t ++ rest =
      '[' :: name ++ ']' :: (t ++ ('[' :: ('/' :: name) ++ ']' :: rest)) := by
    simp [CommandLine.styled]
  rw [whole]
  refine .tag h.opens (h.applyTag_open opened) (.plain bracket slash ?_)
  have closed := @Shows.tag t.reverse _ _ _ _ _ h.closes (h.applyTag_close opened) more
  rw [List.reverse_reverse] at closed
  rw [List.append_nil]
  exact closed

/-- Words close a style behind an escaped text. -/
theorem Ends.closing {name : Text} (h : IsStyle name) (opened : List Text) {back : Text}
    (plain : Words back) (some : back ≠ []) :
    Ends (styleName name :: opened) (back ++ ('[' :: ('/' :: name) ++ [']'])) back := by
  have other : ∀ d ∈ back, (d != '[' && d != ']') = true := by
    intro d mem
    have opening : d ≠ '[' := ne_of_mem_of_not_mem mem (not_mem_words plain (by decide))
    have closing : d ≠ ']' := ne_of_mem_of_not_mem mem (not_mem_words plain (by decide))
    simp [opening, closing]
  have as := shownAsIs_words plain
  refine ⟨⟨?_, ?_⟩, fun stretch => ?_⟩
  · rw [firstBracket?, List.dropWhile_append_of_pos other]
    rintro ⟨⟩
  · obtain ⟨c, mark, rfl⟩ := List.exists_cons_of_ne_nil some
    have first : c ≠ '\\' := fun same => as.slash (same ▸ List.mem_cons_self)
    have second : c ≠ '[' := fun same => as.bracket (same ▸ List.mem_cons_self)
    rw [List.cons_append, List.dropWhile_cons_of_neg (by simpa using first)]
    simpa using second
  · refine .plain as.bracket as.slash ?_
    have closed := @Shows.tag (back.reverse ++ stretch) _ _ _ _ _ h.closes
      (h.applyTag_close opened) (.nil [] opened)
    have colon := not_mem_words plain (show isWordChar ':' = false by decide)
    have shown := @shownStretch_around [] back (by simpa using colon) (by simp) as.bracket
      stretch.reverse
    have none : shownStretch [] = [] := rfl
    rw [List.reverse_append, List.reverse_reverse, ← List.nil_append stretch.reverse,
      shown] at closed
    simpa [none] using closed

/-! ### Reading -/

/-- What the screen shows of an escaped text. -/
def seen (t : Text) : Text := visible (literal t)

/-- What is read of a text is shown, behind any words. -/
theorem shows_of_reads {marked read : Text} (h : Reads escape seen marked read) :
    ∃ raw, visible raw = read ∧
      ∀ front, Words front → Shows front.reverse [] marked (front ++ raw) := by
  have apart (t u : Text) : visible (t ++ u) = visible t ++ visible u := List.filter_append ..
  -- The words in front are shown together with what follows them, so they belong to the induction.
  induction h with
  | nil =>
    refine ⟨[], rfl, fun front before => ?_⟩
    have shows := Shows.nil front.reverse []
    rw [List.reverse_reverse, shownStretch_words before] at shows
    rwa [List.append_nil]
  | @words words more read plain next ih =>
    obtain ⟨raw, rfl, shows⟩ := ih
    have as := shownAsIs_words plain
    refine ⟨words ++ raw, by rw [apart, as.visible], fun front before => ?_⟩
    have behind := shows _ (before.append plain)
    rw [List.reverse_append, List.append_assoc] at behind
    exact .plain as.bracket as.slash behind
  | @styled style label more read known plain next ih =>
    obtain ⟨raw, rfl, shows⟩ := ih
    have as := shownAsIs_label plain
    refine ⟨label ++ raw, by rw [apart, as.visible], fun front before => ?_⟩
    have styled := Shows.styled (isStyle_of_mem known) as.bracket as.slash front.reverse
      (shows [] (List.forall_mem_nil _))
    rwa [List.reverse_reverse, shownStretch_words before, as.stretch] at styled
  | @sentence style front back t known before after some =>
    have style := isStyle_of_mem known
    have as := shownAsIs_words before
    refine ⟨front ++ literal t ++ back, ?_, fun front' before' => ?_⟩
    · rw [apart, apart, as.visible, visible_words after]
      rfl
    have escaped := Shows.escape (.closing style [] after some)
      (not_mem_words before (by decide)) as.slash t
    have inner : Shows front'.reverse _ _ _ := .tag style.opens (style.applyTag_open [])
      (.plain as.bracket as.slash (by rwa [List.append_nil]))
    rw [List.reverse_reverse, shownStretch_words before'] at inner
    simpa [CommandLine.styled] using inner
  | escaped t =>
    refine ⟨literal t, rfl, fun front before => ?_⟩
    have shows := Shows.escape (.nil []) (not_mem_words before (by decide))
      (not_mem_words before (by decide)) t
    rwa [List.append_nil, List.append_nil] at shows

/-- **What the screen reads of an escaped text** is the text with its tags. -/
theorem escapes : display.Escapes rendering seen := by
  intro marked read reads
  obtain ⟨raw, rfl, shows⟩ := shows_of_reads reads
  have shown := (shows [] (List.forall_mem_nil _)).shown
  exact congrArg Except.toOption shown

/-- A text of shown characters, without colons and backslashes, is shown as it is. -/
theorem seen_eq_self {t : Text} (colon : ':' ∉ t) (slash : '\\' ∉ t)
    (shown : ∀ c ∈ t, isUnshown c = false) : seen t = t := by
  rw [seen, literal_eq_self colon slash]
  exact List.filter_eq_self.mpr fun c mem => by rw [shown c mem]; rfl

end CommandScript.Screen

namespace CommandScript.CommandLine

/-- How the program ends on its own screen. -/
theorem answer_ends {σ : Type} {resources : Resources} {job : Job}
    (acyclic : job.Acyclic resources) (s : σ) :
    ∃ done events, job.Ends Screen.display Screen.rendering Screen.seen resources s
      ((Request.perform job).answer resources s) done events :=
  job_ends Screen.draws Screen.escapes acyclic s

end CommandScript.CommandLine
