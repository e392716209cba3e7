import CommandScript.Proofs.EchoedLines
import CommandScript.Proofs.Keywords
import CommandScript.Proofs.WrittenTables

/-!
# Records with blanks

A record may have blanks on both sides of its equals sign, and its value needs no quotes where
nothing in it is taken for a comment, a quote or the end of the record. Cleaning squeezes the
blanks and leaves a record of the same kind. With blanks in front of the equals sign the key
becomes the first word of the line, and what has a keyword for its first word is tried before
records are: `print` and `echo` take anything for their payload, so they take such a record, and
all other keywords leave it alone.
-/

namespace CommandScript

structure Gap (blanks : Text) : Prop where
  blank : ∀ c ∈ blanks, isBlank c
  noFeed : '\n' ∉ blanks

/-- A value that can be written without quotes: on one line, in one record, with no blank at
either end, and with nothing in it that is taken for a quote or a comment. -/
structure BareValue (value : Text) : Prop where
  nonempty : value ≠ []
  front : value.head?.any isBlank = false
  back : value.getLast?.any isBlank = false
  noFeed : '\n' ∉ value
  noSemicolon : ';' ∉ value
  noQuote : ∀ c ∈ value, isQuote c = false
  noHash : '#' ∉ value
  noSlashes : ¬ ['/', '/'] <:+: value

instance (blanks : Text) : Decidable (Gap blanks) :=
  decidable_of_iff (blanks.all isBlank ∧ '\n' ∉ blanks)
    ⟨fun h => ⟨List.all_eq_true.mp h.1, h.2⟩, fun h => ⟨List.all_eq_true.mpr h.blank, h.noFeed⟩⟩

instance (value : Text) : Decidable (BareValue value) :=
  decidable_of_iff
    (value ≠ [] ∧ value.head?.any isBlank = false ∧ value.getLast?.any isBlank = false ∧
      '\n' ∉ value ∧ ';' ∉ value ∧ value.all (!isQuote ·) ∧ '#' ∉ value ∧
      ¬ ['/', '/'] <:+: value)
    ⟨fun ⟨nonempty, front, back, noFeed, noSemicolon, noQuote, noHash, noSlashes⟩ =>
        ⟨nonempty, front, back, noFeed, noSemicolon, by simpa using noQuote, noHash, noSlashes⟩,
      fun h => ⟨h.nonempty, h.front, h.back, h.noFeed, h.noSemicolon, by simpa using h.noQuote,
        h.noHash, h.noSlashes⟩⟩

/-- A record without quotes, with the blanks around its equals sign. -/
structure BareRecord where
  key : Text
  value : Text
  before : Text
  after : Text
  writable : WritableKey key
  bare : BareValue value
  gap : Gap before
  space : Gap after

/-! ### Gaps and values -/

theorem Gap.squeeze {blanks : Text} (h : Gap blanks) : Gap (Text.squeeze blanks) where
  blank c hc := by
    rw [← Bool.not_eq_false]
    intro solid
    have blank := h.blank c ((Text.mem_squeeze solid blanks).mp hc)
    rw [solid] at blank
    cases blank
  noFeed hc := h.noFeed (Text.mem_of_mem_squeeze (by decide) hc)

theorem Gap.not_mem {blanks : Text} (h : Gap blanks) {c : Char} (hc : isBlank c = false) :
    c ∉ blanks := fun mem => by
  have blank := h.blank c mem
  rw [hc] at blank
  cases blank

theorem slashes_squeeze {t : Text} (h : ['/', '/'] <:+: Text.squeeze t) : ['/', '/'] <:+: t := by
  induction t using Text.squeeze_induction with
  | nil => exact h
  | pair b c t hb hc ih =>
    rw [Text.squeeze_pair hb hc] at h
    rcases List.infix_cons_iff.mp (ih h) with front | behind
    · exact absurd (List.cons_prefix_cons.mp front).1 (by decide)
    · exact List.infix_cons (List.infix_cons behind)
  | single c t alone ih =>
    rw [Text.squeeze_cons alone] at h
    rcases List.infix_cons_iff.mp h with front | behind
    · obtain ⟨rfl, next⟩ := List.cons_prefix_cons.mp front
      obtain ⟨rest, hrest⟩ := next
      have slash : t.head? = some '/' := (Text.head_squeeze rfl t).mp (by rw [← hrest]; rfl)
      obtain ⟨t, rfl⟩ := List.head?_eq_some_iff.mp slash
      exact ⟨[], t, rfl⟩
    · exact List.infix_cons (ih behind)

/-- Slashes that follow one another stand behind what has none. -/
theorem slashes_of_append {t u : Text} (free : '/' ∉ t) (h : ['/', '/'] <:+: t ++ u) :
    ['/', '/'] <:+: u := by
  induction t with
  | nil => exact h
  | cons c t ih =>
    rcases List.infix_cons_iff.mp h with front | behind
    · obtain ⟨rfl, -⟩ := List.cons_prefix_cons.mp front
      exact absurd List.mem_cons_self free
    · exact ih (fun mem => free (List.mem_cons_of_mem _ mem)) behind

theorem codeFrom_of_free {t : Text} (noHash : '#' ∉ t) (noSlashes : ¬ ['/', '/'] <:+: t) :
    codeFrom none t = none := by
  cases h : codeFrom none t with
  | none => rfl
  | some code =>
    obtain ⟨comment, rfl, starts⟩ := codeFrom_eq_some h
    cases comment with
    | nil => cases starts
    | cons c comment =>
      rcases startsComment_cons_iff.mp starts with rfl | ⟨rfl, next⟩
      · exact absurd (by simp) noHash
      · obtain ⟨rest, rfl⟩ := List.head?_eq_some_iff.mp next
        exact absurd ⟨code, rest, by simp⟩ noSlashes

namespace BareValue

variable {value : Text}

theorem last (h : BareValue value) {c : Char} (hc : value.getLast? = some c) : isBlank c = false := by
  simpa [hc] using h.back

theorem trim_eq (h : BareValue value) : Text.trim value = value :=
  Text.trim_eq_self h.front fun _ hc => h.last hc

/-- Squeezing a value leaves a value of the same kind. -/
theorem squeeze (h : BareValue value) : BareValue (Text.squeeze value) := by
  obtain ⟨c, rest, rfl⟩ := List.exists_cons_of_ne_nil h.nonempty
  have solid : isBlank c = false := by simpa using h.front
  have first : Text.squeeze (c :: rest) = c :: Text.squeeze rest :=
    Text.squeeze_cons (by simp [solid])
  have trimmed : Text.trimRight (Text.squeeze (c :: rest)) = Text.squeeze (c :: rest) := by
    rw [Text.trimRight_squeeze, Text.trimRight_eq_self fun _ hc => h.last hc]
  constructor
  · simp [first]
  · rw [first]
    exact h.front
  · cases hlast : (Text.squeeze (c :: rest)).getLast? with
    | none => rfl
    | some d =>
      rw [← trimmed] at hlast
      simpa using Text.last_trimRight hlast
  · exact fun mem => h.noFeed (Text.mem_of_mem_squeeze (by decide) mem)
  · exact fun mem => h.noSemicolon (Text.mem_of_mem_squeeze (by decide) mem)
  · intro d mem
    by_cases space : d = ' '
    · rw [space]
      rfl
    · exact h.noQuote d (Text.mem_of_mem_squeeze space mem)
  · exact fun mem => h.noHash (Text.mem_of_mem_squeeze (by decide) mem)
  · exact fun slashes => h.noSlashes (slashes_squeeze slashes)

theorem insideOf?_eq_none (h : BareValue value) {quote : Char} (hquote : isQuote quote) :
    WrittenValue.insideOf? quote value = none := by
  have other : ∀ c ∈ value, c ≠ quote := by
    rintro c hc rfl
    rw [h.noQuote c hc] at hquote
    cases hquote
  cases value with
  | nil => rfl
  | cons c rest =>
    rw [WrittenValue.insideOf?_cons, if_neg fun both => other c List.mem_cons_self both.1]

/-- A value without quotes is read as it is. -/
theorem ofText_eq (h : BareValue value) : WrittenValue.ofText value = .bare value := by
  rw [WrittenValue.ofText, h.insideOf?_eq_none rfl, h.insideOf?_eq_none rfl]

end BareValue

namespace BareRecord

variable (r : BareRecord)

def payload : Text := '=' :: (r.after ++ r.value)

def written : Text := r.key ++ (r.before ++ r.payload)

/-! ### Cleaning -/

def cleaned : BareRecord where
  key := r.key
  value := Text.squeeze r.value
  before := Text.squeeze r.before
  after := Text.squeeze r.after
  writable := r.writable
  bare := r.bare.squeeze
  gap := r.gap.squeeze
  space := r.space.squeeze

theorem squeeze_written : Text.squeeze r.written = r.cleaned.written := by
  have equals : Text.squeeze r.payload = r.cleaned.payload := by
    rw [payload, Text.squeeze_cons (by rintro ⟨⟩), Text.squeeze_append r.bare.front]
    rfl
  rw [written, Text.squeeze_append_of_not_blank r.writable.not_blank, Text.squeeze_append rfl,
    equals]
  rfl

theorem not_key_behind : ∀ c ∈ (r.before ++ r.payload).head?, isKey c = false := by
  intro c hc
  cases hbefore : r.before with
  | nil =>
    rw [hbefore] at hc
    obtain rfl : '=' = c := Option.some.inj hc
    decide
  | cons b before =>
    rw [hbefore] at hc
    obtain rfl : b = c := Option.some.inj hc
    exact not_key_of_isBlank (r.gap.blank b (by simp [hbefore]))

/-- Nothing in a record is taken for a comment. -/
theorem bare_written : Line.bare r.written = r.written := by
  -- The equals sign keeps the slashes of the key apart from those of the value.
  have front : r.before ++ r.payload = (r.before ++ '=' :: r.after) ++ r.value := by simp [payload]
  have free {c : Char} (hc : isBlank c = false) (other : c ≠ '=') :
      c ∉ r.before ++ '=' :: r.after := by
    simp [r.gap.not_mem hc, r.space.not_mem hc, other]
  have rest : codeFrom none (r.before ++ r.payload) = none := by
    rw [front]
    refine codeFrom_of_free ?_ fun slashes => ?_
    · rw [List.mem_append]
      rintro (mem | mem)
      · exact free rfl (by decide) mem
      · exact r.bare.noHash mem
    · exact r.bare.noSlashes (slashes_of_append (free rfl (by decide)) slashes)
  have next : (r.before ++ r.payload).head? ≠ some '/' := fun slash =>
    absurd (r.not_key_behind '/' slash) (by decide)
  have code : codeFrom none r.written = none := by
    rw [written, codeFrom_key r.writable.alphabet r.writable.noSlashes next, rest]
    rfl
  have line : isCommentLine r.written = false := isCommentLine_key r.writable r.not_key_behind
  rw [Line.bare, line, Line.withoutComment_of_none code]
  rfl

theorem trim_written : Text.trim r.written = r.written := by
  refine Text.trim_eq_self ?_ fun c hc => ?_
  · obtain ⟨c, key, hkey⟩ := List.exists_cons_of_ne_nil r.writable.nonempty
    rw [written, hkey]
    simpa using r.writable.not_blank c (by simp [hkey])
  · have whole : r.written = (r.key ++ r.before ++ '=' :: r.after) ++ r.value := by
      simp [written, payload]
    rw [whole, List.getLast?_append_of_ne_nil _ r.bare.nonempty] at hc
    exact r.bare.last hc

theorem clean?_written : Line.clean? {} r.written = some r.cleaned.written := by
  have solid : Text.allBlank r.cleaned.written = false :=
    Text.allBlank_eq_false (c := '=') (by simp [written, payload]) rfl
  rw [Line.clean?_eq, r.bare_written]
  simp [Line.squeezed, r.squeeze_written, solid, r.cleaned.trim_written]

/-- A record on a line of its own is ingested to the cleaned record. -/
theorem ingest_written : Line.ingest {} (some [';']) r.written = [⟨1, r.cleaned.written⟩] := by
  have noFeed : '\n' ∉ r.written := by
    have noKey : '\n' ∉ r.key := r.writable.not_mem (by decide)
    simp [written, payload, noKey, r.gap.noFeed, r.space.noFeed, r.bare.noFeed]
  have noSemicolon : ';' ∉ r.written := by
    have noKey : ';' ∉ r.key := r.writable.not_mem (by decide)
    have solid : isBlank ';' = false := rfl
    simp [written, payload, noKey, r.gap.not_mem solid, r.space.not_mem solid, r.bare.noSemicolon]
  have normal : Line.normalize r.written = r.written := by
    refine Line.normalize_eq_self ?_ (Line.joinReturns_eq_self (.inr noFeed))
    obtain ⟨c, key, hkey⟩ := List.exists_cons_of_ne_nil r.writable.nonempty
    rw [written, hkey]
    simpa using ne_of_isKey (r.writable.alphabet c (by simp [hkey])) (by decide)
  rw [Line.ingest_eq, Line.rawLines, normal, Text.splitAt_of_not_mem noFeed]
  simp [Line.texts, Line.records_char, Text.splitAt_of_not_mem noSemicolon, r.clean?_written]

/-! ### Recognition -/

theorem record?_written : Form.record? r.written = some (r.key, .bare r.value) := by
  have value : Text.trim (r.after ++ r.value) = r.value := by
    rw [Text.trim, Text.trimLeft, List.dropWhile_append_of_pos r.space.blank]
    exact r.bare.trim_eq
  have free : '\n' ∉ Text.trim (r.after ++ r.value) := by
    rw [value]
    exact r.bare.noFeed
  rw [written, payload, record?_key r.writable.nonempty r.writable.alphabet r.gap.blank free, value,
    r.bare.ofText_eq]

theorem isRecord_of_tight (tight : r.before = []) : IsRecord r.written r.key r.value := by
  have form := r.record?_written
  rw [written, payload, tight] at form ⊢
  exact isRecord_of_form r.writable form

section

variable (apart : r.before ≠ [])

include apart

/-- With blanks behind it, the key is a keyword if it is spelled like one. -/
theorem afterKeyword?_written {keyword : Text} (word : Form.IsWord keyword) :
    Form.afterKeyword? keyword r.written = if r.key = keyword then some r.payload else none :=
  Form.afterKeyword?_append word ⟨r.writable.nonempty, r.writable.not_blank⟩ r.gap.blank apart rfl

theorem payload?_written {keyword : Text} (word : Form.IsWord keyword) :
    Form.payload? keyword r.written = if r.key = keyword then some r.payload else none := by
  have trimmed : Text.trimRight r.payload = r.payload := by
    refine Text.trimRight_eq_self fun c hc => r.bare.last ?_
    rwa [payload, ← List.cons_append, List.getLast?_append_of_ne_nil _ r.bare.nonempty] at hc
  rw [Form.payload?, r.afterKeyword?_written apart word]
  split
  · exact congrArg some trimmed
  · rfl

/-- A keyword that asks for a payload of some form claims the record only if it gets one. -/
theorem filter_payload? {keyword : Text} (word : Form.IsWord keyword) (test : Text → Bool) :
    (Form.payload? keyword r.written).filter test =
      if r.key = keyword ∧ test r.payload then some r.payload else none := by
  rw [r.payload?_written apart word]
  split
  · rename_i same
    simp [Option.filter, same]
  · rename_i other
    rw [if_neg fun h => other h.1]
    rfl

theorem echo?_written :
    Form.echo? r.written = if r.key = "echo" then some r.payload else none := by
  have fits : (2 ≤ r.payload.length && !r.payload.contains '\n') = true := by
    have long : 1 ≤ r.value.length := List.length_pos_iff.mpr r.bare.nonempty
    simp [payload, r.space.noFeed, r.bare.noFeed]
    omega
  rw [Form.echo?, r.filter_payload? apart (by decide)]
  simp only [fits, and_true]

theorem basic?_written :
    Builtin.basic? r.written = if r.key = "print" then some (.print r.payload) else none := by
  have inclusion : Form.include? r.written = none := by
    rw [Form.include?, r.filter_payload? apart (by decide)]
    exact if_neg fun h => Bool.false_ne_true h.2
  have fits : (1 ≤ r.payload.length && !r.payload.contains '\n') = true := by
    simp [payload, r.space.noFeed, r.bare.noFeed]
  rw [Builtin.basic?, inclusion, Form.print?, r.filter_payload? apart (by decide)]
  simp only [fits, and_true]
  split <;> rfl

theorem script?_written : Builtin.script? r.written = none := by
  have sleep : Form.sleep? r.written = none := by
    rw [Form.sleep?, r.filter_payload? apart (by decide)]
    exact if_neg fun h => Bool.false_ne_true h.2
  have set : Form.setProperty? r.written = none := by
    rw [Form.setProperty?, r.afterKeyword?_written apart (by decide)]
    split
    · exact Option.bind_fun_none (Form.inlineValue? (r.after ++ r.value))
    · rfl
  have load : Form.properties? r.written = none := by
    rw [Form.properties?, r.payload?_written apart (by decide)]
    split <;> rfl
  rw [Builtin.script?, sleep, set, load]
  rfl

/-- Only two keywords take a record away. -/
theorem isRecord_of_apart (print : r.key ≠ "print") (echo : r.key ≠ "echo") :
    IsRecord r.written r.key r.value := by
  refine isRecord_of_unclaimed ?_ ?_ (r.script?_written apart) r.record?_written
  · rw [r.echo?_written apart, if_neg echo]
  · rw [r.basic?_written apart, if_neg print]

theorem splitEcho_written (other : r.key ≠ "echo") : splitEcho r.written = (false, r.written) := by
  rw [splitEcho, r.echo?_written apart, if_neg other]

theorem builtin?_print (print : r.key = "print") :
    Kind.records.builtin? r.written = some (.print r.payload) := by
  rw [Kind.builtin?, r.basic?_written apart, if_pos print]
  rfl

theorem recognizes_print (print : r.key = "print") : Kind.records.recognizes r.written = true := by
  have plain := r.splitEcho_written apart (by rw [print]; decide)
  rw [← Kind.isSome_builtin? (by decide), withoutEcho, plain]
  exact Option.isSome_of_eq_some (r.builtin?_print apart print)

/-- Behind the keyword that `echo` is, the rest of a record is no built-in line. -/
theorem recognizes_echo (echo : r.key = "echo") : Kind.records.recognizes r.written = false := by
  rw [Kind.recognizes, withoutEcho, splitEcho, r.echo?_written apart, if_pos echo]
  rfl

end

end BareRecord

/-! ### Execution -/

/-- But for its log, an outcome is this one. -/
structure Outcome.ComesTo {σ α : Type} (o : Outcome σ α) (result : Except Error α) (state : σ)
    (shown : List Event) : Prop where
  result : o.result = result
  state : o.state = state
  shown : Event.unlogged o.events = shown

theorem Act.Quietly.comesTo {σ α : Type} {x : Act σ α} {s t : σ} {a : α}
    (h : Act.Quietly x s a t) : (x s).ComesTo (.ok a) t [] := by
  obtain ⟨log, quiet, hx⟩ := h
  rw [hx]
  exact ⟨rfl, rfl, quiet⟩

namespace Outcome.ComesTo

variable {σ α β : Type} {o : Outcome σ α} {result : Except Error α} {s t : σ} {shown : List Event}

theorem exists_eq (h : o.ComesTo result s shown) :
    ∃ log, Event.unlogged log = shown ∧ o = ⟨result, s, log⟩ := by
  obtain ⟨rfl, rfl, rfl⟩ := h
  exact ⟨o.events, rfl, rfl⟩

theorem after (h : o.ComesTo result s shown) {early : List Event} (quiet : Event.unlogged early = []) :
    (o.after early).ComesTo result s shown := by
  refine ⟨h.result, h.state, ?_⟩
  rw [Outcome.after, Scanner.unlogged_append, quiet, h.shown]
  rfl

theorem bind {x : Act σ β} {f : β → Act σ α} {b : β} (hx : Act.Quietly x s b t) {u : σ}
    (hf : (f b t).ComesTo result u shown) : ((x >>= f) s).ComesTo result u shown := by
  obtain ⟨early, quiet, hx⟩ := hx
  rw [Act.bind_apply, hx]
  exact hf.after quiet

/-- What goes on quietly shows no more. -/
theorem quietly {x : Act σ β} {f : β → Act σ α} {b : β} {a : α} {u : σ}
    (hx : (x s).ComesTo (.ok b) t shown) (hf : Act.Quietly (f b) t a u) :
    ((x >>= f) s).ComesTo (.ok a) u shown := by
  obtain ⟨made, rfl, run⟩ := hx.exists_eq
  obtain ⟨log, quiet, rest⟩ := hf
  rw [Act.bind_apply, run]
  simp only [rest, Outcome.after_mk]
  exact ⟨rfl, rfl, by rw [Scanner.unlogged_append, quiet, List.append_nil]⟩

end Outcome.ComesTo

/-- A single line that is executed makes the whole table. -/
theorem loadLines_executed (loader : PropertiesLoader) (resources : Resources) (name : Text)
    (s : Store) {line : Line} (isBuiltin : Kind.records.recognizes line.text = true) {t : Store}
    {shown : List Event}
    (executed : ∀ load, (executeLine resources loader.settings load (line.place name) line
      { registry := s.registry.ensure globalsLabel }).ComesTo (.ok .done) t shown) :
    (loader.loadLines resources name [line] s).ComesTo (.ok t.target) { t with target := s.target }
      shown := by
  obtain ⟨load, enter, apply⟩ := loadLines_apply loader resources name [line] s
  obtain ⟨log, shows, hexec⟩ := (executed load).exists_eq
  let start : Frame := { cursor := .opened name [line] }
  have settled : settleLines resources loader.settings load enter [line] start
        { registry := s.registry.ensure globalsLabel } =
      ⟨.ok false, (⟨start.moved line [], []⟩, t), log ++ []⟩ := by
    have goes : loader.settings.kind.recognizes line.text = true := isBuiltin
    have place : (start.moved line []).cursor.state = line.place name := rfl
    simp only [settleLines, goes, if_true, place, hexec, Outcome.after_mk]
  rw [apply, settled]
  refine ⟨rfl, rfl, ?_⟩
  rw [tableOf, List.append_nil, Outcome.mapState_mk, Scanner.unlogged_append, shows]
  exact List.append_nil shown

/-- A load ends at a line that is not built-in. -/
theorem loadLines_ordinary (loader : PropertiesLoader) (resources : Resources) (name : Text)
    (s : Store) {line : Line} (ahead : List Line)
    (ordinary : Kind.records.recognizes line.text = false) {u : Text} {t : Store}
    {shown : List Event}
    (surfaced : (surface loader.settings (line.place name) line
      { registry := s.registry.ensure globalsLabel }).ComesTo (.ok u) t shown) :
    (loader.loadLines resources name (line :: ahead) s).ComesTo
      (.error (.notARecord (line.place name))) { t with target := s.target } shown := by
  obtain ⟨load, enter, apply⟩ := loadLines_apply loader resources name (line :: ahead) s
  obtain ⟨log, shows, hsurface⟩ := surfaced.exists_eq
  let start : Frame := { cursor := .opened name (line :: ahead) }
  let own : Store := { registry := s.registry.ensure globalsLabel }
  have settled : settleLines resources loader.settings load enter (line :: ahead) start own =
      ⟨.ok true, (⟨start, []⟩, own), []⟩ := by
    have stop : loader.settings.kind.recognizes line.text = false := ordinary
    simp only [settleLines, stop, Bool.false_eq_true, if_false]
  -- The line is surfaced, with all that is said of it, before it is refused.
  have taken : takeNext loader.settings start [] own =
      ⟨.ok (some u), (⟨start.moved line ahead, []⟩, t), log⟩ := by
    have front : takeNext loader.settings start [] own =
        let o := surface loader.settings (line.place name) line own
        ⟨o.result.map some, (⟨start.moved line ahead, []⟩, o.state), o.events⟩ := rfl
    rw [front, hsurface]
    rfl
  have result : tableOf loader.settings ⟨.ok true, (⟨start, []⟩, own), []⟩ =
      ⟨.error (.notARecord (line.place name)), t, log⟩ := by
    rw [tableOf, taken]
    rfl
  rw [apply, settled, result]
  exact ⟨rfl, rfl, shows⟩

namespace BareRecord

variable (r : BareRecord)

/-- Expansion leaves the equals sign and the blanks of a record. -/
theorem expand_payload {e : Expander} {registry : Registry} {v : Text}
    (h : e.expand registry r.value = .ok v) :
    e.expand registry r.payload = .ok ('=' :: (r.after ++ v)) := by
  rw [payload, Expander.expand_cons registry (by decide),
    Expander.expand_append registry (r.space.not_mem rfl), h]
  rfl

section

variable {settings : Settings} {line : Line} (text : line.text = r.written)
  (apart : r.before ≠ []) {s : Store} {v : Text}
  (hv : settings.expander.expand s.registry r.value = .ok v)

include text apart hv

/-- A record whose key is the keyword `print` is printed from its equals sign on. -/
theorem executeLine_print (kind : settings.kind = .records)
    (lenient : settings.expander.strict = false) (print : r.key = "print") (resources : Resources)
    (load : Text → Act Store Table) (place : Text) :
    (executeLine resources settings load place line s).ComesTo (.ok .done) s
      [.wrote (printed ('=' :: (r.after ++ v)))] := by
  have plain : splitEcho line.text = (false, line.text) := by
    rw [text]
    exact r.splitEcho_written apart (by rw [print]; decide)
  obtain ⟨whole, hwhole⟩ := Expander.expand_ok s.registry lenient line.text
  refine .bind (.onlyIf_debug ..) (.bind (quietly_surface place plain hwhole) ?_)
  rw [withoutEcho, plain, kind, text, r.builtin?_print apart print]
  refine .bind (quietly_expand _ (r.expand_payload hv)) ?_
  rw [if_neg (by simp)]
  exact ⟨rfl, rfl, rfl⟩

/-- A record whose key is the keyword `echo` is surfaced from its equals sign on, and announced. -/
theorem surface_echo (echo : r.key = "echo") (place : Text) :
    (surface settings place line s).ComesTo (.ok ('=' :: (r.after ++ v))) s
      (settings.echoOf r.payload s) := by
  have split : splitEcho line.text = (true, r.payload) := by
    rw [text, splitEcho, r.echo?_written apart, if_pos echo]
  refine .bind (.onlyIf_debug ..) ?_
  rw [announce, split, Settings.echoOf, r.expand_payload hv]
  refine .bind (quietly_expand _ (r.expand_payload hv)) ?_
  exact ⟨rfl, rfl, rfl⟩

end

/-! ### Loading -/

/-- To load a record from a stream is to load the cleaned record. -/
theorem load_stream (loader : PropertiesLoader) (resources : Resources) (name : Text) (s : Store)
    {result : Except Error Table} {t : Store} {shown : List Event}
    (loaded : (loader.loadLines resources name [⟨1, r.cleaned.written⟩] s).ComesTo result t shown) :
    (loader.load resources (.textStream name r.written) s).ComesTo result t shown := by
  obtain ⟨log, quiet, hload⟩ := loader.load_textStream resources name r.written s
  rw [hload, r.ingest_written]
  exact loaded.after quiet

section

variable (loader : PropertiesLoader) (resources : Resources) (name : Text) (s : Store)
  {line : Line} (text : line.text = r.written) {v : Text}
  (hv : loader.expander.expand (s.registry.ensure globalsLabel) r.value = .ok v)

include text hv

theorem loadLines_record (lenient : loader.expander.strict = false)
    (record : IsRecord r.written r.key r.value) {k : Text}
    (hk : loader.expander.expand (s.registry.ensure globalsLabel) r.key = .ok k) :
    (loader.loadLines resources name [line] s).ComesTo (.ok (.ofList [(k, v)]))
      { s with registry := s.registry.ensure globalsLabel } [] := by
  rw [← text] at record
  obtain ⟨whole, hwhole⟩ :=
    Expander.expand_ok (s.registry.ensure globalsLabel) lenient line.text
  exact loadLines_executed loader resources name s record.recognized fun load =>
    (executeLine_record resources rfl load (line.place name) record hk hv hwhole).comesTo

theorem loadLines_print (lenient : loader.expander.strict = false) (print : r.key = "print")
    (apart : r.before ≠ []) :
    (loader.loadLines resources name [line] s).ComesTo (.ok ∅)
      { s with registry := s.registry.ensure globalsLabel }
      [.wrote (printed ('=' :: (r.after ++ v)))] := by
  have isBuiltin : Kind.records.recognizes line.text = true := by
    rw [text]
    exact r.recognizes_print apart print
  exact loadLines_executed loader resources name s isBuiltin fun load =>
    r.executeLine_print text apart hv rfl lenient print resources load (line.place name)

theorem loadLines_echo (echo : r.key = "echo") (apart : r.before ≠ []) :
    let after : Store := { s with registry := s.registry.ensure globalsLabel }
    (loader.loadLines resources name [line] s).ComesTo (.error (.notARecord (line.place name)))
      after (loader.settings.echoOf r.payload after) := by
  have ordinary : Kind.records.recognizes line.text = false := by
    rw [text]
    exact r.recognizes_echo apart echo
  exact loadLines_ordinary loader resources name s [] ordinary
    (r.surface_echo text apart hv echo (line.place name))

end

end BareRecord

/-- **Blanks around an equals sign.** A record without quotes, loaded from a stream, makes the
table of its expanded key and its expanded value, whose runs of blanks are squeezed, and shows
nothing. So it does with any blanks around its equals sign, but for two keys: with blanks behind
it, `print` prints what follows and defines nothing, and `echo` announces what follows, which is
no record and ends the load. -/
theorem blanks_around_equals (loader : PropertiesLoader) (lenient : loader.expander.strict = false)
    (resources : Resources) (name : Text) (s : Store) (r : BareRecord) :
    let o := loader.load resources (.textStream name r.written) s
    let after : Store := { s with registry := s.registry.ensure globalsLabel }
    let line : Line := ⟨1, r.cleaned.written⟩
    ∃ k v, loader.expander.expand s.registry r.key = .ok k ∧
      loader.expander.expand s.registry (Text.squeeze r.value) = .ok v ∧
      (r.before = [] ∨ r.key ≠ "print" ∧ r.key ≠ "echo" →
        o.ComesTo (.ok (.ofList [(k, v)])) after []) ∧
      (r.before ≠ [] → r.key = "print" →
        o.ComesTo (.ok ∅) after [.wrote (printed ('=' :: (Text.squeeze r.after ++ v)))]) ∧
      (r.before ≠ [] → r.key = "echo" →
        o.ComesTo (.error (.notARecord (line.place name))) after
          (loader.settings.echoOf r.cleaned.payload after)) := by
  intro o after line
  have same (t : Text) : loader.expander.expand (s.registry.ensure globalsLabel) t =
      loader.expander.expand s.registry t :=
    Expander.expand_congr (fun name => Registry.lookup_ensure ..) t
  obtain ⟨k, hk⟩ := Expander.expand_ok s.registry lenient r.key
  obtain ⟨v, hv⟩ := Expander.expand_ok s.registry lenient (Text.squeeze r.value)
  have seenKey := (same r.key).trans hk
  have seenValue : loader.expander.expand (s.registry.ensure globalsLabel) r.cleaned.value = .ok v :=
    (same (Text.squeeze r.value)).trans hv
  have apart (h : r.before ≠ []) : r.cleaned.before ≠ [] := Text.squeeze_eq_nil_iff.not.mpr h
  have text : line.text = r.cleaned.written := rfl
  refine ⟨k, v, hk, hv, fun free => ?_, fun h print => ?_, fun h echo => ?_⟩
  · have record : IsRecord r.cleaned.written r.key r.cleaned.value := by
      by_cases tight : r.before = []
      · exact r.cleaned.isRecord_of_tight (Text.squeeze_eq_nil_iff.mpr tight)
      · obtain ⟨print, echo⟩ := free.resolve_left tight
        exact r.cleaned.isRecord_of_apart (apart tight) print echo
    exact r.load_stream loader resources name s
      (r.cleaned.loadLines_record loader resources name s text seenValue lenient record seenKey)
  · exact r.load_stream loader resources name s
      (r.cleaned.loadLines_print loader resources name s text seenValue lenient print (apart h))
  · exact r.load_stream loader resources name s
      (r.cleaned.loadLines_echo loader resources name s text seenValue echo (apart h))

/-- A value with a reference and a run of blanks, behind an equals sign with blanks around it and
without; and the two keys that are keywords. -/
theorem blanks_around_equals_alike :
    let s : Store := { registry := ⟨[("hosts", ⟨[("h", "db")]⟩)]⟩ }
    let o (t : Text) := ({} : PropertiesLoader).load {} (.textStream "s" t) s
    let table : Table := ⟨[("host", "db = 80")]⟩
    (o "host=$\x7bh\x7d =  80").result = .ok table ∧
      (o "host = $\x7bh\x7d =  80").result = .ok table ∧
      Event.unlogged (o "host = $\x7bh\x7d =  80").events = [] ∧
      Event.unlogged (o "print = $\x7bh\x7d =  80").events = [.wrote "= db = 80 "] ∧
      (o "echo = $\x7bh\x7d =  80").result =
        .error (.notARecord (Line.place ⟨1, "echo = $\x7bh\x7d = 80"⟩ "s")) := by
  intro s o table
  let record (key : Text) (writable : WritableKey key) (gap : Text) (h : Gap gap) : BareRecord :=
    ⟨key, "$\x7bh\x7d =  80", gap, gap, writable, by decide +kernel, h, h⟩
  have key : ({} : Expander).expand s.registry "host" = .ok "host" := by decide +kernel
  have value : ({} : Expander).expand s.registry (Text.squeeze "$\x7bh\x7d =  80") =
      .ok "db = 80" := by decide +kernel
  obtain ⟨k, v, hk, hv, tight, -⟩ := blanks_around_equals {} rfl {} "s" s
    (record "host" (by decide +kernel) [] (by decide))
  obtain rfl := Except.ok.inj (key.symm.trans hk)
  obtain rfl := Except.ok.inj (value.symm.trans hv)
  obtain ⟨k, v, hk, hv, spaced, -⟩ := blanks_around_equals {} rfl {} "s" s
    (record "host" (by decide +kernel) [' '] (by decide))
  obtain rfl := Except.ok.inj (key.symm.trans hk)
  obtain rfl := Except.ok.inj (value.symm.trans hv)
  obtain ⟨-, v, -, hv, -, print, -⟩ := blanks_around_equals {} rfl {} "s" s
    (record "print" (by decide +kernel) [' '] (by decide))
  obtain rfl := Except.ok.inj (value.symm.trans hv)
  obtain ⟨-, -, -, -, -, -, echo⟩ := blanks_around_equals {} rfl {} "s" s
    (record "echo" (by decide +kernel) [' '] (by decide))
  have apart : [' '] ≠ [] := by simp
  have loaded := spaced (.inr ⟨by decide, by decide⟩)
  exact ⟨(tight (.inl rfl)).result, loaded.result, loaded.shown, (print apart rfl).shown,
    (echo apart rfl).result⟩

/-- With the key `print`, blanks around the equals sign make another line of a record. -/
theorem blanks_around_equals_print :
    let o (t : Text) := ({} : PropertiesLoader).load {} (.textStream "s" t) {}
    WritableKey "print" ∧ BareValue "x" ∧
      (o "print=x").result = .ok ⟨[("print", "x")]⟩ ∧
      (o "print = x").result = .ok ∅ ∧ Event.unlogged (o "print = x").events = [.wrote "= x "] := by
  decide +kernel

end CommandScript
