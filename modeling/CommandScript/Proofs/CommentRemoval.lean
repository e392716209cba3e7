import CommandScript.Proofs.Cleaning
import CommandScript.Proofs.LineEnds
import CommandScript.Proofs.Loading

/-!
# Removing comments in advance

A text can be stripped of its comments line by line before it is ingested. Without a
separator that changes nothing. A separator splits a raw line before comments are looked for,
so there a comment can hold records of its own: stripping changes nothing exactly where the
records of every comment clean to nothing.
-/

namespace CommandScript

namespace Line

open Text

/-! ### One text -/

def uncommented (raw : Text) : Text := joinWith ['\n'] ((rawLines raw).map bare)

theorem head_rawLines {raw line : Text} {lines : List Text} (h : rawLines raw = line :: lines) :
    line.head? ≠ some '\uFEFF' := by
  intro mark
  obtain ⟨rest, rfl⟩ := List.head?_eq_some_iff.mp mark
  obtain ⟨tail, joined, -⟩ := joinWith_cons ['\n'] ('\uFEFF' :: rest) lines
  rw [← h, rawLines, joinWith_splitAt] at joined
  exact head_normalize raw (by rw [joined]; rfl)

/-- A line ends in a blank after its comment is removed only if it has none. -/
theorem getLast?_bare {line : Text} {c : Char} (h : (bare line).getLast? = some c)
    (hc : isBlank c) : bare line = line := by
  revert h
  rw [bare]
  split
  · simp
  · cases hcode : codeFrom none line with
    | none => exact fun _ => withoutComment_of_none hcode
    | some code =>
      rw [withoutComment_of_code hcode]
      intro h
      rw [last_trimRight h] at hc
      cases hc

/-- The lines of a text without its comments are the lines without their comments. -/
theorem rawLines_uncommented {raw : Text}
    (ends : ∀ line ∈ rawLines raw, line.getLast? ≠ some '\r') :
    rawLines (uncommented raw) = (rawLines raw).map bare := by
  have free : ∀ line ∈ (rawLines raw).map bare, '\n' ∉ line := by
    rintro _ h feed
    obtain ⟨line, hline, rfl⟩ := List.mem_map.mp h
    obtain ⟨rest, hrest⟩ := exists_bare line
    exact not_mem_of_mem_splitAt hline (by rw [hrest]; exact List.mem_append_left rest feed)
  have stillEnds : ∀ line ∈ (rawLines raw).map bare, line.getLast? ≠ some '\r' := by
    rintro _ h last
    obtain ⟨line, hline, rfl⟩ := List.mem_map.mp h
    rw [getLast?_bare last rfl] at last
    exact ends line hline last
  have mark : (uncommented raw).head? ≠ some '\uFEFF' := by
    obtain ⟨line, lines, h⟩ := exists_splitAt_eq_cons '\n' (normalize raw)
    have front := head_rawLines h
    obtain ⟨rest, hrest⟩ := exists_bare line
    obtain ⟨tail, joined, behind⟩ := joinWith_cons ['\n'] (bare line) (lines.map bare)
    rw [uncommented, rawLines, h, List.map_cons, joined]
    cases hbare : bare line with
    | nil =>
      obtain rfl | ⟨u, rfl⟩ := behind
      · simp
      · simp
    | cons c u =>
      rw [hrest, hbare] at front
      simpa using front
  rw [rawLines, normalize_eq_self mark (joinReturns_joinWith free stillEnds), uncommented,
    splitAt_joinWith free]
  simpa [rawLines] using splitAt_ne_nil '\n' (normalize raw)

/-! ### One store -/

/-- Numbers tell the lines apart, so two readings agree only where they do on every line. -/
theorem numbered_eq_iff {f g : Text → List Text} (lines : List Text) (number : Nat) :
    ((lines.zipIdx number).flatMap fun p => (f p.1).map (Line.mk p.2)) =
        ((lines.zipIdx number).flatMap fun p => (g p.1).map (Line.mk p.2)) ↔
      ∀ line ∈ lines, f line = g line := by
  constructor
  · intro same line mem
    obtain ⟨i, found⟩ := List.mem_iff_getElem?.mp mem
    have here := congrArg (List.filter (·.number = number + i)) same
    rw [filter_numbered, filter_numbered, found] at here
    exact List.map_injective_iff.mpr (fun _ _ h => (Line.mk.inj h).2) here
  · intro same
    refine List.flatMap_congr fun p hp => ?_
    rw [same p.1 (List.fst_mem_of_mem_zipIdx hp)]

/-- Removing the comments in advance gives the same lines if and only if it does so on every
raw line. -/
theorem ingest_uncommented_iff {raw : Text} (how : Cleaning) (separator : Option Text)
    (ends : ∀ line ∈ rawLines raw, line.getLast? ≠ some '\r') :
    ingest how separator raw = ingest how separator (uncommented raw) ↔
      ∀ line ∈ rawLines raw, texts how separator line = texts how separator (bare line) := by
  rw [ingest_eq, ingest_eq, rawLines_uncommented ends, List.zipIdx_map, List.flatMap_map]
  exact numbered_eq_iff (g := fun line => texts how separator (bare line)) (rawLines raw) 1

/-! ### Separators -/

/-- Where no separator occurs in a line, its comment is removed as it is cleaned. -/
theorem texts_bare {how : Cleaning} {separator : Option Text} {line : Text}
    (whole : records separator line = [line]) :
    texts how separator line = texts how separator (bare line) := by
  obtain ⟨rest, hrest⟩ := exists_bare line
  have front : records separator (bare line) = [bare line] := by
    rw [hrest] at whole
    exact records_of_append whole
  rw [texts, texts, whole, front, List.filterMap_cons, List.filterMap_cons, clean?_bare]

def commentAt (line : Text) : Nat :=
  if isCommentLine line then 0 else (commentStart? line).getD line.length

theorem bare_eq (line : Text) :
    bare line =
      if line.drop (commentAt line) = [] then line
      else trimRight (line.take (commentAt line)) := by
  rw [bare, commentAt]
  cases h : isCommentLine line with
  | true =>
    have nonempty : line ≠ [] := by
      rintro rfl
      cases h
    simp [nonempty, trimRight]
  | false =>
    cases hcode : codeFrom none line with
    | none =>
      have start : commentStart? line = none := by
        rwa [codeFrom_eq, Option.map_eq_none_iff] at hcode
      simp [withoutComment_of_none hcode, start]
    | some code =>
      obtain ⟨comment, hline, starts⟩ := codeFrom_eq_some hcode
      have hwithout := withoutComment_of_code hcode
      rw [codeFrom_eq] at hcode
      obtain ⟨offset, start, rfl⟩ := Option.map_eq_some_iff.mp hcode
      have rest : line.drop offset ≠ [] := by
        intro nothing
        have all := List.take_append_drop offset line
        rw [nothing, List.append_nil] at all
        rw [all] at hline
        obtain rfl : comment = [] := by simpa using hline
        cases starts
      have start : commentStart? line = some offset := start
      simp [hwithout, start, rest]

/-- The records of a comment stay part of it: with what stands in front of the marker in its
record, they clean to what that alone cleans to. -/
def InertIn (how : Cleaning) (c : Char) (line : Text) : Prop :=
  let code := line.take (commentAt line)
  let comment := line.drop (commentAt line)
  let last := (Text.splitAt c code).getLastD []
  comment = [] ∨
    ((Text.splitAt c comment).modifyHead (last ++ ·)).filterMap (clean? how) =
      [trimRight last].filterMap (clean? how)

instance (how : Cleaning) (c : Char) (line : Text) : Decidable (InertIn how c line) :=
  inferInstanceAs (Decidable (_ ∨ _))

theorem splitAt_trimRight {c : Char} (hc : isBlank c = false) {t last : Text} {front : List Text}
    (h : Text.splitAt c t = front ++ [last]) :
    Text.splitAt c (trimRight t) = front ++ [trimRight last] := by
  obtain ⟨blanks, hblanks, ht⟩ := exists_trimRight t
  obtain ⟨front', last', hsplit⟩ := exists_splitAt_eq_concat c (trimRight t)
  have apart : c ∉ blanks := fun hmem => ne_of_blank (hblanks c hmem) hc rfl
  have joined := splitAt_append hsplit (splitAt_of_not_mem apart)
  rw [← ht, h] at joined
  obtain ⟨rfl, same⟩ := List.append_inj' joined rfl
  obtain rfl := List.singleton_inj.mp same
  have trimmed : trimRight last' = last' := by
    refine trimRight_eq_self fun d hd => ?_
    obtain ⟨before, hbefore⟩ := suffix_joinWith [c] front last'
    rw [← hsplit, joinWith_splitAt] at hbefore
    refine last_trimRight (t := t) ?_
    rw [← hbefore, List.getLast?_append, hd]
    rfl
  rw [hsplit, trimRight_append hblanks, trimmed]

theorem texts_bare_iff {how : Cleaning} {c : Char} (hc : isBlank c = false) (line : Text) :
    texts how (some [c]) line = texts how (some [c]) (bare line) ↔ InertIn how c line := by
  rw [texts, texts, records_char, records_char, bare_eq, InertIn]
  by_cases comment : line.drop (commentAt line) = []
  · simp [comment]
  · obtain ⟨front, last, hsplit⟩ := exists_splitAt_eq_concat c (line.take (commentAt line))
    obtain ⟨first, back, hcomment⟩ := exists_splitAt_eq_cons c (line.drop (commentAt line))
    have joined := splitAt_append hsplit hcomment
    rw [List.take_append_drop] at joined
    rw [if_neg comment, joined, splitAt_trimRight hc hsplit, hsplit, hcomment]
    simp only [comment, false_or, List.filterMap_append, List.append_cancel_left_eq,
      List.getLastD_concat, List.modifyHead_cons]

/-- **Removing comments in advance.** Let the comments of a text be removed line by line, each
raw line for itself. No raw line may end in a carriage return, which would become part of a line
end in the text that is left. Without a separator, that text has the lines of the text. With
a separator it has them if the separator occurs in no line with a comment, and in general
exactly if every raw line has the same records before and after. Where the separator is one
character that is not blank, this says that the records of each comment stay part of it. If
semicolons leave all comments so, both texts load to the same properties, with the same effects
outside the log. -/
theorem removing_comments_iff (how : Cleaning) (raw : Text)
    (ends : ∀ line ∈ rawLines raw, line.getLast? ≠ some '\r') :
    let same (separator : Option Text) : Prop :=
      ingest how separator raw = ingest how separator (uncommented raw)
    same none ∧
      (∀ separator : Option Text,
        (∀ line ∈ rawLines raw, bare line = line ∨ records separator line = [line]) →
          same separator) ∧
      (∀ separator : Option Text, same separator ↔
        ∀ line ∈ rawLines raw, texts how separator line = texts how separator (bare line)) ∧
      (∀ c : Char, isBlank c = false →
        (same (some [c]) ↔ ∀ line ∈ rawLines raw, InertIn how c line)) ∧
      ((∀ line ∈ rawLines raw, InertIn {} ';' line) →
        ∀ (loader : PropertiesLoader) (resources : Resources) (name : Text) (s : Store),
          let given := loader.load resources (.textStream name raw) s
          let stripped := loader.load resources (.textStream name (uncommented raw)) s
          stripped.result = given.result ∧ stripped.state = given.state ∧
            Event.unlogged stripped.events = Event.unlogged given.events) := by
  intro same
  have iff (separator : Option Text) : same separator ↔
      ∀ line ∈ rawLines raw, texts how separator line = texts how separator (bare line) :=
    ingest_uncommented_iff how separator ends
  refine ⟨?_, fun separator apart => ?_, iff, fun c hc => ?_, ?_⟩
  · rw [iff]
    exact fun line _ => texts_bare rfl
  · rw [iff]
    intro line hline
    rcases apart line hline with none | whole
    · rw [none]
    · exact texts_bare whole
  · rw [iff]
    exact forall₂_congr fun line _ => texts_bare_iff hc line
  · intro inert loader resources name s given stripped
    have lines : ingest {} (some [';']) raw = ingest {} (some [';']) (uncommented raw) := by
      rw [ingest_uncommented_iff {} (some [';']) ends]
      exact fun line hline => (texts_bare_iff rfl line).mpr (inert line hline)
    obtain ⟨log, quiet, hgiven⟩ := loader.load_textStream resources name raw s
    obtain ⟨log', quiet', hstripped⟩ := loader.load_textStream resources name (uncommented raw) s
    simp only [given, stripped, hgiven, hstripped, lines, Outcome.after, Scanner.unlogged_append,
      quiet, quiet', and_self]

/-- Comments that hold separators, markers and quotes, none of them a record. -/
theorem removing_comments_iff_inert :
    let raw : Text := "a=1; b='#;' // one; # \"two\r\n# c;;\n -- d=x # it's ;// over"
    (∀ line ∈ rawLines raw, line.getLast? ≠ some '\r') ∧
      (∀ line ∈ rawLines raw, InertIn {} ';' line) ∧
      uncommented raw = "a=1; b='#;'\n\n -- d=x".toList ∧
      ingest {} (some [';']) raw = ingest {} (some [';']) (uncommented raw) := by
  intro raw
  have ends : ∀ line ∈ rawLines raw, line.getLast? ≠ some '\r' := by decide +kernel
  have inert : ∀ line ∈ rawLines raw, InertIn {} ';' line := by decide +kernel
  obtain ⟨-, -, -, iff, -⟩ := removing_comments_iff {} raw ends
  exact ⟨ends, inert, by decide +kernel, (iff ';' rfl).mpr inert⟩

/-- A separator in a comment begins a record: it is kept, defines a property, or is refused. -/
theorem removing_comments_loses_record :
    let load (raw : Text) : Except Error Table :=
      (({} : PropertiesLoader).load {} (.textStream "s" raw) {}).result
    let raw : Text := "a=1 # note; b=2"
    uncommented raw = "a=1".toList ∧ ingest {} (some [';']) raw = [⟨1, "a=1"⟩, ⟨1, "b=2"⟩] ∧
      ingest {} (some [';']) (uncommented raw) = [⟨1, "a=1"⟩] ∧
      load raw = .ok (.ofList [("a", "1"), ("b", "2")]) ∧
      load (uncommented raw) = .ok (.ofList [("a", "1")]) ∧
      load "a=1 # note; more" = .error (.notARecord "ConfigFile=[s] @ line# 1 = [more]") := by
  decide +kernel

end Line

end CommandScript
