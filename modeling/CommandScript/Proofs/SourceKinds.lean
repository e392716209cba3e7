import CommandScript.Proofs.Encoding
import CommandScript.Proofs.Inclusion
import CommandScript.Proofs.LineEnds

/-!
# Kinds of sources

A text can come from a file, a named text, bytes or a stream, or it can be the source
itself. On the way each kind decodes, drops marks and translates line ends at other places
and in another order. Ingestion makes up for all that: what a text is ingested to depends on
the text alone, and for a file on the text with its line ends read as line feeds.
-/

namespace CommandScript

namespace Line

/-- What a text is ingested to depends on its normal form. -/
theorem ingestBy_congr {t u : Text} (h : normalize t = normalize u) (how : Cleaning)
    (split : Text → List Text) : ingestBy how split t = ingestBy how split u := by
  simp only [ingestBy, keptBy, numbered, h]

theorem ingestBy_mark (how : Cleaning) (split : Text → List Text) (t : Text) :
    ingestBy how split ('\uFEFF' :: t) = ingestBy how split t :=
  ingestBy_congr (normalize_mark t) how split

/-- However many marks stand in front, none is left. -/
theorem ingestBy_marks (how : Cleaning) (split : Text → List Text) (marks : Nat) (t : Text) :
    ingestBy how split (List.replicate marks '\uFEFF' ++ t) = ingestBy how split t := by
  induction marks with
  | zero => rfl
  | succ marks ih =>
    rw [List.replicate_succ, List.cons_append, ingestBy_mark]
    exact ih

end Line

/-! ### Sources that hold a text -/

/-- The source holds the text as it is: by name, as itself, in bytes or in a stream. -/
inductive Source.Holds (resources : Resources) (t : Text) : Source → Prop where
  | object {name : Text} (found : resources.objects.find? name = some t) :
    Holds resources t (.text ('!' :: name))
  /-- A text that begins with no marker is a source itself. -/
  | inline (unmarked : ¬ Marked t) : Holds resources t (.text t)
  | bytes : Holds resources t (.bytes (Utf8.encode t))
  | textStream (name : Text) : Holds resources t (.textStream name t)
  | byteStream (name : Text) : Holds resources t (.byteStream name (Utf8.encode t))

/-- The source names or is the path of a file that holds the bytes of the text. -/
inductive Source.InFile (resources : Resources) (t : Text) : Source → Prop where
  | reference {name : Text} (valid : '\x00' ∉ (Path.ofText name).toText)
      (found : resources.files.find (Path.ofText name) = .found (Utf8.encode t)) :
    InFile resources t (.text ('@' :: name))
  | path {spelling : Text} (valid : '\x00' ∉ (Path.ofText spelling).toText)
      (found : resources.files.find (Path.ofText spelling) = .found (Utf8.encode t)) :
    InFile resources t (.path spelling)

section

open Line

variable {resources : Resources} {t : Text} {source : Source}

/-- Reading a source that holds a text gives the text, but for marks in front. -/
theorem Source.Holds.read (h : source.Holds resources t) :
    ∃ name raw, source.read resources = .ok (name, raw) ∧ normalize raw = normalize t := by
  have decoded : ∃ raw, decode (Utf8.encode t) = .ok raw ∧ normalize raw = normalize t := by
    obtain ⟨u, hu, rfl | rfl⟩ := Utf8.decodeMarked_encode t
    · exact ⟨t, by rw [decode, hu]; rfl, rfl⟩
    · exact ⟨u, by rw [decode, hu]; rfl, (normalize_mark u).symm⟩
  cases h with
  | @object name found => exact ⟨'!' :: name, t, by simp only [Source.read, found], rfl⟩
  | inline unmarked =>
    refine ⟨t, t, ?_, rfl⟩
    simp only [Source.read]
    split
    case h_1 name => exact absurd ⟨name, .inl rfl⟩ unmarked
    case h_2 name => exact absurd ⟨name, .inr rfl⟩ unmarked
    case h_3 => rfl
  | bytes =>
    obtain ⟨raw, hraw, same⟩ := decoded
    exact ⟨bytesName, raw, by rw [Source.read, hraw]; rfl, same⟩
  | textStream name => exact ⟨name, t, rfl, rfl⟩
  | byteStream name =>
    obtain ⟨raw, hraw, same⟩ := decoded
    exact ⟨name, raw, by rw [Source.read, hraw]; rfl, same⟩

/-- Reading a file gives its text with line ends read as line feeds, but for marks in
front. -/
theorem Source.InFile.read (h : source.InFile resources t) :
    ∃ name raw, source.read resources = .ok (name, raw) ∧
      normalize raw = normalize (universalNewlines t) := by
  have opened {path : Path} (valid : '\x00' ∉ path.toText)
      (found : resources.files.find path = .found (Utf8.encode t)) (reference : Text) :
      ∃ raw, resources.files.read path reference = .ok raw ∧
        normalize raw = normalize (universalNewlines t) := by
    have clean : path.toText.contains '\x00' = false := by simpa using valid
    have read {u : Text} (hu : Utf8.decodeMarked (Utf8.encode t) = .ok u) :
        resources.files.read path reference = .ok (universalNewlines u) := by
      simp only [FileTree.read, clean, found, Utf8.decodeFile_encode, hu, Bool.false_eq_true,
        if_false]
    obtain ⟨u, hu, rfl | rfl⟩ := Utf8.decodeMarked_encode t
    · exact ⟨_, read hu, rfl⟩
    · refine ⟨_, read hu, ?_⟩
      rw [universalNewlines_cons (by decide), normalize_mark]
  cases h with
  | @reference name valid found =>
    obtain ⟨raw, hraw, same⟩ := opened valid found ('@' :: name)
    exact ⟨_, raw, by rw [Source.read, hraw]; rfl, same⟩
  | @path spelling valid found =>
    obtain ⟨raw, hraw, same⟩ := opened valid found (Path.ofText spelling).toText
    exact ⟨_, raw, by rw [Source.read, hraw]; rfl, same⟩

variable {σ : Type}

/-- Opening a source ingests what reading it gives. -/
theorem result_openLinesBy (how : Cleaning) (split : Text → List Text) (verbose : Bool) (s : σ)
    {name raw : Text} (hread : source.read resources = .ok (name, raw)) :
    (openLinesBy resources source how split verbose s).result =
      .ok (name, ingestBy how split raw) := by
  simp only [openLinesBy, Act.bind_apply, Act.emitAll_apply, hread, Act.ofExcept_ok]
  rfl

/-- **The kind of a source does not matter.** However records are cleaned and raw lines fall
into them (by the places of a separator, or by any other rule): all sources that hold a text
other than in a file have the same lines, those of the text. A file that holds it, by name or
by path, has the lines of the text with its line ends read as line feeds, and so has every
source that holds that text. Where no carriage return stands alone, all these lines are the
same. Byte order marks in front of the text, however many, change nothing for any kind. -/
theorem source_kind_irrelevant (resources : Resources) (t : Text) (how : Cleaning)
    (split : Text → List Text) (verbose : Bool) (s : σ) :
    let lines (source : Source) : Except Error (List Line) :=
      (openLinesBy resources source how split verbose s).result.map (·.2)
    let u := universalNewlines t
    let marked (marks : Nat) (t : Text) : Text := List.replicate marks '\uFEFF' ++ t
    (∀ source : Source, source.InFile resources t ∨ source.Holds resources u →
        lines source = .ok (ingestBy how split u)) ∧
      (∀ source : Source, source.Holds resources t → lines source = .ok (ingestBy how split t)) ∧
      (ReturnsJoined t → ∀ source : Source, source.InFile resources t ∨ source.Holds resources t →
        lines source = .ok (ingestBy how split t)) ∧
      ∀ (marks : Nat) (source : Source),
        (source.InFile resources (marked marks t) → lines source = .ok (ingestBy how split u)) ∧
          (source.Holds resources (marked marks t) →
            lines source = .ok (ingestBy how split t)) := by
  intro lines u marked
  have held {t : Text} {source : Source} (h : source.Holds resources t) :
      lines source = .ok (ingestBy how split t) := by
    obtain ⟨name, raw, hread, same⟩ := h.read
    simp only [lines, result_openLinesBy how split verbose s hread, ingestBy_congr same]
    rfl
  have filed {t : Text} {source : Source} (h : source.InFile resources t) :
      lines source = .ok (ingestBy how split (universalNewlines t)) := by
    obtain ⟨name, raw, hread, same⟩ := h.read
    simp only [lines, result_openLinesBy how split verbose s hread, ingestBy_congr same]
    rfl
  refine ⟨fun source h => ?_, fun source h => held h, fun joined source h => ?_,
    fun marks source => ⟨fun h => ?_, fun h => ?_⟩⟩
  · rcases h with h | h
    · exact filed h
    · exact held h
  · rcases h with h | h
    · rw [filed h, ingestBy_congr (normalize_universalNewlines joined)]
    · exact held h
  · rw [filed h, universalNewlines_marks, ingestBy_marks]
  · rw [held h, ingestBy_marks]

def everywhere (t : Text) : Resources where
  files := { entries := [(["plain".toList], .file (Utf8.encode t)),
    (["dir".toList, "marked".toList], .file (Utf8.encode ('\uFEFF' :: t)))] }
  objects := .ofList [("named".toList, '\uFEFF' :: t)]

/-- Characters of one to four bytes, a comment and an empty line, from eight sources. -/
theorem source_kind_irrelevant_everywhere :
    let t : Text := "k=é€𝄞 # ;\r\n\r\nm=1;n=2"
    let lines (source : Source) : Except Error (List Line) :=
      (openLinesBy (everywhere t) source {} (records (some [';'])) false ()).result.map (·.2)
    let marked : Text := '\uFEFF' :: t
    ∀ source ∈ [Source.text "@plain", .path ".//plain", .text "@dir/marked", .text "!named",
        .text marked, .bytes (Utf8.encode marked), .textStream "s" marked,
        .byteStream "s" (Utf8.encode marked)],
      lines source = .ok [⟨1, "k=é€𝄞"⟩, ⟨3, "m=1"⟩, ⟨3, "n=2"⟩] := by
  intro t lines marked
  obtain ⟨-, -, joined, front⟩ :=
    source_kind_irrelevant (everywhere t) t {} (records (some [';'])) false ()
  have ingested : ingestBy {} (records (some [';'])) t =
      [⟨1, "k=é€𝄞"⟩, ⟨3, "m=1"⟩, ⟨3, "n=2"⟩] := by
    decide +kernel
  have translated : ingestBy {} (records (some [';'])) (universalNewlines t) =
      [⟨1, "k=é€𝄞"⟩, ⟨3, "m=1"⟩, ⟨3, "n=2"⟩] := by
    decide +kernel
  rw [ingested] at joined front
  rw [translated] at front
  have plain (spelling : Text) (h : Path.ofText spelling = Path.ofText "plain") :
      '\x00' ∉ (Path.ofText spelling).toText ∧ (everywhere t).files.find (Path.ofText spelling) =
        .found (Utf8.encode t) := by
    rw [h]
    decide +kernel
  have deep : '\x00' ∉ (Path.ofText "dir/marked").toText ∧
      (everywhere t).files.find (Path.ofText "dir/marked") = .found (Utf8.encode marked) := by
    decide +kernel
  have unmarked : ¬ Marked marked := by
    rintro ⟨name, h | h⟩
    · simp [marked] at h
    · simp [marked] at h
  simp only [List.forall_mem_cons]
  refine ⟨?_, ?_, ?_, ?_, ?_, ?_, ?_, ?_, by simp⟩
  · exact joined (by decide +kernel) _ (.inl (.reference (plain "plain" rfl).1 (plain _ rfl).2))
  · exact joined (by decide +kernel) _
      (.inl (.path (plain ".//plain" (by decide)).1 (plain _ (by decide)).2))
  · exact (front 1 _).1 (.reference deep.1 deep.2)
  · exact (front 1 _).2 (.object rfl)
  · exact (front 1 _).2 (.inline unmarked)
  · exact (front 1 _).2 .bytes
  · exact (front 1 _).2 (.textStream "s")
  · exact (front 1 _).2 (.byteStream "s")

end

end CommandScript
