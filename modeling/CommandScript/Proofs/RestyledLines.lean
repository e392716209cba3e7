import Mathlib.Data.List.SplitBy
import CommandScript.Proofs.Cleaning

/-!
# Restyled lines

How blanks are treated decides how a line looks, not whether it is there. Squeezing moves every
place of a record, but the scan for a comment passes over a run of blanks as over one space, also
behind a backslash, so it cuts at corresponding places. So all settings keep the same records, and
the lines of any setting are those of the plain one with their blanks squeezed and then trimmed.
-/

namespace CommandScript

/-! ### Runs of blanks -/

namespace Text

/-- The runs of blanks of a text, as long as they are, and its other characters one by one. -/
def stretches (t : Text) : List Text := t.splitBy fun b c => isBlank b && isBlank c

def shortened (stretch : Text) : Text := if 2 ≤ stretch.length then [' '] else stretch

theorem squeeze_blanks {t : Text} (long : 2 ≤ t.length) (blank : ∀ c ∈ t, isBlank c) :
    squeeze t = [' '] := by
  induction t using squeeze_induction with
  | nil => simp at long
  | pair b c t hb hc ih =>
    rw [squeeze_pair hb hc]
    cases t with
    | nil => rfl
    | cons d t =>
      refine ih (by simp) (List.forall_mem_cons.mpr ⟨rfl, ?_⟩)
      exact (List.forall_mem_cons.mp (List.forall_mem_cons.mp blank).2).2
  | single c t alone ih =>
    obtain ⟨hc, rest⟩ := List.forall_mem_cons.mp blank
    cases t with
    | nil => simp at long
    | cons d t =>
      have solid : isBlank d = false := by simpa using alone hc
      have hd := (List.forall_mem_cons.mp rest).1
      rw [solid] at hd
      cases hd

/-- In a run of two or more, every character is a blank. -/
theorem blank_of_isChain {b c : Char} {t : Text}
    (chain : (b :: c :: t).IsChain fun b c => (isBlank b && isBlank c) = true) :
    ∀ d ∈ b :: c :: t, isBlank d := by
  induction t generalizing b c with
  | nil => simpa using chain
  | cons d t ih =>
    obtain ⟨front, rest⟩ := List.isChain_cons_cons.mp chain
    exact List.forall_mem_cons.mpr ⟨(Bool.and_eq_true_iff.mp front).1, ih rest⟩

/-- Squeezing shortens every run of blanks and leaves all else. -/
theorem squeeze_eq_stretches (t : Text) : squeeze t = t.stretches.flatMap shortened := by
  obtain ⟨whole, filled, chained, apart⟩ := List.splitBy_eq_iff.mp (Eq.refl t.stretches)
  generalize t.stretches = pieces at whole filled chained apart ⊢
  subst whole
  -- The pieces are taken one by one; a run of blanks has no blank behind it.
  induction pieces with
  | nil => rfl
  | cons piece pieces ih =>
    rw [List.mem_cons, not_or] at filled
    obtain ⟨nonempty, filled⟩ := filled
    obtain ⟨chain, chained⟩ := List.forall_mem_cons.mp chained
    have rest := ih filled chained apart.of_cons
    have behind : ∀ c, piece.getLast? = some c → isBlank c →
        pieces.flatten.head?.any isBlank = false := by
      intro c last blank
      cases pieces with
      | nil => rfl
      | cons next pieces =>
        obtain ⟨_, held, ends⟩ := (List.isChain_cons_cons.mp apart).1
        cases next with
        | nil => exact absurd rfl held
        | cons d next =>
          rw [List.getLast?_eq_some_getLast (Ne.symm nonempty), Option.some.injEq] at last
          simpa [last, blank] using ends
    rw [List.flatten_cons, List.flatMap_cons, ← rest]
    match piece, nonempty with
    | [c], _ => exact squeeze_cons (behind c rfl)
    | b :: c :: run, _ =>
      have blank := blank_of_isChain chain
      have front := behind _ (List.getLast?_eq_some_getLast (by simp)) (blank _ (List.getLast_mem _))
      rw [squeeze_append front, squeeze_blanks (by simp) blank, shortened, if_pos (by simp)]

end Text

/-! ### Lines -/

namespace Line

open Text

def plain : Cleaning := { trim := false, compress := false }

def restyled (how : Cleaning) (t : Text) : Text :=
  let t := if how.compress then t.stretches.flatMap shortened else t
  if how.trim then trim t else t

/-- Any setting cleans a record to what the plain one does, restyled, and leaves nothing of it
where that leaves nothing. -/
theorem clean?_restyled (how : Cleaning) (record : Text) :
    clean? how record = (clean? plain record).map (restyled how) := by
  have plainly : squeezed plain (bare record) = bare record := rfl
  rw [clean?_eq, clean?_eq plain, plainly]
  dsimp only
  rw [allBlank_squeezed]
  split
  · rfl
  · have style : squeezed how (bare record) =
        if how.compress then (bare record).stretches.flatMap shortened else bare record := by
      rw [squeezed, ← squeeze_eq_stretches]
    rw [style]
    rfl

/-- **Restyled lines.** However records are cleaned, and with any separator or none: the lines of a
text are those of the plain setting, in the same order and with the same numbers, each restyled.
They come from the same records. -/
theorem lines_restyled (how : Cleaning) (separator : Option Text) (raw : Text) :
    ingest how separator raw =
        (ingest plain separator raw).map (fun line => ⟨line.number, restyled how line.text⟩) ∧
      (kept how separator raw).map (·.1) = (kept plain separator raw).map (·.1) := by
  have restyles : kept how separator raw = (kept plain separator raw).map fun (record, line) =>
      (record, ⟨line.number, restyled how line.text⟩) := by
    simp only [kept, keptBy, List.map_flatMap, List.map_filterMap, clean?_restyled how,
      Option.map_map]
    rfl
  constructor
  · simp only [ingest, restyles, List.map_map]
    rfl
  · rw [restyles, List.map_map]
    rfl

/-- A backslash escapes the first blank of a run or the space in its place, never the marker
behind it; and a marker in quotes stays one that is no comment. -/
example :
    let raw : Text := " \\  # a\n'b  #'  c # d"
    ingest plain none raw = [⟨1, " \\"⟩, ⟨2, "'b  #'  c"⟩] ∧
      ingest {} none raw = [⟨1, "\\"⟩, ⟨2, "'b #' c"⟩] := by
  decide +kernel

end Line

end CommandScript
