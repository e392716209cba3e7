import CommandScript.Proofs.NestedChains
import CommandScript.Proofs.OptionalForms
import CommandScript.Proofs.TidyLines

/-!
# Lines that are read

Every line that a scanner reads is a line of the store of some text, in whatever source of its chain
the line stands. Such a line is not blank, and it does not become so without its echo keyword,
because a payload begins with a character that is not blank.
-/

namespace CommandScript

theorem allBlank_withoutEcho {t : Text} (written : Text.allBlank t = false) :
    Text.allBlank (withoutEcho t) = false := by
  rw [withoutEcho, splitEcho]
  split
  · rename_i bare echoed
    obtain ⟨payload, long, -⟩ := Form.echo?_eq_some_iff.mp echoed
    have nonempty : bare ≠ [] := by
      rintro rfl
      simp at long
    obtain ⟨c, rest, rfl⟩ := List.exists_cons_of_ne_nil nonempty
    have solid := (Form.spaced_of_payload? payload nonempty).solid
    exact Text.allBlank_eq_false List.mem_cons_self (by simpa using solid)
  · exact written

/-- A line of a store is not blank. -/
theorem Line.Stored.written {line : Line} (h : line.Stored) : Text.allBlank line.text = false := by
  obtain ⟨how, separator, raw, mem⟩ := h
  obtain ⟨-, -, rawLine, -, record, -, cleaned⟩ := exists_record_of_mem mem
  obtain ⟨c, inside, solid⟩ := (tidy_of_clean? cleaned).written
  exact Text.allBlank_eq_false inside solid

/-- Nor is it without its echo keyword. -/
theorem Line.Stored.bare_written {line : Line} (h : line.Stored) :
    Text.allBlank (withoutEcho line.text) = false :=
  allBlank_withoutEcho h.written

def Cursor.Stored (c : Cursor) : Prop := ∀ line ∈ c.lines, line.Stored

theorem Settings.stored_linesOf (settings : Settings) (raw : Text) :
    ∀ line ∈ settings.linesOf raw, line.Stored := fun _ mem => ⟨_, _, raw, mem⟩

theorem Cursor.stored_unopened : Cursor.unopened.Stored := fun _ mem => by cases mem

theorem Cursor.Stored.current? {c : Cursor} (h : c.Stored) {line : Line}
    (taken : c.current? = some line) : line.Stored :=
  h line (Cursor.mem_of_current? taken)

/-- A source that a line has opened holds lines of a store. -/
theorem Frame.Includes.stored {resources : Resources} {settings : Settings} {f g : Frame}
    (h : f.Includes resources settings g) : g.cursor.Stored := by
  obtain ⟨line, -, start, opens, same⟩ := h
  rw [Cursor.Stored, same]
  cases opens with
  | missing => exact Cursor.stored_unopened
  | opened => exact settings.stored_linesOf _

theorem Chain.Linked.stored {resources : Resources} {settings : Settings} {f : Frame}
    {included : List Frame} (h : Chain.Linked resources settings ⟨f, included⟩)
    (first : f.cursor.Stored) : ∀ g ∈ f :: included, g.cursor.Stored := by
  induction included generalizing f with
  | nil => exact List.forall_mem_singleton.mpr first
  | cons g rest ih =>
    obtain ⟨includes, linked⟩ := Chain.linked_cons.mp h
    exact List.forall_mem_cons.mpr ⟨first, ih linked includes.stored⟩

/-- So does every source of a scanner. -/
theorem Scanner.Nests.stored {resources : Resources} {sc : Scanner} (h : sc.Nests resources) :
    ∀ f ∈ sc.chain.frame :: sc.chain.included, f.cursor.Stored := by
  obtain ⟨raw, lines⟩ := h.text
  refine h.linked.stored ?_
  rw [Cursor.Stored, lines]
  exact sc.settings.stored_linesOf raw

end CommandScript
