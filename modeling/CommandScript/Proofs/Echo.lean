import CommandScript.Proofs.Cleaning
import CommandScript.Proofs.Loading
import CommandScript.Proofs.Splitting

/-!
# The echo keyword

A line with an echo keyword in front is, without that keyword, the line itself. So whatever is
decided by the line without its keyword is decided alike, with the keyword and without.
-/

namespace CommandScript

/-! ### Lines of a store -/

/-- Records hold nothing but what their raw line holds. -/
theorem Line.mem_of_mem_splitFrom {separator : Text} {c : Char} {skip : Nat} {t record : Text}
    (h : record ∈ splitFrom separator skip t) (mem : c ∈ record) : c ∈ t := by
  fun_induction splitFrom separator skip t generalizing record with
  | case1 skip =>
    rw [List.mem_singleton.mp h] at mem
    exact mem
  | case2 skip d rest ih => exact List.mem_cons_of_mem _ (ih h mem)
  | case3 d rest starts ih =>
    rcases List.mem_cons.mp h with rfl | h
    · cases mem
    · exact List.mem_cons_of_mem _ (ih h mem)
  | case4 d rest starts split ih =>
    rw [List.mem_singleton.mp h] at mem
    rw [List.mem_singleton.mp mem]
    exact List.mem_cons_self
  | case5 d rest starts piece pieces split ih =>
    rw [split] at ih
    rcases List.mem_cons.mp h with rfl | h
    · rcases List.mem_cons.mp mem with rfl | mem
      · exact List.mem_cons_self
      · exact List.mem_cons_of_mem _ (ih List.mem_cons_self mem)
    · exact List.mem_cons_of_mem _ (ih (List.mem_cons_of_mem _ h) mem)

theorem Line.mem_of_mem_records {separator : Option Text} {c : Char} {t record : Text}
    (h : record ∈ records separator t) (mem : c ∈ record) : c ∈ t := by
  match separator with
  | none =>
    rw [List.mem_singleton.mp h] at mem
    exact mem
  | some [] =>
    simp only [records, List.cons_append, List.mem_cons, List.mem_append, List.mem_map,
      List.not_mem_nil, or_false] at h
    rcases h with rfl | ⟨d, hd, rfl⟩ | rfl
    · cases mem
    · rwa [List.mem_singleton.mp mem]
    · cases mem
  | some (d :: separator) => exact mem_of_mem_splitFrom h mem

theorem Text.mem_of_mem_squeeze {c : Char} (space : c ≠ ' ') {t : Text} (h : c ∈ squeeze t) :
    c ∈ t := by
  induction t using squeeze_induction with
  | nil => exact h
  | pair b d t hb hd ih =>
    rw [squeeze_pair hb hd] at h
    rcases List.mem_cons.mp (ih h) with same | mem
    · exact absurd same space
    · exact List.mem_cons_of_mem _ (List.mem_cons_of_mem _ mem)
  | single d t alone ih =>
    rw [squeeze_cons alone] at h
    rcases List.mem_cons.mp h with rfl | h
    · exact List.mem_cons_self
    · exact List.mem_cons_of_mem _ (ih h)

/-- Cleaning brings no characters but spaces. -/
theorem Line.mem_of_mem_clean? {how : Cleaning} {c : Char} (space : c ≠ ' ') {record t : Text}
    (h : clean? how record = some t) (mem : c ∈ t) : c ∈ record := by
  have cut {u : Text} (hu : c ∈ withoutComment u) : c ∈ u := by
    obtain ⟨rest, whole⟩ := exists_withoutComment u
    rw [whole]
    exact List.mem_append_left _ hu
  have squeezed {u : Text} (hu : c ∈ (if how.compress then Text.squeeze u else u)) : c ∈ u := by
    split at hu
    · exact Text.mem_of_mem_squeeze space hu
    · exact hu
  have trimmed {u : Text} (hu : c ∈ (if how.trim then Text.trim u else u)) : c ∈ u := by
    split at hu
    · obtain ⟨blanks, -, whole⟩ := Text.exists_trimRight (Text.trimLeft u)
      have left : c ∈ Text.trimLeft u := by
        rw [whole]
        exact List.mem_append_left _ hu
      exact (List.dropWhile_sublist isBlank).subset left
    · exact hu
  simp only [clean?] at h
  generalize hline : (if how.compress then Text.squeeze record else record) = line at h
  split at h
  · cases h
  · split at h
    · cases h
    · obtain rfl := Option.some.inj h
      have inside := cut (trimmed mem)
      rw [← hline] at inside
      exact squeezed inside

def Line.Stored (line : Line) : Prop :=
  ∃ (how : Cleaning) (separator : Option Text) (raw : Text), line ∈ ingest how separator raw

/-- A raw line ends at a line feed, so no line of a store holds one. -/
theorem Line.Stored.singleLine {line : Line} (h : line.Stored) : '\n' ∉ line.text := by
  obtain ⟨how, separator, raw, h⟩ := h
  intro mem
  rw [ingest_eq] at h
  obtain ⟨p, hp, h⟩ := List.mem_flatMap.mp h
  obtain ⟨t, ht, rfl⟩ := List.mem_map.mp h
  obtain ⟨record, hrecord, cleaned⟩ := List.mem_filterMap.mp ht
  have inside : '\n' ∈ p.1 := mem_of_mem_records hrecord (mem_of_mem_clean? (by decide) cleaned mem)
  exact Text.not_mem_of_mem_splitAt (List.fst_mem_of_mem_zipIdx hp) inside

/-! ### Putting the keyword in front -/

/-- A text of at least two characters, with no blank at either end and no echo keyword of its
own. -/
structure Text.Echoable (t : Text) : Prop where
  long : 2 ≤ t.length
  front : t.head?.any isBlank = false
  back : t.getLast?.any isBlank = false
  unechoed : (splitEcho t).1 = false

instance (t : Text) : Decidable t.Echoable :=
  decidable_of_iff (2 ≤ t.length ∧ t.head?.any isBlank = false ∧ t.getLast?.any isBlank = false ∧
      (splitEcho t).1 = false)
    ⟨fun ⟨long, front, back, unechoed⟩ => ⟨long, front, back, unechoed⟩,
      fun h => ⟨h.long, h.front, h.back, h.unechoed⟩⟩

def Line.withEcho (line : Line) : Line := { line with text := "echo " ++ line.text }

theorem splitEcho_of_unechoed {t : Text} (h : (splitEcho t).1 = false) :
    splitEcho t = (false, t) := by
  revert h
  rw [splitEcho]
  split
  · rintro ⟨⟩
  · intro _
    rfl

/-- The keyword and what follows it are told apart. -/
theorem splitEcho_withEcho {line : Line} (h : line.text.Echoable) (single : '\n' ∉ line.text) :
    splitEcho line.withEcho.text = (true, line.text) := by
  have after : Form.afterKeyword? "echo" line.withEcho.text = some line.text := by
    have rest : Text.trimLeft line.text = line.text := Text.trimLeft_eq_self h.front
    have found : Text.after? "echo" (Text.trimLeft line.withEcho.text) = some (' ' :: line.text) := by
      rw [Text.after?_eq_some_iff, Text.trimLeft_eq_self rfl]
      rfl
    rw [Form.afterKeyword?, found]
    show (if isBlank ' ' then some (Text.trimLeft line.text) else none) = some line.text
    rw [if_pos isBlank_space, rest]
  have back (c : Char) (last : line.text.getLast? = some c) : isBlank c = false := by
    simpa [last] using h.back
  have payload : Form.payload? "echo" line.withEcho.text = some line.text := by
    rw [Form.payload?, after, Option.map_some, Text.trimRight_eq_self back]
  have fits : Form.echo? line.withEcho.text = some line.text := by
    rw [Form.echo?, payload, Option.filter_some]
    simp [h.long, single]
  rw [splitEcho, fits]

theorem withoutEcho_withEcho {line : Line} (h : line.text.Echoable) (single : '\n' ∉ line.text) :
    withoutEcho line.withEcho.text = withoutEcho line.text := by
  rw [withoutEcho, withoutEcho, splitEcho_withEcho h single, splitEcho_of_unechoed h.unechoed]

/-- A scanner takes both lines for a built-in or neither. -/
theorem recognizes_withEcho (kind : Kind) {line : Line} (h : line.text.Echoable)
    (single : '\n' ∉ line.text) :
    kind.recognizes line.withEcho.text = kind.recognizes line.text := by
  simp only [Kind.recognizes, withoutEcho_withEcho h single]

end CommandScript
