import Mathlib.Data.List.Basic
import CommandScript.Registry

/-!
# Ordered dictionaries

An insertion reaches one key: the others keep their values, and every key keeps its place.
What a registry does to a table is an insertion under its label.
-/

namespace CommandScript

namespace Ordered

variable {α : Type} {d : Ordered α} {key : Text}

/-- A known key stays where it is, a new one comes last. -/
theorem keys_insertEntry (key : Text) (value : α) (entries : List (Text × α)) :
    (insertEntry key value entries).map (·.1) =
      if key ∈ entries.map (·.1) then entries.map (·.1) else entries.map (·.1) ++ [key] := by
  induction entries with
  | nil => rfl
  | cons entry rest ih =>
    obtain ⟨k, v⟩ := entry
    by_cases same : k = key
    · simp [insertEntry, same]
    · have other : key ≠ k := fun h => same h.symm
      by_cases known : key ∈ rest.map (·.1)
      · rw [if_pos known] at ih
        simp [insertEntry, same, other, ih, List.mem_map.mp known]
      · rw [if_neg known] at ih
        have unknown : key ∉ ((k, v) :: rest).map (·.1) := by
          rw [List.map_cons, List.mem_cons]
          exact not_or.mpr ⟨other, known⟩
        rw [insertEntry, if_neg same, List.map_cons, ih, if_neg unknown]
        rfl

/-- An insertion leaves the keys in their order. -/
theorem keys_insert (d : Ordered α) (key : Text) (value : α) :
    d.keys <+: (d.insert key value).keys := by
  rw [keys, keys, insert, keys_insertEntry]
  split
  · exact List.prefix_refl _
  · exact List.prefix_append _ _

theorem find?_insertEntry (key : Text) (value : α) (entries : List (Text × α)) (other : Text) :
    ((insertEntry key value entries).find? (·.1 = other)).map (·.2) =
      if other = key then some value else (entries.find? (·.1 = other)).map (·.2) := by
  induction entries with
  | nil =>
    by_cases same : other = key
    · simp [insertEntry, same]
    · have differ : key ≠ other := fun h => same h.symm
      simp [insertEntry, same, differ]
  | cons entry rest ih =>
    obtain ⟨k, v⟩ := entry
    by_cases first : k = key
    · subst first
      by_cases same : other = k
      · simp [insertEntry, same]
      · have differ : k ≠ other := fun h => same h.symm
        simp [insertEntry, same, differ]
    · rw [insertEntry, if_neg first]
      by_cases found : k = other
      · have differ : other ≠ key := found ▸ first
        simp [found, differ]
      · simpa [found] using ih

/-- An insertion gives its key the value, and no other key another one. -/
theorem find?_insert (d : Ordered α) (key : Text) (value : α) (other : Text) :
    (d.insert key value).find? other = if other = key then some value else d.find? other :=
  find?_insertEntry key value d.entries other

/-- To give a key the value that it has changes nothing. -/
theorem insert_of_find? {value : α} (found : d.find? key = some value) :
    d.insert key value = d := by
  obtain ⟨entries⟩ := d
  refine congrArg Ordered.mk ?_
  induction entries with
  | nil => cases found
  | cons entry rest ih =>
    obtain ⟨k, v⟩ := entry
    by_cases first : k = key
    · have same : v = value := by simpa [find?, first] using found
      rw [insertEntry, if_pos first, same]
    · have later : find? ⟨rest⟩ key = some value := by simpa [find?, first] using found
      rw [insertEntry, if_neg first, ih later]

theorem keys_insertAll (d : Ordered α) (entries : List (Text × α)) :
    d.keys <+: (d.insertAll entries).keys := by
  induction entries generalizing d with
  | nil => exact List.prefix_refl _
  | cons entry rest ih => exact (d.keys_insert entry.1 entry.2).trans (ih _)

theorem contains_eq_false_iff : d.contains key = false ↔ d.find? key = none := by
  rw [contains, Option.isSome_eq_false_iff, Option.isNone_iff_eq_none]

theorem contains_iff_mem_keys : d.contains key = true ↔ key ∈ d.keys := by
  rw [contains, find?, Option.isSome_map, List.find?_isSome, keys, List.mem_map]
  simp only [decide_eq_true_eq]

end Ordered

namespace Registry

variable {r : Registry} {label : Text}

/-- A label without a table reads as the empty one. -/
theorem table_of_new (new : r.contains label = false) : r.table label = ∅ := by
  rw [table, Ordered.contains_eq_false_iff.mp new]
  rfl

theorem table_insert (r : Registry) (label : Text) (t : Table) (other : Text) :
    table (r.insert label t) other = if other = label then t else r.table other := by
  rw [table, Ordered.find?_insert]
  split <;> rfl

/-- Making sure of a table changes no table. -/
theorem table_ensure (r : Registry) (label other : Text) :
    (r.ensure label).table other = r.table other := by
  rw [ensure]
  split
  · rfl
  · rename_i new
    rw [table_insert]
    split
    · rename_i same
      rw [same, table_of_new (by simpa using new)]
    · rfl

/-- To load nothing under a label is to make sure of its table. -/
theorem merge_empty (r : Registry) (label : Text) : r.merge label ∅ = r.ensure label := by
  have nothing : (r.table label).insertAll (∅ : Table).entries = r.table label := rfl
  rw [merge, nothing, ensure]
  split
  · rename_i known
    obtain ⟨t, found⟩ := Option.isSome_iff_exists.mp known
    have same : r.table label = t := by rw [table, found, Option.getD_some]
    rw [same, Ordered.insert_of_find? found]
  · rename_i new
    rw [table_of_new (by simpa using new)]

end Registry

end CommandScript
