import Mathlib.Data.List.Basic
import CommandScript.Session

/-!
# Memory

What is written can be read back, and nothing else changes: a write reaches the cells
that it is given and new ones. So walkers that share no cell do not see each other's
changes.
-/

namespace CommandScript

/-! ### Walkers in memory -/

theorem framesOf_cells (f : Frame) (label : Label) (rest : List Cell) :
    framesOf (f.cells label ++ rest) = (f, label) :: framesOf rest := by
  obtain ⟨⟨name, lines, reading⟩, echoed, replayRequested⟩ := f
  cases reading <;> rfl

theorem framesOf_flatMap (frames : List Frame) :
    framesOf (frames.flatMap (·.cells {})) = frames.map (·, {}) := by
  induction frames with
  | nil => rfl
  | cons f frames ih => rw [List.flatMap_cons, framesOf_cells, ih, List.map_cons]

/-- The cells of a walker make the walker. -/
theorem Walker.ofCells_cells (w : Walker) : Walker.ofCells w.family w.cells = w := by
  cases w with
  | reader r =>
    have frames := framesOf_cells { cursor := r.cursor } {} []
    rw [List.append_nil] at frames
    simp only [family, cells, ofCells, frames]
  | classifier c =>
    have frames := framesOf_cells { cursor := c.reader.cursor } c.label []
    rw [List.append_nil] at frames
    simp only [family, cells, ofCells, frames]
  | scanner sc =>
    simp only [family, cells, ofCells, framesOf_flatMap, List.map_cons, List.map_map]
    exact congrArg (fun included => scanner ⟨sc.settings, sc.chain.frame, included⟩)
      (List.map_id sc.chain.included)

/-! ### Writing -/

namespace Memory

variable {m : Memory} {addresses : List Nat} {contents : List Cell}

structure Owned (m : Memory) (addresses : List Nat) : Prop where
  nodup : addresses.Nodup
  bound : ∀ a ∈ addresses, a < m.length

theorem owned_nil (m : Memory) : Owned m [] := ⟨List.nodup_nil, List.forall_mem_nil _⟩

/-- What is owned stays so in a memory that has at least as many cells. -/
theorem Owned.mono {m' : Memory} (h : Owned m addresses) (hle : m.length ≤ m'.length) :
    Owned m' addresses :=
  ⟨h.nodup, fun a ha => Nat.lt_of_lt_of_le (h.bound a ha) hle⟩

/-- Writing at the first of owned addresses leaves the others owned. -/
theorem Owned.tail {a : Nat} (h : Owned m (a :: addresses)) (c : Cell) :
    a ∉ addresses ∧ a < m.length ∧ Owned (m.set a c) addresses := by
  obtain ⟨hnot, hnodup⟩ := List.nodup_cons.mp h.nodup
  refine ⟨hnot, h.bound a List.mem_cons_self, hnodup, fun b hb => ?_⟩
  rw [List.length_set]
  exact h.bound b (List.mem_cons_of_mem a hb)

theorem length_le_write (m : Memory) (addresses : List Nat) (contents : List Cell) :
    m.length ≤ (write m addresses contents).1.length := by
  fun_induction write m addresses contents with
  | case1 m addresses => exact Nat.le_refl _
  | case2 m c contents after addresses hwrite ih =>
    rw [hwrite, List.length_append] at ih
    exact Nat.le_of_succ_le ih
  | case3 m a addresses c contents after addresses' hwrite ih =>
    rw [hwrite, List.length_set] at ih
    exact ih

/-- A write leaves alone what it is not given. -/
theorem getElem?_write {b : Nat} (hb : b < m.length) (hnot : b ∉ addresses) :
    (write m addresses contents).1[b]? = m[b]? := by
  fun_induction write m addresses contents with
  | case1 m addresses => rfl
  | case2 m c contents after addresses hwrite ih =>
    rw [hwrite] at ih
    have grown : b < (m ++ [c]).length := by
      rw [List.length_append]
      omega
    rw [ih grown hnot, List.getElem?_append_left hb]
  | case3 m a addresses c contents after addresses' hwrite ih =>
    obtain ⟨hne, hrest⟩ := List.ne_and_not_mem_of_not_mem_cons hnot
    rw [hwrite] at ih
    rw [ih (by rwa [List.length_set]) hrest, List.getElem?_set_ne hne.symm]

/-- The addresses of the contents are among those given, or new. -/
theorem mem_write {b : Nat} (h : b ∈ (write m addresses contents).2) :
    b ∈ addresses ∨ m.length ≤ b := by
  fun_induction write m addresses contents with
  | case1 m addresses => cases h
  | case2 m c contents after addresses hwrite ih =>
    rw [hwrite, List.length_append] at ih
    rcases List.mem_cons.mp h with rfl | hmem
    · exact Or.inr (Nat.le_refl _)
    · rcases ih hmem with hnil | hle
      · cases hnil
      · exact Or.inr (Nat.le_of_succ_le hle)
  | case3 m a addresses c contents after addresses' hwrite ih =>
    rw [hwrite, List.length_set] at ih
    rcases List.mem_cons.mp h with rfl | hmem
    · exact Or.inl List.mem_cons_self
    · exact (ih hmem).imp_left (List.mem_cons_of_mem a)

/-- The addresses of the contents are owned where those given were. -/
theorem owned_write (h : Owned m addresses) :
    Owned (write m addresses contents).1 (write m addresses contents).2 := by
  fun_induction write m addresses contents with
  | case1 m addresses => exact owned_nil m
  | case2 m c contents after addresses hwrite ih =>
    have rest := ih (owned_nil _)
    have fresh := @mem_write (m ++ [c]) [] contents m.length
    have grown := length_le_write (m ++ [c]) [] contents
    rw [hwrite] at rest fresh grown
    rw [List.length_append] at fresh grown
    refine ⟨List.nodup_cons.mpr ⟨fun hmem => ?_, rest.nodup⟩, fun a ha => ?_⟩
    · rcases fresh hmem with hnil | hle
      · cases hnil
      · exact absurd hle (by simp)
    · rcases List.mem_cons.mp ha with rfl | hmem
      · exact Nat.lt_of_succ_le grown
      · exact rest.bound a hmem
  | case3 m a addresses c contents after addresses' hwrite ih =>
    obtain ⟨hnot, inside, howned⟩ := h.tail c
    have rest := ih howned
    have kept := @mem_write (m.set a c) addresses contents a
    have grown := length_le_write (m.set a c) addresses contents
    rw [hwrite] at rest kept grown
    rw [List.length_set] at kept grown
    refine ⟨List.nodup_cons.mpr ⟨fun hmem => ?_, rest.nodup⟩, fun b hb => ?_⟩
    · rcases kept hmem with hold | hle
      · exact hnot hold
      · exact absurd inside (Nat.not_lt_of_le hle)
    · rcases List.mem_cons.mp hb with rfl | hmem
      · exact Nat.lt_of_lt_of_le inside grown
      · exact rest.bound b hmem

theorem read_cons {a : Nat} {c : Cell} (h : m[a]? = some c) (addresses : List Nat) :
    m.read (a :: addresses) = c :: m.read addresses :=
  List.filterMap_cons_some h

/-- Reading depends on the cells at the addresses alone. -/
theorem read_congr {m' : Memory} (h : ∀ a ∈ addresses, m'[a]? = m[a]?) :
    m'.read addresses = m.read addresses :=
  List.filterMap_congr h

/-- What is written can be read back. -/
theorem read_write (contents : List Cell) (h : Owned m addresses) :
    (write m addresses contents).1.read (write m addresses contents).2 = contents := by
  fun_induction write m addresses contents with
  | case1 m addresses => rfl
  | case2 m c contents after addresses hwrite ih =>
    have rest := ih (owned_nil _)
    have first := @getElem?_write (m ++ [c]) [] contents m.length (by simp) (by simp)
    rw [hwrite] at rest first
    rw [List.getElem?_concat_length] at first
    rw [read_cons first, rest]
  | case3 m a addresses c contents after addresses' hwrite ih =>
    obtain ⟨hnot, inside, howned⟩ := h.tail c
    have rest := ih howned
    have first := @getElem?_write (m.set a c) addresses contents a
      (by rwa [List.length_set]) hnot
    rw [hwrite] at rest first
    rw [List.getElem?_set_self inside] at first
    rw [read_cons first, rest]

end Memory

end CommandScript
