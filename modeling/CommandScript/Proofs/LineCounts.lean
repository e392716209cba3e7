import CommandScript.Proofs.Cleaning
import CommandScript.Proofs.Inclusion
import CommandScript.Proofs.LineEnds
import CommandScript.CommandLine.Perform

/-!
# How many lines a script surfaces

A text has at most one line more than characters, and a line surfaces itself or lines of what it
includes. So the number of lines that a script surfaces is bounded by the size of all texts and
by how deep they nest.
-/

namespace CommandScript

/-! ### Lengths of texts -/

theorem le_foldl_map {α : Type} (f : α → Nat) {x : α} {l : List α} (h : x ∈ l)
    (start : Nat) : f x ≤ (l.map f).foldl (· + ·) start := by
  have start_le (l : List Nat) (start : Nat) : start ≤ l.foldl (· + ·) start := by
    induction l generalizing start with
    | nil => exact Nat.le_refl start
    | cons m l ih => exact Nat.le_trans (Nat.le_add_right start m) (ih (start + m))
  induction l generalizing start with
  | nil => cases h
  | cons y l ih =>
    rcases List.mem_cons.mp h with rfl | h
    · exact Nat.le_trans (Nat.le_add_left (f x) start) (start_le _ (start + f x))
    · exact ih h (start + f y)

namespace Line

theorem length_normalize_le (raw : Text) : (normalize raw).length ≤ raw.length := by
  have joined (t : Text) : (joinReturns t).length ≤ t.length := by
    fun_induction joinReturns t with
    | case1 => exact Nat.le_refl 0
    | case2 rest ih => simp only [List.length_cons]; omega
    | case3 c rest other ih => simp only [List.length_cons]; omega
  exact Nat.le_trans (joined _) (List.dropWhile_sublist _).length_le

/-- Without a separator, a raw line gives at most one line. -/
theorem length_ingest_le (how : Cleaning) (raw : Text) :
    (ingest how none raw).length ≤ raw.length + 1 := by
  have single (rawLines : List (Text × Nat)) :
      (rawLines.flatMap fun p => (texts how none p.1).map (Line.mk p.2)).length ≤
        rawLines.length := by
    induction rawLines with
    | nil => exact Nat.le_refl 0
    | cons p rawLines ih =>
      have one : (texts how none p.1).length ≤ 1 := List.length_filterMap_le (clean? how) [p.1]
      simp only [List.flatMap_cons, List.length_append, List.length_map, List.length_cons]
      omega
  have split := Text.length_splitAt '\n' (normalize raw)
  have breaks : (normalize raw).count '\n' ≤ (normalize raw).length := List.count_le_length
  have normal := length_normalize_le raw
  rw [ingest_eq]
  refine Nat.le_trans (single _) ?_
  rw [List.length_zipIdx, rawLines]
  omega

end Line

theorem length_universalNewlines_le (raw : Text) : (universalNewlines raw).length ≤ raw.length := by
  fun_induction universalNewlines raw with
  | case1 => exact Nat.le_refl 0
  | case2 rest ih => simp only [List.length_cons]; omega
  | case3 rest other ih => simp only [List.length_cons]; omega
  | case4 c rest other other' ih => simp only [List.length_cons]; omega

namespace Utf8

theorem length_decodeFrom_le {position : Nat} {bytes : List UInt8} {t : Text}
    (h : decodeFrom position bytes = .ok t) : t.length ≤ bytes.length := by
  have step {decoded : Except Fault Text} {n : Nat} {c : Char} {t : Text}
      (ih : ∀ {u}, decoded = .ok u → u.length ≤ n) (h : decoded.map (c :: ·) = .ok t) :
      t.length ≤ n + 1 := by
    cases decoded with
    | error fault => cases h
    | ok u =>
      obtain rfl := Except.ok.inj h
      exact Nat.succ_le_succ (ih rfl)
  fun_induction decodeFrom position bytes generalizing t
  all_goals first
    | (cases h; done)
    | (cases h; exact Nat.zero_le _)
    | have shorter := step ‹_› h
      simp only [List.length_cons] at shorter ⊢
      omega

theorem length_decodeFile_le {bytes : List UInt8} {t : Text} (h : decodeFile bytes = .ok t) :
    t.length ≤ bytes.length := by
  have marked {bytes : List UInt8} (h : decodeMarked bytes = .ok t) : t.length ≤ bytes.length := by
    unfold decodeMarked at h
    split at h
    · rename_i rest
      have shorter := length_decodeFrom_le h
      simp only [List.length_cons]
      omega
    · exact length_decodeFrom_le h
  unfold decodeFile at h
  split at h
  · cases h
    exact Nat.zero_le _
  · cases h
    exact Nat.zero_le _
  · exact marked h

end Utf8

/-- No file or named text is longer than all of them together. -/
theorem Resources.length_le_size {resources : Resources} {raw : Text}
    (h : raw ∈ resources.contents) : raw.length ≤ resources.size := by
  have file {bytes : List UInt8} (h : fileText? bytes = some raw) : raw.length ≤ bytes.length := by
    unfold fileText? at h
    split at h
    · obtain rfl := Option.some.inj h
      exact Nat.le_trans (length_universalNewlines_le _) (Utf8.length_decodeFile_le ‹_›)
    · cases h
  simp only [contents, List.mem_append, List.mem_filterMap, List.mem_map] at h
  simp only [size, FileTree.size]
  obtain (⟨entry, mem, h⟩ | ⟨entry, mem, h⟩) | ⟨entry, mem, rfl⟩ := h
  · obtain ⟨place, bytes | _⟩ := entry
    · refine Nat.le_trans ?_ (Nat.le_trans (le_foldl_map _ mem 0)
        (Nat.le_trans (Nat.le_add_right ..) (Nat.le_add_right ..)))
      exact file h
    · cases h
  · refine Nat.le_trans ?_ (Nat.le_trans (le_foldl_map _ mem 0)
      (Nat.le_trans (Nat.le_add_left ..) (Nat.le_add_right ..)))
    exact file h
  · refine Nat.le_trans ?_ (Nat.le_trans (le_foldl_map _ mem 0) (Nat.le_add_left ..))
    exact Nat.le_refl _

/-- A source is as long as a file or a named text, or it is the text itself. -/
theorem Source.length_read_le {resources : Resources} {t name raw : Text}
    (h : (Source.text t).read resources = .ok (name, raw)) :
    raw.length ≤ resources.size + t.length := by
  by_cases marked : Marked t
  · have content := Resources.length_le_size (mem_contents marked h)
    omega
  · simp only [Source.read] at h
    split at h
    · exact absurd ⟨_, .inl rfl⟩ marked
    · exact absurd ⟨_, .inr rfl⟩ marked
    · cases h
      exact Nat.le_add_left ..

/-! ### Walks -/

section

variable {resources : Resources} {site : Site}

theorem length_andThen_le {w : Walked} {next : Store → Walked} {m n : Nat}
    (hw : w.lines.length ≤ m) (hnext : ∀ s, (next s).lines.length ≤ n) :
    (w.andThen next).lines.length ≤ m + n := by
  obtain ⟨lines, _ | e, s, events⟩ := w
  · have more := hnext s
    simp only [Walked.andThen, List.length_append]
    exact Nat.add_le_add hw more
  · exact Nat.le_trans hw (Nat.le_add_right m n)

theorem length_walkLines_le {load : Text → Act Store Table}
    {visit : Text → Frame → Store → Walked} {name : Text} {lines : List Line} {bound : Nat}
    (h : ∀ line ∈ lines, ∀ s,
      (walkLine resources site load visit name line s).lines.length ≤ bound) (s : Store) :
    (walkLines resources site load visit name lines s).lines.length ≤ lines.length * bound := by
  induction lines generalizing s with
  | nil => exact Nat.zero_le _
  | cons line rest ih =>
    rw [walkLines, List.length_cons, Nat.succ_mul, Nat.add_comm]
    exact length_andThen_le (h line List.mem_cons_self s)
      (ih fun line hline => h line (List.mem_cons_of_mem _ hline))

/-- A line surfaces itself, or what it includes does. -/
theorem length_walkLine_le {load : Text → Act Store Table}
    {visit : Text → Frame → Store → Walked} {line : Line} {bound : Nat} (pos : 1 ≤ bound)
    (hload : ∀ reference, Names site.settings line.text site.settings.forRecords reference →
      ∀ t, (load reference t).result ≠ .error .tooDeep)
    (hvisit : ∀ place g t, Opens resources site.settings line.text g →
      (visit place g t).lines.length ≤ bound) (name : Text) (s : Store) :
    (walkLine resources site load visit name line s).lines.length ≤ bound := by
  simp only [walkLine]
  split
  · have executed := @executeLine_opens resources site.settings load line hload (line.place name) s
    rcases hexec : executeLine resources site.settings load (line.place name) line s with
      ⟨e | effect, t, events⟩
    · exact Nat.zero_le _
    · have opened := executed.value hexec
      cases effect with
      | entered g => exact hvisit (line.place name) g t opened
      | _ => exact Nat.zero_le _
  · rcases surface site.settings (line.place name) line s with ⟨e | text, t, events⟩
    · exact Nat.zero_le _
    · dsimp only
      split
      · exact Nat.zero_le _
      · exact pos

/-- A walk surfaces at most as many lines as a text has, to the power of its depth. -/
theorem length_walk_le {depth bound : Nat} {raw : Text} (pos : 1 ≤ bound)
    (h : Shallow resources depth site.settings raw)
    (contents : ∀ raw ∈ resources.contents, (site.settings.linesOf raw).length ≤ bound)
    (here : (site.settings.linesOf raw).length ≤ bound) (name : Text) (s : Store) :
    (walk resources depth site name (site.settings.linesOf raw) s).lines.length ≤
      Nat.pow bound depth := by
  induction depth generalizing site raw name s with
  | zero => exact h.elim
  | succ depth ih =>
    have pos' : 1 ≤ Nat.pow bound depth := Nat.one_le_pow _ _ pos
    have power : Nat.pow bound (depth + 1) = bound * Nat.pow bound depth := Nat.mul_comm ..
    rw [power]
    refine Nat.le_trans (length_walkLines_le (fun line hline s => ?_) s)
      (Nat.mul_le_mul_right _ here)
    refine length_walkLine_le pos' (fun reference hnames => ?_) (fun place g t hopens => ?_) name s
    · exact loadByWalk_bounded fun name' raw' hread s =>
        walk_shallow ((h line hline _ reference hnames).2 name' raw' hread) name' s
    · cases hopens with
      | missing hnames =>
        cases depth with
        | zero => exact Nat.zero_le _
        | succ depth => exact Nat.zero_le _
      | @opened _ name' raw' hnames hread =>
        obtain ⟨-, hshallow⟩ := h line hline _ _ hnames
        exact @ih (site.within place) raw' (hshallow name' raw' hread) contents
          (contents raw' (mem_contents hnames.marked hread)) name' t

end

/-! ### Scripts -/

/-- The bound on the lines of a script is above what it can surface. -/
theorem CommandLine.Execution.length_walk_lt {resources : Resources} {e : Execution}
    (acyclic : Acyclic resources e.settings) {name raw : Text}
    (hread : e.script.source.read resources = .ok (name, raw)) (s : Store) :
    (walk resources resources.depthBound { settings := e.settings } name (e.settings.linesOf raw)
      s).lines.length < e.script.lineBound resources := by
  have size : raw.length ≤ resources.size + e.script.text.length := by
    by_cases inline : e.script.inline
    · rw [Script.source, if_pos inline] at hread
      exact Source.length_read_le hread
    · rw [Script.source, if_neg inline] at hread
      have content := Resources.length_le_size (mem_contents ⟨_, .inl rfl⟩ hread)
      omega
  have lines (raw : Text) : (e.settings.linesOf raw).length ≤ raw.length + 1 :=
    Line.length_ingest_le _ raw
  have whole := @length_walk_le resources { settings := e.settings } resources.depthBound
    (resources.size + e.script.text.length + 1) raw (Nat.le_add_left ..)
    (shallow_of_acyclic acyclic raw)
    (fun raw hraw => by
      have content := Resources.length_le_size hraw
      have split := lines raw
      exact Nat.le_trans split (by omega))
    (Nat.le_trans (lines raw) (by omega)) name s
  have deep : resources.depthBound ≠ 0 := by simp [Resources.depthBound]
  exact Nat.lt_of_le_of_lt whole (Nat.pow_lt_pow_left (Nat.lt_succ_self _) deep)

end CommandScript
