import CommandScript.Proofs.Splitting
import CommandScript.Source

/-!
# Marks and line ends

Ingestion drops byte order marks in front and joins carriage returns to line feeds; reading a
file translates all line ends before that. Where no carriage return stands alone the
translation changes nothing, and on a text that is already normal neither does anything.
-/

namespace CommandScript

namespace Line

theorem normalize_mark (t : Text) : normalize ('\uFEFF' :: t) = normalize t := by
  simp [normalize]

/-- Every carriage return stands before a line feed. -/
def ReturnsJoined (t : Text) : Prop :=
  ∀ front back, t = front ++ '\r' :: back → back.head? = some '\n'

theorem ReturnsJoined.tail {c : Char} {t : Text} (h : ReturnsJoined (c :: t)) : ReturnsJoined t :=
  fun front back ht => h (c :: front) back (by rw [ht]; rfl)

theorem ReturnsJoined.dropWhile {t : Text} (h : ReturnsJoined t) (p : Char → Bool) :
    ReturnsJoined (t.dropWhile p) := by
  induction t with
  | nil => exact h
  | cons c t ih =>
    rw [List.dropWhile_cons]
    split
    · exact ih h.tail
    · exact h

/-- A text without lone carriage returns reads the same in either way. -/
theorem universalNewlines_eq {t : Text} (h : ReturnsJoined t) :
    universalNewlines t = joinReturns t := by
  fun_induction universalNewlines t with
  | case1 => rfl
  | case2 rest ih => rw [joinReturns, ih h.tail.tail]
  | case3 rest hlone ih =>
    have follows := h [] rest rfl
    cases rest with
    | nil => cases follows
    | cons c rest =>
      obtain rfl : c = '\n' := Option.some.inj follows
      exact absurd rfl (hlone rest)
  | case4 c rest hpair hlone ih =>
    rw [joinReturns, ih h.tail]
    exact hpair

theorem not_mem_universalNewlines (t : Text) : '\r' ∉ universalNewlines t := by
  fun_induction universalNewlines t with
  | case1 => simp
  | case2 rest ih => simpa using ih
  | case3 rest hlone ih => simpa using ih
  | case4 c rest hpair hlone ih =>
    have other : '\r' ≠ c := fun same => hlone same.symm
    simpa [other] using ih

/-- Joining line ends brings no new character. -/
theorem mem_of_mem_joinReturns {c : Char} {t : Text} (h : c ∈ joinReturns t) : c ∈ t := by
  fun_induction joinReturns t with
  | case1 => exact h
  | case2 rest ih =>
    rcases List.mem_cons.mp h with rfl | h
    · simp
    · exact List.mem_cons_of_mem _ (List.mem_cons_of_mem _ (ih h))
  | case3 d rest hne ih =>
    rcases List.mem_cons.mp h with rfl | h
    · simp
    · exact List.mem_cons_of_mem _ (ih h)

/-- Joining returns changes only a carriage return and line feed. -/
theorem joinReturns_eq_self {t : Text} (h : '\r' ∉ t ∨ '\n' ∉ t) : joinReturns t = t := by
  fun_induction joinReturns t with
  | case1 => rfl
  | case2 rest ih => simp at h
  | case3 c rest hpair ih =>
    rw [ih (h.imp (fun free hmem => free (List.mem_cons_of_mem c hmem))
      (fun free hmem => free (List.mem_cons_of_mem c hmem)))]

/-- Exactly then joining returns leaves none. -/
theorem returnsJoined_iff (t : Text) : ReturnsJoined t ↔ '\r' ∉ joinReturns t := by
  constructor
  · intro h
    rw [← universalNewlines_eq h]
    exact not_mem_universalNewlines t
  · intro h
    fun_induction joinReturns t with
    | case1 =>
      intro front back ht
      simp at ht
    | case2 rest ih =>
      have follows : ReturnsJoined rest := ih fun hmem => h (List.mem_cons_of_mem _ hmem)
      rintro (_ | ⟨_, _ | ⟨_, front⟩⟩) back ht
      · obtain rfl := List.tail_eq_of_cons_eq ht
        rfl
      · simp at ht
      · exact follows front back (by simpa using congrArg (List.drop 2) ht)
    | case3 c rest hpair ih =>
      have follows : ReturnsJoined rest := ih fun hmem => h (List.mem_cons_of_mem _ hmem)
      rintro (_ | ⟨_, front⟩) back ht
      · obtain rfl := List.head_eq_of_cons_eq ht
        simp at h
      · exact follows front back (List.tail_eq_of_cons_eq ht)

instance (t : Text) : Decidable (ReturnsJoined t) := decidable_of_iff _ (returnsJoined_iff t).symm

theorem universalNewlines_cons {c : Char} (hc : c ≠ '\r') (t : Text) :
    universalNewlines (c :: t) = c :: universalNewlines t := by
  rw [universalNewlines]
  · rintro rest rfl
    exact absurd rfl hc
  · rintro rfl
    exact absurd rfl hc

theorem universalNewlines_marks (marks : Nat) (t : Text) :
    universalNewlines (List.replicate marks '\uFEFF' ++ t) =
      List.replicate marks '\uFEFF' ++ universalNewlines t := by
  induction marks with
  | zero => rfl
  | succ marks ih =>
    rw [List.replicate_succ, List.cons_append, universalNewlines_cons (by decide), ih]
    rfl

/-- Marks in front and line ends do not get in each other's way. -/
theorem dropMarks_universalNewlines (t : Text) :
    (universalNewlines t).dropWhile (· = '\uFEFF') =
      universalNewlines (t.dropWhile (· = '\uFEFF')) := by
  induction t with
  | nil => rfl
  | cons c t ih =>
    by_cases hc : c = '\uFEFF'
    · subst hc
      rw [universalNewlines_cons (by decide)]
      simpa using ih
    · have kept : (c :: t).dropWhile (· = '\uFEFF') = c :: t := by simp [hc]
      rw [kept]
      unfold universalNewlines
      split <;> simp_all

/-- Translating line ends first changes nothing where no carriage return stands alone. -/
theorem normalize_universalNewlines {t : Text} (h : ReturnsJoined t) :
    normalize (universalNewlines t) = normalize t := by
  rw [normalize, dropMarks_universalNewlines,
    joinReturns_eq_self (.inl (not_mem_universalNewlines _)), universalNewlines_eq (h.dropWhile _),
    normalize]

/-! ### Normal texts -/

/-- Part of a line that ends in no carriage return stays as it is. -/
theorem joinReturns_append {line : Text} (free : '\n' ∉ line) (ends : line.getLast? ≠ some '\r')
    (rest : Text) : joinReturns (line ++ rest) = line ++ joinReturns rest := by
  induction line with
  | nil => rfl
  | cons c line ih =>
    have free : '\n' ∉ line := fun h => free (List.mem_cons_of_mem c h)
    cases line with
    | nil =>
      rw [List.singleton_append, joinReturns]
      · rfl
      · rintro u rfl
        simp at ends
    | cons d line =>
      have other : '\n' ≠ d := fun same => free (same ▸ List.mem_cons_self)
      rw [List.cons_append, joinReturns, ih free (by simpa using ends)]
      · rfl
      · rintro u rfl h
        exact other (List.cons.inj h).1.symm

/-- Lines that end in no carriage return are joined by line feeds alone. -/
theorem joinReturns_joinWith {lines : List Text} (free : ∀ line ∈ lines, '\n' ∉ line)
    (ends : ∀ line ∈ lines, line.getLast? ≠ some '\r') :
    joinReturns (Text.joinWith ['\n'] lines) = Text.joinWith ['\n'] lines := by
  fun_induction Text.joinWith ['\n'] lines with
  | case1 => rfl
  | case2 t => exact joinReturns_eq_self (.inr (free t (List.mem_singleton_self t)))
  | case3 t rest hne ih =>
    rw [List.forall_mem_cons] at free ends
    rw [List.append_assoc, joinReturns_append free.1 ends.1, List.singleton_append]
    exact congrArg (fun u => t ++ '\n' :: u) (ih free.2 ends.2)

/-- No byte order mark is left in front of a normalised text. -/
theorem head_normalize (raw : Text) : (normalize raw).head? ≠ some '\uFEFF' := by
  have front : ∀ t : Text, t.head? ≠ some '\uFEFF' → (joinReturns t).head? ≠ some '\uFEFF' := by
    intro t ht
    fun_cases joinReturns t
    · simp
    · simp
    · simpa using ht
  refine front _ fun h => ?_
  have := List.head?_dropWhile_not (· = '\uFEFF') raw
  simp_all

theorem normalize_eq_self {t : Text} (mark : t.head? ≠ some '\uFEFF') (joined : joinReturns t = t) :
    normalize t = t := by
  have kept : t.dropWhile (· = '\uFEFF') = t := by
    cases t with
    | nil => rfl
    | cons c t =>
      rw [List.dropWhile_cons, if_neg]
      simpa using mark
  rw [normalize, kept, joined]

end Line

end CommandScript
