/-! The pieces of a list between the places where a separator stands. There is
one piece more than there are separators, and no piece holds one; pieces that
hold none are found again when they are joined. -/

namespace IssueTracker

def pieces {α : Type} [DecidableEq α] (sep : α) : List α → List (List α)
  | [] => [[]]
  | c :: r =>
    if c = sep then [] :: pieces sep r
    else
      match pieces sep r with
      | p :: ps => (c :: p) :: ps
      | [] => [[c]]

variable {α : Type} [DecidableEq α] {sep : α}

@[simp] theorem pieces_nil : pieces sep [] = [[]] := rfl

@[simp] theorem pieces_cons_sep (r : List α) : pieces sep (sep :: r) = [] :: pieces sep r :=
  if_pos rfl

theorem pieces_cons_of_ne {c : α} {r p : List α} {ps : List (List α)} (h : c ≠ sep)
    (hr : pieces sep r = p :: ps) : pieces sep (c :: r) = (c :: p) :: ps :=
  (if_neg h).trans (by rw [hr])

/-- There is always a first piece. -/
theorem exists_pieces_eq (sep : α) (cs : List α) : ∃ p ps, pieces sep cs = p :: ps := by
  induction cs with
  | nil => exact ⟨_, _, pieces_nil⟩
  | cons c r ih =>
    by_cases hc : c = sep
    · exact ⟨[], _, by rw [hc, pieces_cons_sep]⟩
    · obtain ⟨p, ps, hp⟩ := ih
      exact ⟨_, _, pieces_cons_of_ne hc hp⟩

theorem pieces_ne_nil (cs : List α) : pieces sep cs ≠ [] := by
  obtain ⟨p, ps, hp⟩ := exists_pieces_eq sep cs
  simp [hp]

theorem pieces_of_not_mem {p : List α} (h : sep ∉ p) : pieces sep p = [p] := by
  induction p with
  | nil => rfl
  | cons c p ih =>
    simp only [List.mem_cons, not_or] at h
    exact pieces_cons_of_ne (Ne.symm h.1) (ih h.2)

/-- What is on either side of a separator falls into pieces by itself. -/
theorem pieces_append (l r : List α) : pieces sep (l ++ sep :: r) = pieces sep l ++ pieces sep r := by
  induction l with
  | nil => exact pieces_cons_sep r
  | cons c l ih =>
    by_cases hc : c = sep
    · rw [hc, List.cons_append, pieces_cons_sep, pieces_cons_sep, ih, List.cons_append]
    · obtain ⟨p, ps, hp⟩ := exists_pieces_eq sep l
      rw [hp, List.cons_append] at ih
      rw [List.cons_append, pieces_cons_of_ne hc ih, pieces_cons_of_ne hc hp, List.cons_append]

theorem pieces_append_sep {p : List α} (r : List α) (h : sep ∉ p) :
    pieces sep (p ++ sep :: r) = p :: pieces sep r := by
  rw [pieces_append, pieces_of_not_mem h, List.singleton_append]

theorem not_mem_of_mem_pieces {cs p : List α} (h : p ∈ pieces sep cs) : sep ∉ p := by
  induction cs generalizing p with
  | nil =>
    obtain rfl : p = [] := by simpa using h
    exact List.not_mem_nil
  | cons c r ih =>
    by_cases hc : c = sep
    · rw [hc, pieces_cons_sep] at h
      rcases List.mem_cons.1 h with rfl | h
      · simp
      · exact ih h
    · obtain ⟨q, qs, hq⟩ := exists_pieces_eq sep r
      rw [pieces_cons_of_ne hc hq] at h
      rcases List.mem_cons.1 h with rfl | h
      · have := ih (hq ▸ List.mem_cons_self)
        simp [this, Ne.symm hc]
      · exact ih (hq ▸ List.mem_cons_of_mem _ h)

/-- Joining the pieces gives the text back. -/
theorem intercalate_pieces (cs : List α) : List.intercalate [sep] (pieces sep cs) = cs := by
  induction cs with
  | nil => simp
  | cons c r ih =>
    obtain ⟨p, ps, hp⟩ := exists_pieces_eq sep r
    rw [hp] at ih
    by_cases hc : c = sep
    · rw [hc, pieces_cons_sep, hp, List.intercalate_cons_cons, ih]
      rfl
    · rw [pieces_cons_of_ne hc hp]
      cases ps with
      | nil => simpa using ih
      | cons q qs => rw [List.intercalate_cons_cons] at ih ⊢; simpa using ih

/-- Pieces without a separator are found again when they are joined. -/
theorem pieces_intercalate {ps : List (List α)} (hp : ps ≠ []) (h : ∀ p ∈ ps, sep ∉ p) :
    pieces sep (List.intercalate [sep] ps) = ps := by
  induction ps with
  | nil => exact absurd rfl hp
  | cons p ps ih =>
    cases ps with
    | nil => simpa using pieces_of_not_mem (h p List.mem_cons_self)
    | cons q qs =>
      rw [List.intercalate_cons_cons, List.append_assoc, List.singleton_append,
        pieces_append_sep _ (h p List.mem_cons_self),
        ih (by simp) fun r hr => h r (List.mem_cons_of_mem _ hr)]

end IssueTracker
