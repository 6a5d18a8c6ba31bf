import IssueTracker.Proofs.Selecting

/-! In what order a list shows issues. The keys of a request compare instants, the first
key that tells two issues apart deciding; issues that no key tells apart stay in the order
in which they were filed. -/

namespace IssueTracker

section Stable

variable {α : Type} {l : List α} {a b : α} {le : α → α → Bool}

theorem pair_sublist_or (ha : a ∈ l) (hb : b ∈ l) (ne : a ≠ b) :
    [a, b].Sublist l ∨ [b, a].Sublist l := by
  induction l with
  | nil => cases ha
  | cons c l ih =>
    rcases List.mem_cons.1 ha with rfl | ha'
    · have hb' := (List.mem_cons.1 hb).resolve_left ne.symm
      exact .inl (.cons_cons _ (List.singleton_sublist.2 hb'))
    · rcases List.mem_cons.1 hb with rfl | hb'
      · exact .inr (.cons_cons _ (List.singleton_sublist.2 ha'))
      · exact (ih ha' hb').imp (.cons _) (.cons _)

theorem not_pair_sublist (nodup : l.Nodup) (before : [a, b].Sublist l) :
    ¬ [b, a].Sublist l := by
  induction l with
  | nil => cases before
  | cons c l ih =>
    obtain ⟨fresh, nodup⟩ := List.nodup_cons.1 nodup
    intro after
    cases before with
    | cons _ before =>
      cases after with
      | cons _ after => exact ih nodup before after
      | cons_cons _ after => exact fresh (before.subset (by simp))
    | cons_cons _ before =>
      cases after with
      | cons _ after => exact fresh (after.subset (by simp))
      | cons_cons _ after => exact fresh (after.subset (by simp))

/-- Merge sort keeps two elements in their order if they could stand either way. -/
theorem pairwise_mergeSort_stable (trans : ∀ a b c, le a b = true → le b c = true → le a c = true)
    (total : ∀ a b, (le a b || le b a) = true) (nodup : l.Nodup) :
    (l.mergeSort le).Pairwise fun a b =>
      le a b = true ∧ (le b a = true → [a, b].Sublist l) := by
  have perm := List.mergeSort_perm l le
  have sorted := perm.nodup_iff.2 nodup
  have pairs := List.pairwise_mergeSort trans total l
  refine List.pairwise_iff_forall_sublist.2 fun {a b} hab =>
    ⟨List.pairwise_iff_forall_sublist.1 pairs hab, fun tie => ?_⟩
  have ne : a ≠ b := by simpa using sorted.sublist hab
  have ha := perm.mem_iff.1 (hab.subset (List.mem_cons_self))
  have hb := perm.mem_iff.1 (hab.subset (List.mem_cons_of_mem _ List.mem_cons_self))
  rcases pair_sublist_or ha hb ne with kept | swapped
  · exact kept
  · -- sorting would have kept them the other way round
    exact absurd (List.pair_sublist_mergeSort trans total tie swapped) (not_pair_sublist sorted hab)

end Stable

namespace SortKey

/-- The instant by which a key sorts. -/
def instant (k : SortKey) (i : Issue) : Timestamp :=
  if k.column = "created" then i.created else i.updated

section Keys

variable {κ : Type} [LT κ] (f : Timestamp → κ)

/-- The key alone puts `a` in front of `b`, with `f` for what counts of an instant. -/
def Ahead (k : SortKey) (a b : Issue) : Prop :=
  if k.descending then f (k.instant b) < f (k.instant a) else f (k.instant a) < f (k.instant b)

/-- The keys put `a` in front of `b`, the first one that tells them apart deciding. -/
def Precedes : List SortKey → Issue → Issue → Prop
  | [], _, _ => False
  | k :: ks, a, b => k.Ahead f a b ∨ f (k.instant a) = f (k.instant b) ∧ Precedes ks a b

/-- No key tells the issues apart. -/
def Ties (ks : List SortKey) (a b : Issue) : Prop :=
  ∀ k ∈ ks, f (k.instant a) = f (k.instant b)

/-- The list is in the order of the keys, and where no key decides, in that of `filed`. -/
def Ordered (ks : List SortKey) (filed l : List Issue) : Prop :=
  l.Pairwise fun a b => Precedes f ks a b ∨ Ties f ks a b ∧ [a, b].Sublist filed

end Keys

section Texts

variable {k : SortKey} {ks : List SortKey} {a b c : Issue}

/-- The keys leave `a` in front of `b`, as texts are compared. -/
def Allows (ks : List SortKey) (a b : Issue) : Prop :=
  Precedes Timestamp.stored ks a b ∨ Ties Timestamp.stored ks a b

theorem allows_cons : Allows (k :: ks) a b ↔ k.Ahead Timestamp.stored a b
    ∨ (k.instant a).stored = (k.instant b).stored ∧ Allows ks a b := by
  simp only [Allows, Precedes, Ties, List.forall_mem_cons, or_assoc, and_or_left]

theorem ahead_or : k.Ahead Timestamp.stored a b
    ∨ (k.instant a).stored = (k.instant b).stored ∨ k.Ahead Timestamp.stored b a := by
  unfold Ahead
  split
  · rcases Std.lt_trichotomy (k.instant b).stored (k.instant a).stored with lt | same | gt
    · exact .inl lt
    · exact .inr (.inl same.symm)
    · exact .inr (.inr gt)
  · exact Std.lt_trichotomy _ _

theorem ahead_trans (hab : k.Ahead Timestamp.stored a b) (hbc : k.Ahead Timestamp.stored b c) :
    k.Ahead Timestamp.stored a c := by
  cases hk : k.descending with
  | true =>
    simp only [Ahead, hk, if_true] at *
    exact String.lt_trans hbc hab
  | false =>
    simp only [Ahead, hk, Bool.false_eq_true, if_false] at *
    exact String.lt_trans hab hbc

theorem allows_total (ks : List SortKey) (a b : Issue) : Allows ks a b ∨ Allows ks b a := by
  induction ks with
  | nil => exact .inl (.inr (by simp [Ties]))
  | cons k ks ih =>
    simp only [allows_cons]
    rcases ahead_or (k := k) (a := a) (b := b) with ahead | same | behind
    · exact .inl (.inl ahead)
    · exact ih.imp (fun h => .inr ⟨same, h⟩) fun h => .inr ⟨same.symm, h⟩
    · exact .inr (.inl behind)

theorem allows_trans (hab : Allows ks a b) (hbc : Allows ks b c) : Allows ks a c := by
  induction ks with
  | nil => exact .inr (by simp [Ties])
  | cons k ks ih =>
    rw [allows_cons] at hab hbc ⊢
    rcases hab with hab | ⟨same, hab⟩
    · rcases hbc with hbc | ⟨same, -⟩
      · exact .inl (ahead_trans hab hbc)
      · left
        rwa [Ahead, ← same]
    · rcases hbc with hbc | ⟨same', hbc⟩
      · left
        rwa [Ahead, same]
      · exact .inr ⟨same.trans same', ih hab hbc⟩

end Texts

end SortKey

namespace Store.Untouched

variable {s : Store} (h : s.Untouched)
include h

theorem sortText_instant {k : SortKey} (sorts : k.column ∈ Service.sortable) (i : Issue) :
    s.sortText i k.column = some (k.instant i).stored := by
  have either : k.column = "created" ∨ k.column = "updated" := by
    simpa [Service.sortable] using sorts
  rcases either with hk | hk
  · simp [sortText, SortKey.instant, hk, h.edited]
  · simp [sortText, SortKey.instant, hk, h.edited]

theorem keysLe {ks : List SortKey} (sorts : ∀ k ∈ ks, k.column ∈ Service.sortable) (a b : Issue) :
    s.keysLe ks a b = true ↔ SortKey.Allows ks a b := by
  induction ks with
  | nil => simp [Store.keysLe, SortKey.Allows, SortKey.Ties]
  | cons k ks ih =>
    obtain ⟨hk, sorts⟩ := List.forall_mem_cons.1 sorts
    rw [Store.keysLe, h.sortText_instant hk, h.sortText_instant hk, SortKey.allows_cons,
      SortKey.Ahead]
    simp only [textLe]
    generalize (k.instant a).stored = x
    generalize (k.instant b).stored = y
    rcases Std.lt_trichotomy x y with lt | rfl | gt
    · have le := Std.le_of_lt lt
      have ne : x ≠ y := fun same => String.lt_irrefl y (same ▸ lt)
      cases k.descending <;> simp [le, lt, ne, Std.not_le.2 lt, String.not_lt.2 le]
    · simpa [String.lt_irrefl, Std.le_refl] using ih sorts
    · have le := Std.le_of_lt gt
      have ne : x ≠ y := fun same => String.lt_irrefl y (same ▸ gt)
      cases k.descending <;> simp [le, gt, ne, Std.not_le.2 gt, String.not_lt.2 le]

/-- Issues that are sorted are in the order of the keys, ties in the order of their numbers. -/
theorem ordered_sorted {ks : List SortKey} (sorts : ∀ k ∈ ks, k.column ∈ Service.sortable)
    {is : List Issue} (nodup : is.Nodup) :
    SortKey.Ordered Timestamp.stored ks is (s.sorted ks is) := by
  have stable : (is.mergeSort (s.keysLe ks)).Pairwise fun a b =>
      s.keysLe ks a b = true ∧ (s.keysLe ks b a = true → [a, b].Sublist is) := by
    refine pairwise_mergeSort_stable ?_ ?_ nodup
    · simpa only [h.keysLe sorts] using fun a b c => SortKey.allows_trans
    · simpa only [Bool.or_eq_true, h.keysLe sorts] using SortKey.allows_total ks
  refine stable.imp fun {a b} ⟨le, kept⟩ => ?_
  exact ((h.keysLe sorts a b).1 le).imp_right fun tie =>
    ⟨tie, kept ((h.keysLe sorts b a).2 (.inr fun k hk => (tie k hk).symm))⟩

end Store.Untouched
end IssueTracker
