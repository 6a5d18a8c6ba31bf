import IssueTracker.Proofs.Revising

/-! The laws of merging. A patch writes eleven fields, each by itself: a field that is
present takes the patch's value, an absent one keeps its own, and of several patches the
last one in which a field is present decides it. A merge says whether it moved the issue
between the counts of its target, so what a row of merges moves, one of them has told. -/

namespace IssueTracker

/-- What no patch writes: the id, the project and the target, who did what, and both times. -/
def Issue.frame (i : Issue) : Uuid × Uuid × Uuid × List Activity × Timestamp × Timestamp :=
  (i.id, i.project, i.target, i.activities, i.created, i.updated)

/-- What decides where an issue is counted. -/
def Issue.standing (i : Issue) : Severity × Bool × Bool × Bool :=
  (i.severity, i.falsePositive, i.muted, i.resolved)

namespace Patch

/-- The fields that patches write, by the type of their values. -/
inductive Slot : Type → Type 1 where
  | uniqId : Slot (Option String)
  | summary : Slot String
  | desc : Slot String
  | severity : Slot Severity
  | urls : Slot (List IssueUrl)
  | extras : Slot (List Extra)
  | references : Slot (List Reference)
  | confirmed : Slot Bool
  | falsePositive : Slot Bool
  | muted : Slot Bool
  | resolved : Slot Bool

namespace Slot

variable {α : Type}

/-- What the field holds. -/
def of : Slot α → Issue → α
  | uniqId, i => i.uniqId
  | summary, i => i.summary
  | desc, i => i.desc
  | severity, i => i.severity
  | urls, i => i.urls
  | extras, i => i.extras
  | references, i => i.references
  | confirmed, i => i.confirmed
  | falsePositive, i => i.falsePositive
  | muted, i => i.muted
  | resolved, i => i.resolved

/-- What the patch has for the field; an empty unique id stands for none. -/
def given : Slot α → Patch → Option α
  | uniqId, p => p.uniqId.map fun n => if n = "" then none else some n
  | summary, p => p.summary
  | desc, p => p.desc
  | severity, p => p.severity
  | urls, p => p.urls
  | extras, p => p.extras
  | references, p => p.references
  | confirmed, p => p.confirmed
  | falsePositive, p => p.falsePositive
  | muted, p => p.muted
  | resolved, p => p.resolved

theorem of_apply (f : Slot α) (p : Patch) (i : Issue) :
    f.of (p.apply i) = (f.given p).getD (f.of i) := by
  cases f with
  | uniqId =>
    cases named : p.uniqId with
    | none => simp only [of, given, apply, named, Option.map_none]
    | some n =>
      rw [given, named, Option.map_some, Option.getD_some]
      exact uniqId_apply_of_some named
  | _ => rfl

end Slot

/-- Nothing else is in an issue. -/
theorem issue_ext {i j : Issue} (frame : i.frame = j.frame)
    (slots : ∀ {α : Type} (f : Slot α), f.of i = f.of j) : i = j := by
  obtain ⟨_, _, _, _, _, _, _, _, _, _, _, _, _, _, _, _, _⟩ := i
  obtain ⟨_, _, _, _, _, _, _, _, _, _, _, _, _, _, _, _, _⟩ := j
  simp only [Issue.frame, Prod.mk.injEq] at frame
  obtain ⟨rfl, rfl, rfl, rfl, rfl, rfl⟩ := frame
  obtain rfl := slots .uniqId
  obtain rfl := slots .summary
  obtain rfl := slots .desc
  obtain rfl := slots .severity
  obtain rfl := slots .urls
  obtain rfl := slots .extras
  obtain rfl := slots .references
  obtain rfl := slots .confirmed
  obtain rfl := slots .falsePositive
  obtain rfl := slots .muted
  obtain rfl := slots .resolved
  rfl

theorem frame_apply (p : Patch) (i : Issue) : (p.apply i).frame = i.frame :=
  rfl

theorem apply_apply (p : Patch) (i : Issue) : p.apply (p.apply i) = p.apply i := by
  refine issue_ext (frame_apply p _) fun f => ?_
  rw [f.of_apply, f.of_apply]
  cases f.given p with
  | none => rfl
  | some a => rfl

theorem affectsSummary_eq_true (p : Patch) (i : Issue) :
    p.affectsSummary i = true ↔ (p.apply i).standing ≠ i.standing := by
  have moves : p.affectsSummary i = true ↔ i.Moves { p.apply i with updated := i.updated } :=
    affectsSummary_iff
  rw [moves, Issue.Moves]
  simp only [Issue.standing, ne_eq, Prod.mk.injEq, not_and_or]

/-- Patches merged one after the other: the issue in the end, and what each merge said. -/
def applyAll : List Patch → Issue → Issue × List Bool
  | [], i => (i, [])
  | p :: ps, i =>
    let r := applyAll ps (p.apply i)
    (r.1, p.affectsSummary i :: r.2)

theorem frame_applyAll (ps : List Patch) (i : Issue) : (applyAll ps i).1.frame = i.frame := by
  induction ps generalizing i with
  | nil => rfl
  | cons p ps ih => exact (ih _).trans (frame_apply p i)

/-- The last patch that has the field decides it. -/
theorem of_applyAll {α : Type} (f : Slot α) (ps : List Patch) (i : Issue) :
    f.of (applyAll ps i).1 = (ps.filterMap f.given).getLast?.getD (f.of i) := by
  induction ps generalizing i with
  | nil => rfl
  | cons p ps ih =>
    refine (ih _).trans ?_
    rw [f.of_apply]
    cases has : f.given p with
    | none => rw [List.filterMap_cons_none has, Option.getD_none]
    | some a => rw [List.filterMap_cons_some has, List.getLast?_cons, Option.getD_some,
        Option.getD_some]

/-- Merges that all say nothing has moved have moved nothing. -/
theorem standing_applyAll {ps : List Patch} {i : Issue} (silent : true ∉ (applyAll ps i).2) :
    (applyAll ps i).1.standing = i.standing := by
  induction ps generalizing i with
  | nil => rfl
  | cons p ps ih =>
    obtain ⟨first, rest⟩ := not_or.1 fun h => silent (List.mem_cons.2 h)
    have kept : (p.apply i).standing = i.standing :=
      Decidable.byContradiction fun moved => first ((affectsSummary_eq_true p i).2 moved).symm
    exact (ih rest).trans kept

/-- A patch replaces the fields that it has and no others, says whether the issue moved
between the counts, and does nothing the second time. After several patches each field is
as the last one that has it left it, and if the issue has moved, one of them said so. -/
theorem applyAll_laws (p : Patch) (ps : List Patch) (i : Issue) :
    ((p.apply i).frame = i.frame
      ∧ ∀ {α : Type} (f : Slot α), f.of (p.apply i) = (f.given p).getD (f.of i))
    ∧ (p.affectsSummary i = true ↔ (p.apply i).standing ≠ i.standing)
    ∧ (p.apply (p.apply i) = p.apply i ∧ p.affectsSummary (p.apply i) = false)
    ∧ ((applyAll ps i).1.frame = i.frame
      ∧ ∀ {α : Type} (f : Slot α),
        f.of (applyAll ps i).1 = (ps.filterMap f.given).getLast?.getD (f.of i))
    ∧ ((applyAll ps i).1.standing ≠ i.standing → true ∈ (applyAll ps i).2) := by
  have silent : p.affectsSummary (p.apply i) = false := by
    rw [Bool.eq_false_iff, ne_eq, affectsSummary_eq_true, not_ne_iff]
    exact congrArg Issue.standing (apply_apply p i)
  exact ⟨⟨frame_apply p i, fun f => f.of_apply p i⟩, affectsSummary_eq_true p i,
    ⟨apply_apply p i, silent⟩, ⟨frame_applyAll ps i, fun f => of_applyAll f ps i⟩,
    fun moved => Decidable.byContradiction fun untold => moved (standing_applyAll untold)⟩

open Sample in
/-- An issue that is muted and then unnamed has moved, and the first patch told. -/
theorem applyAll_laws_muted :
    (applyAll [{ muted := some true }, { uniqId := some "" }]
      (Issue.blank issue project.id Sample.target start)).1.standing = (.info, false, true, false)
    ∧ true ∈ (applyAll [{ muted := some true }, { uniqId := some "" }]
      (Issue.blank issue project.id Sample.target start)).2 := by
  have moved : (applyAll [{ muted := some true }, { uniqId := some "" }]
      (Issue.blank issue project.id Sample.target start)).1.standing =
        (.info, false, true, false) :=
    rfl
  refine ⟨moved, (applyAll_laws {} _ _).2.2.2.2 ?_⟩
  rw [moved]
  decide

end Patch
end IssueTracker
