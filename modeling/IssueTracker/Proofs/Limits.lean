import IssueTracker.Proofs.Rows

/-! How long the fields of an issue may be. A patch is refused just for the fields that it
has and that are out of bounds, a new issue also for those that it cannot do without. What
is checked is the patch and never the issue; that all stored issues are within bounds holds
because a patch that was accepted takes no issue out of them. -/

namespace IssueTracker

namespace Field

def all : List Field :=
  [.desc, .extras, .references, .severity, .summary, .uniqId, .urls]

/-- The length is right for the field; texts are measured in code points. -/
def Admits : Field → Nat → Prop
  | .summary, n => 3 ≤ n ∧ n ≤ 120
  | .desc, n => n ≤ 10000
  | .uniqId, n => n ≤ 255
  | .urls, n => n ≤ 100
  | .extras, n => n ≤ 100
  | .references, n => n ≤ 100
  | .severity, _ => True

instance : (f : Field) → (n : Nat) → Decidable (f.Admits n)
  | .summary, _ => inferInstanceAs (Decidable (_ ∧ _))
  | .desc, _ | .uniqId, _ | .urls, _ | .extras, _ | .references, _ =>
    inferInstanceAs (Decidable (_ ≤ _))
  | .severity, _ => inferInstanceAs (Decidable True)

end Field

namespace Bounds

theorem admits_iff {b : Bounds} {n : Nat} : b.admits n = true ↔ b.least.getD 0 ≤ n ∧ n ≤ b.most := by
  simp [admits]

theorem admits_most {most n : Nat} : admits ⟨none, most⟩ n = true ↔ n ≤ most :=
  admits_iff.trans (and_iff_right (Nat.zero_le n))

end Bounds

/-- The fields of an issue are within their bounds. -/
structure Issue.Limited (i : Issue) : Prop where
  summary : 3 ≤ i.summary.length ∧ i.summary.length ≤ 120
  desc : i.desc.length ≤ 10000
  uniqId : ∀ u ∈ i.uniqId, 1 ≤ u.length ∧ u.length ≤ 255
  urls : i.urls.length ≤ 100
  extras : i.extras.length ≤ 100
  references : i.references.length ≤ 100

namespace Patch

variable {p : Patch} {i : Issue} {f : Field}

/-- How long a field is in a patch, for the fields that have a limit and are there. -/
def length? (p : Patch) : Field → Option Nat
  | .summary => p.summary.map String.length
  | .desc => p.desc.map String.length
  | .uniqId => p.uniqId.map String.length
  | .urls => p.urls.map List.length
  | .extras => p.extras.map List.length
  | .references => p.references.map List.length
  | .severity => none

/-- The field is there and out of bounds. -/
def Exceeds (p : Patch) (f : Field) : Prop :=
  ∃ n ∈ p.length? f, ¬ f.Admits n

instance (p : Patch) (f : Field) : Decidable (p.Exceeds f) :=
  inferInstanceAs (Decidable (∃ n ∈ p.length? f, ¬ f.Admits n))

/-- The field is not there, and a new issue cannot do without it. -/
def Lacks (p : Patch) : Field → Prop
  | .summary => p.summary = none
  | .severity => p.severity = none
  | _ => False

instance (p : Patch) : (f : Field) → Decidable (p.Lacks f)
  | .summary => inferInstanceAs (Decidable (_ = _))
  | .severity => inferInstanceAs (Decidable (_ = _))
  | .desc | .uniqId | .urls | .extras | .references => inferInstanceAs (Decidable False)

section Violations

theorem fields_outside {α : Type} {b : Bounds} (same : ∀ n, b.admits n = true ↔ f.Admits n)
    (size : α → Nat) (c : Codec α) (value : Option α) :
    (outside f b size c value).map Violation.field =
      if ∃ n ∈ value.map size, ¬ f.Admits n then [f] else [] := by
  cases value with
  | none => simp [outside]
  | some a =>
    unfold outside
    by_cases h : f.Admits (size a)
    · simp [h, (same _).2 h]
    · simp [h, mt (same _).1 h]

/-- A patch is found fault with for the fields that are out of bounds, each once. -/
theorem fields_violations (p : Patch) :
    p.violations.map Violation.field = Field.all.filter fun f => p.Exceeds f := by
  have unlimited : ¬ p.Exceeds .severity := by simp [Exceeds, length?]
  have apart : Field.all = [.desc] ++ [.extras] ++ [.references] ++ [.severity] ++ [.summary]
      ++ [.uniqId] ++ [.urls] := rfl
  unfold violations tooLong
  rw [apart, List.map_append, List.map_append, List.map_append, List.map_append, List.map_append,
    fields_outside fun _ => Bounds.admits_most, fields_outside fun _ => Bounds.admits_most,
    fields_outside fun _ => Bounds.admits_most, fields_outside fun _ => Bounds.admits_iff,
    fields_outside fun _ => Bounds.admits_most, fields_outside fun _ => Bounds.admits_most]
  simp only [List.filter_append, List.filter_singleton, cond_eq_ite, decide_eq_true_eq, unlimited,
    if_false, List.append_nil]
  rfl

theorem exceeds_iff : p.Exceeds f ↔ f ∈ p.violations.map Violation.field := by
  rw [fields_violations, List.mem_filter]
  cases f <;> simp [Field.all]

theorem violations_eq_nil : p.violations = [] ↔ ∀ f, ¬ p.Exceeds f := by
  simp only [exceeds_iff, ← List.eq_nil_iff_forall_not_mem, List.map_eq_nil_iff]

/-- What is there is within its bounds. -/
theorem admits_of_valid (valid : p.violations = []) {n : Nat} (h : n ∈ p.length? f) :
    f.Admits n := by
  by_contra out
  exact violations_eq_nil.1 valid f ⟨n, h, out⟩

theorem creationViolations_of_violations (h : p.violations ≠ []) :
    p.creationViolations = p.violations :=
  if_neg (by simpa [violations] using h)

/-- A patch within bounds is found fault with for what a new issue needs and it lacks. -/
theorem fields_creationViolations (valid : p.violations = []) :
    p.creationViolations.map Violation.field = Field.all.filter fun f => p.Lacks f := by
  have empty : (p.summary.getD "").isEmpty = true ↔ p.Lacks .summary := by
    cases hs : p.summary with
    | none => simp [Lacks, hs]
    | some s =>
      have long : 3 ≤ s.length := (admits_of_valid valid (f := .summary) (by simp [length?, hs])).1
      have filled : s ≠ "" := by
        rintro rfl
        exact absurd long (by decide)
      simp [Lacks, hs, filled]
  have severity : p.severity.isNone = true ↔ p.Lacks .severity := Option.isNone_iff_eq_none
  rw [creationViolations, if_pos (by simpa [violations] using valid), missing, List.map_append,
    apply_ite (List.map _), apply_ite (List.map _)]
  have apart : Field.all = [.desc, .extras, .references] ++ [.severity] ++ [.summary]
      ++ [.uniqId, .urls] := rfl
  have others : [Field.desc, .extras, .references].filter (fun f => p.Lacks f) = []
      ∧ [Field.uniqId, .urls].filter (fun f => p.Lacks f) = [] := ⟨rfl, rfl⟩
  simp only [apart, severity, empty, List.filter_append, List.filter_singleton, cond_eq_ite,
    decide_eq_true_eq, others, List.nil_append, List.append_nil]
  rfl

theorem creationViolations_eq_nil :
    p.creationViolations = [] ↔ p.violations = [] ∧ ∀ f, ¬ p.Lacks f := by
  by_cases valid : p.violations = []
  · rw [and_iff_right valid, ← List.map_eq_nil_iff (f := Violation.field),
      fields_creationViolations valid, List.filter_eq_nil_iff]
    exact ⟨fun h f => by simpa using h f (by cases f <;> decide), fun h f _ => by simpa using h f⟩
  · rw [creationViolations_of_violations valid]
    exact iff_of_false valid fun h => valid h.1

end Violations

section Merging

/-- A field keeps its bounds when a value within them takes its place. -/
theorem admits_getD {α : Type} {size : α → Nat} {new : Option α} {old : α}
    (there : ∀ n ∈ new.map size, f.Admits n) (before : f.Admits (size old)) :
    f.Admits (size (new.getD old)) := by
  cases new with
  | none => exact before
  | some a => exact there _ rfl

/-- An accepted patch takes no issue out of its bounds. -/
theorem limited_apply (valid : p.violations = []) (h : i.Limited) : (p.apply i).Limited where
  summary := admits_getD (f := .summary) (fun _ => admits_of_valid (f := .summary) valid) h.summary
  desc := admits_getD (f := .desc) (fun _ => admits_of_valid (f := .desc) valid) h.desc
  uniqId := by
    intro u hu
    dsimp only [apply] at hu
    cases hp : p.uniqId with
    | none => exact h.uniqId u (by simpa [hp] using hu)
    | some v =>
      have short : v.length ≤ 255 :=
        admits_of_valid valid (f := .uniqId) (by simp [length?, hp])
      obtain ⟨filled, rfl⟩ : v ≠ "" ∧ v = u := by
        simpa [hp, storedUniqId] using hu
      exact ⟨Nat.pos_of_ne_zero (by simpa using filled), short⟩
  urls := admits_getD (f := .urls) (fun _ => admits_of_valid (f := .urls) valid) h.urls
  extras := admits_getD (f := .extras) (fun _ => admits_of_valid (f := .extras) valid) h.extras
  references := admits_getD (f := .references) (fun _ => admits_of_valid (f := .references) valid) h.references

/-- A blank issue is not within bounds, but nothing is left of its summary. -/
theorem limited_create (valid : p.creationViolations = []) (id project target : Uuid)
    (now : Timestamp) : (p.apply (Issue.blank id project target now)).Limited := by
  obtain ⟨valid, complete⟩ := creationViolations_eq_nil.1 valid
  obtain ⟨s, hs⟩ := Option.ne_none_iff_exists'.1 (complete .summary)
  have filled : p.apply (Issue.blank id project target now) =
      p.apply { Issue.blank id project target now with summary := s } := by
    simp only [apply, hs, Option.getD_some]
  rw [filled]
  have right : Field.summary.Admits s.length := admits_of_valid valid (by simp [length?, hs])
  exact limited_apply valid ⟨right, Nat.zero_le _, by simp [Issue.blank], Nat.zero_le _,
    Nat.zero_le _, Nat.zero_le _⟩

end Merging

end Patch

namespace Sample

/-- A patch with two fields out of bounds: two code points are too few, 101 links too many. -/
def oversized : Patch :=
  { summary := some "é😀", desc := some "ok", urls := some (List.replicate 101 ⟨"", none⟩) }

end Sample

namespace Service

variable {config : Config} {s s' : Service} {e : Event}

theorem Change.limited (h : ∀ i ∈ s.store.issues, i.Limited) (change : Change config s e s') :
    ∀ i ∈ s'.store.issues, i.Limited := by
  cases change with
  | kept issues => exact issues ▸ h
  | filed _ _ _ _ valid _ _ _ issues =>
    rw [issues, List.forall_mem_append, List.forall_mem_singleton]
    have made := Patch.limited_create valid
    exact ⟨h, (made _ _ _ _).summary, (made _ _ _ _).desc, (made _ _ _ _).uniqId,
      (made _ _ _ _).urls, (made _ _ _ _).extras, (made _ _ _ _).references⟩
  | rewritten _ valid old issues =>
    have merged := Patch.limited_apply valid (h _ old)
    rw [issues]
    intro j hj
    rcases Issue.mem_replaced hj with rfl | ⟨hj, -⟩
    · exact ⟨merged.summary, merged.desc, merged.uniqId, merged.urls, merged.extras,
        merged.references⟩
    · exact h j hj
  | dropped issues =>
    rw [issues]
    exact fun i hi => h i (List.mem_filter.1 hi).1
  | added _ _ _ _ _ _ _ issues => exact issues ▸ h

/-- Every issue that is ever stored is within bounds. A patch is accepted for an update just
if what is there of it is within bounds, and for a new issue if moreover nothing is missing;
else what is found fault with are just these fields, those out of bounds before those
missing. -/
theorem run_limited (config : Config) :
    (∀ es, ∀ i ∈ (run config es).store.issues, i.Limited)
    ∧ ∀ p : Patch,
      (p.violations = [] ↔ ∀ f, ¬ p.Exceeds f)
      ∧ p.violations.map Violation.field = Field.all.filter (fun f => p.Exceeds f)
      ∧ (p.violations ≠ [] → p.creationViolations = p.violations)
      ∧ (p.violations = [] →
        p.creationViolations.map Violation.field = Field.all.filter fun f => p.Lacks f)
      ∧ (p.creationViolations = [] ↔ p.violations = [] ∧ ∀ f, ¬ p.Lacks f) := by
  constructor
  · intro es
    refine run_changes (P := fun s => ∀ i ∈ s.issues, i.Limited) (by simp) ?_ es
    exact fun s e s' h change => change.limited h
  · exact fun p => ⟨Patch.violations_eq_nil, p.fields_violations,
      Patch.creationViolations_of_violations, Patch.fields_creationViolations,
      Patch.creationViolations_eq_nil⟩

open Sample in
/-- The issue that was filed is within bounds. Of two wrong fields none is left out, and of a
patch that is within bounds the severity is missing. -/
theorem run_limited_filed :
    (∃ i ∈ (run Sample.config worked).store.issues, i.id = issue ∧ i.Limited)
    ∧ oversized.creationViolations.map Violation.field = [.summary, .urls]
    ∧ ({ summary := some "leak" } : Patch).creationViolations.map Violation.field =
      [.severity] := by
  obtain ⟨stored, rules⟩ := run_limited Sample.config
  have filed : ∃ i ∈ (run Sample.config worked).store.issues, i.id = issue := by
    rw [run_worked]
    decide +kernel
  obtain ⟨i, hi, id⟩ := filed
  obtain ⟨-, fields, same, -, -⟩ := rules oversized
  obtain ⟨accepted, -, -, missing, -⟩ := rules { summary := some "leak" }
  have wrong : Field.all.filter (fun f => oversized.Exceeds f) = [.summary, .urls] := by
    decide +kernel
  refine ⟨⟨i, hi, id, stored worked i hi⟩, ?_, ?_⟩
  · rw [same ?_, fields, wrong]
    intro nothing
    rw [nothing, wrong] at fields
    cases fields
  · rw [missing (accepted.2 fun f => by cases f <;> decide +kernel)]
    decide +kernel

end Service
end IssueTracker
