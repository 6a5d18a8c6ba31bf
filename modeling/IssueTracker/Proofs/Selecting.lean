import IssueTracker.Proofs.Access

/-! Which issues a list shows: those of the projects that are open to the caller, as far as
every filter of the request agrees with them. On a store that only the service has written
to this is what the statements select, and no issue of another project has a part in it. -/

namespace IssueTracker

theorem containsRun_iff {α : Type} [BEq α] [LawfulBEq α] {part l : List α} :
    containsRun part l = true ↔ part <:+: l := by
  induction l with
  | nil => simp [containsRun]
  | cons a r ih =>
    rw [containsRun, Bool.or_eq_true, List.isPrefixOf_iff_prefix, ih, List.infix_cons_iff]

/-- Only texts of blanks are trimmed to nothing. -/
theorem trim_isEmpty {cs : List Char} : (trim cs).isEmpty = true ↔ ∀ c ∈ cs, isBlank c = true := by
  rw [trim, trimEnd, List.isEmpty_iff, List.reverse_eq_nil_iff, List.dropWhile_eq_nil_iff]
  simp only [List.mem_reverse, trimStart]
  constructor
  · intro h
    have nothing : cs.dropWhile isBlank = [] := by
      by_contra filled
      have first := List.head_dropWhile_not isBlank filled
      rw [h _ (List.head_mem filled)] at first
      cases first
    exact List.dropWhile_eq_nil_iff.1 nothing
  · exact fun h c hc => h c ((List.dropWhile_sublist _).subset hc)

/-- The letters of a text, whatever their case. -/
def folded (s : String) : List Char :=
  s.toList.map Char.toLower

/-- What the filters of a request ask of an issue. A search counts only where search is on,
and not for a term of blanks. -/
def ListQuery.Asks (config : Config) (q : ListQuery) (i : Issue) : Prop :=
  (∀ p ∈ q.project, i.project = p)
    ∧ (∀ t ∈ q.target, i.target = t)
    ∧ (∀ v ∈ q.severity, i.severity = v)
    ∧ (∀ b ∈ q.confirmed, i.confirmed = b)
    ∧ (∀ b ∈ q.falsePositive, i.falsePositive = b)
    ∧ (∀ b ∈ q.muted, i.muted = b)
    ∧ (∀ b ∈ q.resolved, i.resolved = b)
    ∧ ∀ t ∈ q.search, config.textSearch = true → (∃ c ∈ t.toList, isBlank c = false) →
      folded t <:+: folded i.summary ∨ folded t <:+: folded i.desc

instance (config : Config) (q : ListQuery) (i : Issue) : Decidable (q.Asks config i) :=
  inferInstanceAs (Decidable (_ ∧ _))

theorem mentions_iff {term text : String} :
    mentions term text = true ↔ folded term <:+: folded text :=
  containsRun_iff

theorem Service.searchTerm_eq_some {config : Config} {q : ListQuery} {t : String} :
    searchTerm config q = some t ↔
      q.search = some t ∧ config.textSearch = true ∧ ∃ c ∈ t.toList, isBlank c = false := by
  have filled : (!(trim t.toList).isEmpty) = true ↔ ∃ c ∈ t.toList, isBlank c = false := by
    rw [Bool.not_eq_true', ← Bool.not_eq_true, trim_isEmpty]
    simp
  rw [searchTerm, Option.filter_eq_some_iff, Bool.and_eq_true, filled]

namespace Store

variable {s t : Store} {config : Config} {q : ListQuery} {u : User} {i : Issue}

/-- The issues that a user may see, in the order of their numbers. -/
def issuesFor (s : Store) (u : User) : List Issue :=
  s.issues.filter fun i => s.Entitles u i.project

theorem mem_issuesFor : i ∈ s.issuesFor u ↔ i ∈ s.issues ∧ s.Entitles u i.project := by
  simp [issuesFor]

namespace Untouched

variable (h : s.Untouched)
include h

theorem flagIs (i : Issue) (column : String) (own : Bool) (want : Option Bool) :
    s.flagIs i column own want = true ↔ ∀ b ∈ want, own = b := by
  cases want with
  | none => simp [Store.flagIs]
  | some b => simp [Store.flagIs, h.edited]

theorem selects : s.selects (Service.filterOf config u q) i = true ↔
    q.Asks config i ∧ s.Entitles u i.project := by
  have visible : (if u.admin = true then none else some u.id).all
      (fun v => (s.visibleProjects v).contains i.project) = true ↔ s.Entitles u i.project := by
    rw [entitles_iff]
    cases u.admin with
    | true => simp
    | false => simp [mem_visibleProjects]
  have severity (v : Severity) : v.name = i.severity.name ↔ i.severity = v :=
    ⟨fun same => (name_inj same).symm, fun same => congrArg _ same.symm⟩
  rw [Store.selects, Service.filterOf, h.severityText]
  simp only [Bool.and_eq_true, Bool.or_eq_true, h.flagIs, visible, Option.all_eq_true, beq_iff_eq,
    severity, Service.searchTerm_eq_some, mentions_iff, ListQuery.Asks, Option.mem_def, and_assoc,
    and_imp, @eq_comm Uuid _ i.project, @eq_comm Uuid _ i.target]

/-- An issue of a project that is closed to the caller has no part in what is selected. -/
theorem selected : s.selected (Service.filterOf config u q) =
    (s.issuesFor u).filter fun i => q.Asks config i := by
  rw [Store.selected, issuesFor, List.filter_filter]
  refine List.filter_congr fun i _ => ?_
  rw [Bool.eq_iff_iff, h.selects]
  simp

end Untouched

end Store
end IssueTracker
