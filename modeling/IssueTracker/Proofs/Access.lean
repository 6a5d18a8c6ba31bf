import IssueTracker.Proofs.Steps

/-! Who may touch a project: administrators, its owner and its members. The service
decides this in two ways, by a check on one project and by the projects to which a list is
restricted; on a store that only the service has written to both say the same. -/

namespace IssueTracker
namespace Store

/-- The user is an administrator, owns the project or is one of its members. -/
def Entitles (s : Store) (u : User) (project : Uuid) : Prop :=
  u.admin = true ∨ (∃ p ∈ s.projects, p.id = project ∧ p.owner = u.id)
    ∨ ∃ m ∈ s.members, m.project = project ∧ m.user = u.id

instance (s : Store) (u : User) (project : Uuid) : Decidable (s.Entitles u project) :=
  inferInstanceAs (Decidable (_ ∨ _ ∨ _))

variable {s t : Store} {u : User} {project : Uuid}

theorem grants_iff : s.grants project u.id = true ↔
    (∃ p ∈ s.projects, p.id = project ∧ p.owner = u.id)
      ∨ ∃ m ∈ s.members, m.project = project ∧ m.user = u.id := by
  simp only [grants, Bool.or_eq_true, List.any_eq_true, Bool.and_eq_true, beq_iff_eq]

theorem entitles_iff : s.Entitles u project ↔ u.admin = true ∨ s.grants project u.id = true := by
  rw [grants_iff, Entitles]

theorem mem_visibleProjects :
    project ∈ s.visibleProjects u.id ↔ s.grants project u.id = true := by
  rw [grants_iff, visibleProjects, List.mem_append]
  simp only [List.mem_map, List.mem_filter, beq_iff_eq]
  constructor
  · rintro (⟨p, ⟨hp, owner⟩, rfl⟩ | ⟨m, ⟨hm, user⟩, rfl⟩)
    · exact .inl ⟨p, hp, rfl, owner⟩
    · exact .inr ⟨m, hm, rfl, user⟩
  · rintro (⟨p, hp, rfl, owner⟩ | ⟨m, hm, rfl, user⟩)
    · exact .inl ⟨p, ⟨hp, owner⟩, rfl⟩
    · exact .inr ⟨m, ⟨hm, user⟩, rfl⟩

theorem Untouched.admits_iff (h : s.Untouched) : s.Admits u project ↔ s.Entitles u project := by
  rw [Admits, h.hasAccess, entitles_iff]
  simp

/-- Two users whom one request is from are one. -/
theorem Knows.unique {r : Request} {v : User} (hu : s.Knows r u) (hv : s.Knows r v) : u = v :=
  Option.some.inj (Except.ok.inj (hu.symm.trans hv))

end Store

namespace Sample

/-- A user without any project. -/
def stranger : User := ⟨Uuid.ofNat 5, "stranger@example.com", "stranger", false⟩

def arrival : List Event := [.addUser stranger, .addToken "other" stranger.id start]

/-- The same request, from the stranger. -/
def byStranger (r : Request) : Request :=
  { r with headers := [("authorization", "Bearer other"), ("content-type", "application/json")] }

/-- What is there once the stranger has come to the issue that was counted. -/
def visited : Service :=
  { counted with store :=
    { counted.store with
      users := [owner, stranger]
      tokens := counted.store.tokens ++ [Service.tokenRow "other" stranger.id start]
      numbers := counted.store.numbers ++ [⟨.users, stranger.id, 2⟩] } }

theorem run_arrival : Service.run config (worked ++ arrival) = visited := by
  rw [Service.run_append, run_worked]
  decide +kernel

end Sample
end IssueTracker
