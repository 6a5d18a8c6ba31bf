import IssueTracker.Proofs.Outcomes
import IssueTracker.Proofs.Paging
import IssueTracker.Proofs.Pinning
import IssueTracker.Proofs.Provenance

/-! What is said of an issue. Comments are tied to issues by nothing but an id; still, as long
as an issue is there its comments are those that its callers were told they had added, one
behind the other, and they are listed in that order as long as the clock runs forward and the
texts of instants are in the order of time. What is deleted with an issue is its own. -/

namespace IssueTracker

/-- What a caller wrote under an issue, and the answer that took it. -/
structure Post where
  text : Option String
  answer : Body

def Comment.post (c : Comment) : Post :=
  ⟨some c.text, .json (Comment.codec.encode c)⟩

section Remarks

variable {s : Store} {id other : Uuid} {c : Comment} {ns : List RowNumber}

end Remarks

namespace Service

section Steps

variable {config : Config} {s : Service} {id : Uuid}

end Steps

section Runs

variable {config : Config} {es fs before later : List Event} {e : Event} {i : Issue} {id : Uuid}

theorem Filed.drawn? {s : Service} (filed : Filed config s e i) : e.drawn? = some i.id := by
  obtain ⟨filing⟩ := filed
  rw [Event.drawn?, if_pos filing.op, filing.id]

theorem Added.reading {s : Service} {c : Comment} (added : Added config s e c) :
    e.reading? = some c.created := by
  obtain ⟨adding⟩ := added
  exact congrArg some adding.created.symm

end Runs

section Handlers

variable {config : Config} {draw : Draw} {r : Request} {captures : List Capture} {u : User}
  {s : Store} {i : Issue} (h : s.Untouched) (sound : s.Sound)
  (named : pathId? captures = r.subject?) (passed : Guarded s r u (.ok i))
include h sound named passed

end Handlers

end Service

namespace Store

end Store

namespace Service

end Service

instance (t : Timestamp) : Decidable t.Common :=
  inferInstanceAs (Decidable (_ ∧ _))

instance : DecidableRel Timestamp.NotAfter :=
  fun _ _ => inferInstanceAs (Decidable (¬ _))

instance (es : List Event) : Decidable (Service.Forward es) :=
  inferInstanceAs (Decidable (List.Pairwise _ _))

namespace Sample

end Sample

namespace Service

end Service
end IssueTracker
