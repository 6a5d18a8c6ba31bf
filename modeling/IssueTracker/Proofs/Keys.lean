import IssueTracker.Proofs.Integrity

/-! Users and tokens are told apart by their keys after every history: no two users have
the same id, and no two tokens the same digest. Only users and tokens that are entered
change them, and what is entered twice is refused. -/

namespace IssueTracker
namespace Store

structure Keyed (s : Store) : Prop where
  userIds : (s.users.map User.id).Nodup
  digests : (s.tokens.map ApiToken.digest).Nodup

variable {s s' : Store}

theorem Keyed.same (h : s.Keyed) (users : s'.users = s.users) (tokens : s'.tokens = s.tokens) :
    s'.Keyed where
  userIds := users ▸ h.userIds
  digests := tokens ▸ h.digests

namespace Keyed

variable (h : s.Untouched) (k : s.Keyed)
include h k

theorem addUser (u : User) : (Query.pooled (Store.addUser u) s).2.Keyed := by
  rcases added_user h u rfl with same | ⟨fresh, ns, more⟩
  · rwa [same]
  · rw [more]
    exact ⟨nodup_concat k.userIds fresh, k.digests⟩

theorem addToken (t : ApiToken) : (Query.pooled (Store.addToken t) s).2.Keyed := by
  rcases added_token h t rfl with same | ⟨fresh, more⟩
  · rwa [same]
  · rw [more]
    exact ⟨k.userIds, nodup_concat k.digests fresh⟩

theorem addProject (p : Project) : (Query.pooled (Store.addProject p) s).2.Keyed := by
  rcases added_project h p rfl with same | ⟨ns, more⟩
  · rwa [same]
  · rw [more]
    exact k.same rfl rfl

theorem addMember (m : Member) : (Query.pooled (Store.addMember m) s).2.Keyed := by
  rcases added_member h m rfl with same | more
  · rwa [same]
  · rw [more]
    exact k.same rfl rfl

theorem addTarget (t : Target) : (Query.pooled (Store.addTarget t) s).2.Keyed := by
  rcases added_target h t rfl with same | ⟨-, ns, more⟩
  · rwa [same]
  · rw [more]
    exact k.same rfl rfl

end Keyed
end Store

namespace Service

variable {config : Config}

/-- Requests touch neither users nor tokens. -/
theorem Turn.accounts {draw : Draw} {r : Request} {s s' : Store} {o : Outcome}
    (turn : Turn draw r s o s') : s'.users = s.users ∧ s'.tokens = s.tokens := by
  cases turn with
  | nothing => exact ⟨rfl, rfl⟩
  | create => exact ⟨rfl, rfl⟩
  | update => exact ⟨rfl, rfl⟩
  | delete => exact ⟨rfl, rfl⟩
  | comment => exact ⟨rfl, rfl⟩

theorem after_keyed {s : Service} (h : s.store.Untouched) (k : s.store.Keyed) (e : Event) :
    (s.after config e).store.Keyed := by
  cases e with
  | addUser u => exact k.addUser h u
  | addToken token user now => exact k.addToken h _
  | addProject p => exact k.addProject h p
  | addMember m => exact k.addMember h m
  | addTarget id project name now => exact k.addTarget h _
  | request draw faults r =>
    obtain ⟨o, store, turn, he⟩ := handle_turn config draw faults r h
    rw [after, he]
    exact k.same turn.accounts.1 turn.accounts.2
  | work now faults =>
    obtain ⟨ts, q, worked⟩ := work_retargets config h now faults
    rw [after, worked]
    exact k.same rfl rfl

theorem run_keyed (config : Config) (es : List Event) : (run config es).store.Keyed := by
  refine (run_induction (P := fun s => s.store.Untouched ∧ s.store.Keyed)
    ⟨⟨rfl, rfl, rfl, rfl⟩, ⟨by simp, by simp⟩⟩ ?_ es).2
  intro s e ⟨h, k⟩
  exact ⟨(after_step h e).untouched h, after_keyed h k e⟩

end Service
end IssueTracker
