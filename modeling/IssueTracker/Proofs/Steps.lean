import IssueTracker.Proofs.Effect
import IssueTracker.Proofs.Recomputing
import IssueTracker.Service.History
import Mathlib.Data.List.Induction

/-! The steps of a history. Nobody but the service writes to its store, so every event
has a plain effect: rows are entered, a request takes one of five turns, or the worker
leaves a target with exact counts or the store as it is. `run_steps` carries what all
steps keep along a history. -/

namespace IssueTracker
namespace Service

/-- What a request can do to a store that only the service has written to. -/
inductive Turn (draw : Draw) (r : Request) (s : Store) : Outcome → Store → Prop where
  | nothing {a : Response} (reads : a.isSuccess → r.method = "GET" ∨ r.method = "HEAD") :
    Turn draw r s ⟨a, none⟩ s
  | create {u : User} {p : Patch} {t : Target} {i : Issue} {ns : List RowNumber}
    (op : r.operation? = some .create) (target : t ∈ s.targets)
    (made : i = newIssue p t u.id draw) (apart : ∀ o ∈ s.issues, i.clashes o = false)
    (fresh : ∀ o ∈ s.issues, o.id ≠ i.id) :
    Turn draw r s ⟨Response.of 201 (.json (Issue.codec.encode i)), some i.target⟩
      { s with issues := s.issues ++ [i], numbers := ns }
  | update {p : Patch} {i j : Issue} (op : r.operation? = some .update)
    (named : r.subject? = some i.id) (old : i ∈ s.issues)
    (made : j = { p.apply i with updated := draw.now })
    (apart : ∀ o ∈ s.issues, o.id ≠ j.id → j.clashes o = false) :
    Turn draw r s ⟨Response.of 200 (.json (Issue.codec.encode j)),
      if p.affectsSummary i then some j.target else none⟩
      { s with issues := j.replaced s.issues }
  | delete {i : Issue} {ns : List RowNumber} (op : r.operation? = some .delete)
    (named : r.subject? = some i.id) (old : i ∈ s.issues) :
    Turn draw r s ⟨Response.of 204 .empty, some i.target⟩
      { s with
        issues := s.issues.filter fun o => o.id != i.id
        comments := s.comments.filter fun c => c.link != i.id
        numbers := ns }
  | comment {i : Issue} {c : Comment} {ns : List RowNumber} (op : r.operation? = some .addComment)
    (old : i ∈ s.issues) (linked : c.link = i.id) (fresh : ∀ o ∈ s.comments, o.id ≠ c.id)
    (owner : ∃ u ∈ s.users, u.id = c.owner) :
    Turn draw r s ⟨Response.of 201 (.json (Comment.codec.encode c)), none⟩
      { s with comments := s.comments ++ [c], numbers := ns }

section Requests

variable {draw : Draw} {r : Request} {s s' : Store} {o : Outcome}

theorem Effect.turn (h : s.Untouched) (e : Effect draw r s o s') : Turn draw r s o s' := by
  cases e with
  | nothing reads => exact .nothing reads
  | create op _ _ _ _ found _ added =>
    obtain ⟨rfl, apart, fresh, ns, rfl⟩ := h.addIssue added
    exact .create op (h.findTarget found).1 rfl apart fresh
  | update op reached _ _ updated =>
    obtain ⟨old, hold, hj, apart, rfl⟩ := h.updateIssue updated
    have found := h.found reached.found
    obtain ⟨mem, rfl, -⟩ := Store.findIssueRow_some found
    -- the row that is replaced is the one that was found
    obtain rfl : _ = old := Option.some.inj (found.symm.trans hold)
    exact .update op reached.named mem hj apart
  | delete op reached cleared removed =>
    obtain ⟨mem, rfl, -⟩ := Store.findIssueRow_some (h.found reached.found)
    obtain ⟨ns, rfl⟩ := h.removeComments cleared
    obtain ⟨ns', rfl⟩ := Store.Untouched.removeIssue (h.of_marks (by rfl)) removed
    exact .delete op reached.named mem
  | comment op reached _ _ added =>
    obtain ⟨mem, rfl, -⟩ := Store.findIssueRow_some (h.found reached.found)
    obtain ⟨rfl, fresh, owner, ns, rfl⟩ := h.addComment added
    exact .comment op mem rfl fresh owner

theorem Turn.untouched (h : s.Untouched) (t : Turn draw r s o s') : s'.Untouched := by
  cases t with
  | nothing => exact h
  | create => exact h.of_marks rfl
  | update => exact h.of_marks rfl
  | delete => exact h.of_marks rfl
  | comment => exact h.of_marks rfl

theorem handle_turn (config : Config) (draw : Draw) (faults : Faults) (r : Request) {s : Service}
    (h : s.store.Untouched) :
    ∃ o store, Turn draw r s.store o store ∧ s.handle config draw faults r =
      (stamp draw r o.response, ⟨store, s.queue ++ o.submit.toList⟩) := by
  obtain ⟨o, store, effect, he⟩ := handle_eq config draw faults r s
  exact ⟨o, store, effect.turn h, he⟩

end Requests

end Service

/-- The store does not fail the worker. -/
def Event.Steady : Event → Prop
  | .work _ faults => ∀ k n, faults k n = none
  | _ => True

namespace Service

/-- What an event does to a service whose store was left alone. -/
inductive Step (config : Config) (s : Service) : Event → Service → Prop where
  | enter {e : Event} {store : Store} (entered : Store.Entered s.store store) :
    Step config s e ⟨store, s.queue⟩
  | request {draw : Draw} {faults : Faults} {r : Request} {o : Outcome} {store : Store}
    (turn : Turn draw r s.store o store) :
    Step config s (.request draw faults r) ⟨store, s.queue ++ o.submit.toList⟩
  | idle {now : Timestamp} {faults : Nat → Faults} : Step config s (.work now faults) s
  | work {now : Timestamp} {faults : Nat → Faults} {t : Uuid} {rest : List Uuid} {store : Store}
    (front : s.queue = t :: rest)
    (leaves : Recompute.Leaves (¬ (Event.work now faults).Steady ∨ config.attempts = 0)
      s.store t now store) :
    Step config s (.work now faults) ⟨store, rest⟩

variable {config : Config} {s s' : Service} {e : Event}

theorem work_cases (h : s.store.Untouched) (now : Timestamp) (faults : Nat → Faults) :
    (s.queue = [] ∧ s.work config now faults = s) ∨ ∃ t rest store, s.queue = t :: rest
      ∧ Recompute.Leaves (¬ (Event.work now faults).Steady ∨ config.attempts = 0) s.store t now store
      ∧ s.work config now faults = ⟨store, rest⟩ := by
  rw [work]
  split
  · next front => exact .inl ⟨front, rfl⟩
  · next t rest front =>
    have allowed (k : Nat) : (faults k).Within (¬ (Event.work now faults).Steady) := by
      intro n err he steady
      rw [steady k n] at he
      cases he
    exact .inr ⟨t, rest, _, front, Recompute.run_leaves h allowed _, rfl⟩

/-- The worker leaves all but the targets as it is. -/
theorem work_retargets (config : Config) (h : s.store.Untouched) (now : Timestamp)
    (faults : Nat → Faults) : ∃ ts q, s.work config now faults = ⟨s.store.retarget ts, q⟩ := by
  rcases work_cases h now faults with
    ⟨-, same⟩ | ⟨t, rest, store, -, leaves, worked⟩
  · exact ⟨s.store.targets, s.queue, same⟩
  · obtain ⟨ts, rfl⟩ := leaves.retargets h
    exact ⟨ts, rest, worked⟩

theorem work_step (h : s.store.Untouched) (now : Timestamp) (faults : Nat → Faults) :
    Step config s (.work now faults) (s.work config now faults) := by
  rcases work_cases h now faults with
    ⟨-, same⟩ | ⟨t, rest, store, front, leaves, worked⟩
  · rw [same]
    exact .idle
  · rw [worked]
    exact .work front leaves

theorem after_step (h : s.store.Untouched) (e : Event) : Step config s e (s.after config e) := by
  cases e with
  | addUser u => exact .enter (Store.entered_addUser h u)
  | addToken token user now => exact .enter (Store.entered_addToken h _)
  | addProject p => exact .enter (Store.entered_addProject h p)
  | addMember m => exact .enter (Store.entered_addMember h m)
  | addTarget id project name now => exact .enter (Store.entered_addTarget h id project name now)
  | request draw faults r =>
    obtain ⟨o, store, turn, he⟩ := handle_turn config draw faults r h
    rw [after, he]
    exact .request turn
  | work now faults => exact work_step h now faults

theorem Step.untouched (h : s.store.Untouched) (step : Step config s e s') :
    s'.store.Untouched := by
  cases step with
  | enter entered => exact h.of_marks entered.marks
  | request turn => exact turn.untouched h
  | idle => exact h
  | work _ leaves =>
    obtain ⟨ts, rfl⟩ := leaves.retargets h
    exact h.of_marks rfl

theorem run_concat (config : Config) (es : List Event) (e : Event) :
    run config (es ++ [e]) = (run config es).after config e :=
  run_append config es [e]

theorem run_untouched (config : Config) (es : List Event) : (run config es).store.Untouched := by
  refine run_induction (P := fun s => s.store.Untouched) ⟨rfl, rfl, rfl, rfl⟩ ?_ es
  intro s e h
  exact (after_step h e).untouched h

/-- What holds at first and is kept by every step that may come holds after every history
of such steps. -/
theorem run_steps {E : Event → Prop} {P : Service → Prop} (init : P {})
    (keep : ∀ s e s', s.store.Untouched → P s → E e → Step config s e s' → P s')
    (es : List Event) (may : ∀ e ∈ es, E e) : P (run config es) := by
  induction es using List.reverseRecOn with
  | nil => exact init
  | append_singleton es e ih =>
    rw [run_concat]
    have before := ih fun e he => may e (List.mem_append_left _ he)
    have untouched := run_untouched config es
    exact keep _ e _ untouched before (may e (by simp)) (after_step untouched e)

end Service

/-! A short history to try statements on: a user with a token owns a project with one
target, and files an issue against it. -/

namespace Sample

def start : Timestamp :=
  ⟨⟨2026, 1, 1, by decide, by decide, by decide⟩,
    ⟨0, 0, 0, 0, by decide, by decide, by decide, by decide⟩⟩

def config : Config := Config.ofDatabase ""

def owner : User := ⟨Uuid.ofNat 1, "owner@example.com", "owner", false⟩

def project : Project := ⟨Uuid.ofNat 2, "acme", owner.id, start⟩

def target : Uuid := Uuid.ofNat 3

def issue : Uuid := Uuid.ofNat 4

def founding : List Event :=
  [.addUser owner, .addToken "key" owner.id start, .addProject project,
    .addTarget target project.id "web" start]

def draw (id : Uuid) : Draw := ⟨id, Uuid.zero, start, start⟩

/-- A request of the owner. -/
def request (method path : String) (p : Patch) : Request :=
  ⟨method, ⟨path.toList, none⟩,
    [("authorization", "Bearer key"), ("content-type", "application/json")],
    Utf8.encode (Patch.codec.write p).toList⟩

def filing : Event :=
  .request (draw issue) Faults.none (request "POST" "/api/v1/issues"
    { target := some target.text, summary := some "leak", severity := some .high })

/-- The issue is filed and its target's summary recomputed. -/
def worked : List Event := founding ++ [filing, .work start fun _ => Faults.none]

def filed : Service := Service.run config (founding ++ [filing])

/-- What is there once the issue is filed. -/
def stock : Service :=
  let web := Target.start target project.id "web" start
  let leak := { target := some target.text, summary := some "leak", severity := some .high }
  ⟨{ users := [owner]
     tokens := [⟨Service.tokenDigest "key", owner.id, start⟩]
     projects := [project]
     targets := [web]
     issues := [Service.newIssue leak web owner.id (draw issue)]
     numbers := [⟨.users, owner.id, 1⟩, ⟨.projects, project.id, 1⟩, ⟨.targets, target, 1⟩,
       ⟨.issues, issue, 1⟩] }, [target]⟩

/-- The issue that the owner files when `p` is what is said of it. -/
def entry (p : Patch) (id : Uuid) : Issue :=
  Service.newIssue p (Target.start target project.id "web" start) owner.id (draw id)

/-- What is there once an issue is filed of which `p` is said. -/
def stockOf (p : Patch) : Service :=
  { stock with store := { stock.store with issues := [entry p issue] } }

/-- What is there once the worker has counted the issue. -/
def counted : Service :=
  ⟨stock.store.putSummary target { high := 1 } start, []⟩

theorem filed_eq : filed = stock := by
  decide +kernel

/-- Histories that begin with the filing go on from there. -/
theorem run_filing (es : List Event) :
    Service.run config (founding ++ filing :: es) = es.foldl (Service.after config) stock := by
  rw [← filed_eq, ← List.singleton_append, ← List.append_assoc, Service.run_append]
  rfl

theorem run_worked : Service.run config worked = counted := by
  rw [worked, run_filing]
  decide +kernel

/-- A request of the owner on the issue that was filed. -/
def onIssue (method : String) (p : Patch) : Request :=
  request method ("/api/v1/issues/" ++ issue.text) p

def erasing : Event := .request (draw issue) Faults.none (onIssue "DELETE" {})

end Sample
end IssueTracker
