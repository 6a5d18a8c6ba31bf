import IssueTracker.Proofs.Following
import IssueTracker.Proofs.Listings

/-! The moment at which a request counts as answered. Of its statements only the last may
write; those before it either get the same answer whenever they are made (`Plan.Leads`), or
ask for what the request then acts on. So as long as that has not changed by the last
statement, the outcome is the one that the request would have had alone, all at once, at
the moment of one of its turns (`Service.pins`). -/

namespace IssueTracker

namespace Plan

variable {α : Type} {J : Store → Prop} {p p' p'' : Plan α} {n m : Nat} {a : α} {x y : Store}
  {xs : List Store}

/-- With `n` statements, each of which is answered alike by all these stores and leaves them
as they are, the plan comes to the other one. -/
inductive Leads (J : Store → Prop) : Nat → Plan α → Plan α → Prop where
  | here (p : Plan α) : Leads J 0 p p
  | step {n : Nat} {p p' p'' : Plan α} (going : p.result? = none)
    (turn : ∀ x, J x → p.turn x = (p', x)) (rest : Leads J n p' p'') : Leads J (n + 1) p p''

namespace Leads

theorem one (going : p.result? = none) (turn : ∀ x, J x → p.turn x = (p', x)) : Leads J 1 p p' :=
  .step going turn (.here p')

theorem trans (h : Leads J n p p') (h' : Leads J m p' p'') : Leads J (n + m) p p'' := by
  induction h with
  | here => rwa [Nat.zero_add]
  | step going turn _ ih =>
    rw [Nat.add_right_comm]
    exact .step going turn (ih h')

/-- Alone, the plan comes to what the other one comes to. -/
theorem run (h : Leads J n p p') (hx : J x) : p.run Faults.none x = p'.run Faults.none x := by
  induction h with
  | here => rfl
  | step _ turn _ ih => exact (run_of_turn (turn x hx)).trans ih

/-- A plan that leads to one that goes on goes on itself. -/
theorem going (h : Leads J n p p') (going : p'.result? = none) : p.result? = none := by
  cases h with
  | here => exact going
  | step going => exact going

end Leads

/-- From here on the plan only reads, and comes to this. -/
inductive Settles : Plan α → List Store → α → Prop where
  | done (a : α) : Settles (.done a) [] a
  | turn {p p' : Plan α} {x : Store} {xs : List Store} {a : α} (quiet : p.turn x = (p', x))
    (rest : Settles p' xs a) : Settles p (x :: xs) a

theorem Settles.of_done {b : α} (h : Settles (.done a) xs b) : b = a := by
  induction xs with
  | nil =>
    cases h
    rfl
  | cons x xs ih =>
    cases h with
    | turn quiet rest =>
      obtain ⟨rfl, -⟩ := Prod.mk.inj quiet
      exact ih rest

/-- A plan that leads to its end has only one. -/
theorem Leads.settles {b : α} (h : Leads J n p (.done a)) (all : ∀ x ∈ xs, J x)
    (meets : p.Meets xs b) : b = a ∧ p.Settles xs b := by
  generalize hq : done a = q at h
  induction h generalizing xs with
  | here =>
    subst hq
    obtain ⟨rfl, rfl⟩ := meets.of_done
    exact ⟨rfl, .done b⟩
  | step going turn _ ih =>
    obtain ⟨x, ys, rfl, next⟩ := meets.next going
    obtain ⟨hx, rest⟩ := List.forall_mem_cons.1 all
    rw [turn x hx] at next
    obtain ⟨same, quiet⟩ := ih rest next hq
    exact ⟨same, .turn (turn x hx) quiet⟩

end Plan

namespace Service

/-- What an operation takes for granted when it acts: the issue that it changes, just that
there is such an issue, or how many issues were counted. -/
inductive Ground where
  | nothing
  | row (i : Option Issue)
  | there (b : Bool)
  | count (n : Nat)
  deriving DecidableEq

def ground (config : Config) (r : Request) (x : Store) : Ground :=
  match r.operation? with
  | some .update => .row (r.subject?.bind x.findIssueRow)
  | some .comments | some .addComment => .there (r.subject?.bind x.findIssueRow).isSome
  | some .list =>
    match x.caller? r, ListQuery.ofQuery? r.uri.query with
    | .ok (some u), some q => .count (x.listed config u q).length
    | _, _ => .nothing
  | _ => .nothing

/-- Of the stores that the statements of a request met, the one in which it asked for what it
took for granted: its issue is loaded by the third statement, and issues are counted by the
last but one. -/
def asked? (r : Request) (xs : List Store) : Option Store :=
  if r.operation? = some .list then xs[xs.length - 2]? else xs[2]?

/-- The request was not refused before its last statement. -/
def Outcome.Acted (o : Outcome) : Prop :=
  o.response.isSuccess = true ∨ o.response.status = 409

/-- What the request took for granted was still so at its last statement. -/
def Undisturbed (config : Config) (r : Request) (o : Outcome) (xs : List Store) : Prop :=
  o.Acted → ∀ x ∈ asked? r xs, ∀ y ∈ xs.getLast?, ground config r x = ground config r y

instance (o : Outcome) : Decidable o.Acted :=
  inferInstanceAs (Decidable (_ ∨ _))

instance (config : Config) (r : Request) (o : Outcome) (xs : List Store) :
    Decidable (Undisturbed config r o xs) :=
  inferInstanceAs (Decidable (_ → ∀ x ∈ asked? r xs, ∀ y ∈ xs.getLast?, _ = _))

open Plan

variable {alone : Store → Store → Prop} {p p' : Plan Outcome} {o : Outcome}
  {x x' : Store} {xs ys : List Store} {J : Store → Prop} {n : Nat}

/-- One of the turns of the plan stands for the whole of it: it comes to this outcome, and
leaves the store, as if it were alone with the store that it meets there. At all its other
turns it reads. -/
inductive Pins (alone : Store → Store → Prop) : Plan Outcome → List Store → Outcome → Prop where
  /-- Nothing is asked at all. -/
  | idle {o : Outcome} (anywhere : ∀ x, alone x x) (none_ : o.submit = none) :
    Pins alone (.done o) [] o
  | later {p p' : Plan Outcome} {x : Store} {xs : List Store} {o : Outcome}
    (quiet : p.turn x = (p', x)) (going : p'.result? = none) (rest : Pins alone p' xs o) :
    Pins alone p (x :: xs) o
  | early {p p' : Plan Outcome} {x : Store} {xs : List Store} {o : Outcome}
    (quiet : p.turn x = (p', x)) (at_ : alone x x) (none_ : o.submit = none)
    (rest : p'.Settles xs o) : Pins alone p (x :: xs) o
  | last {p : Plan Outcome} {x x' : Store} {o : Outcome} (turn : p.turn x = (.done o, x'))
    (at_ : alone x x') : Pins alone p [x] o

/-- What is asked first does not matter, as long as the answers are the same at any time. -/
theorem Pins.of_leads (h : Leads J n p p') (going : p'.result? = none) (all : ∀ x ∈ xs, J x)
    (meets : p.Meets xs o)
    (rest : ∀ pre ys, xs = pre ++ ys → pre.length = n → p'.Meets ys o → Pins alone p' ys o) :
    Pins alone p xs o := by
  induction h generalizing xs with
  | here => exact rest [] xs rfl rfl meets
  | @step n p q r going_ turn leads ih =>
    obtain ⟨x, ys, rfl, next⟩ := meets.next going_
    obtain ⟨hx, hys⟩ := List.forall_mem_cons.1 all
    rw [turn x hx] at next
    refine .later (turn x hx) (leads.going going) (ih going hys next fun pre zs h length => ?_)
    exact rest (x :: pre) zs (congrArg (x :: ·) h) (congrArg (· + 1) length)

/-- A plan that has one end from the first turn on is answered with that turn. -/
theorem Pins.of_end {e : Outcome} (h : Leads J n p (.done e)) (none_ : e.submit = none)
    (all : ∀ x ∈ xs, J x) (meets : p.Meets xs o) :
    Pins (fun x x' => p.run Faults.none x = (o, x')) p xs o := by
  obtain ⟨rfl, settles⟩ := h.settles all meets
  cases settles with
  | done => exact .idle (fun _ => rfl) none_
  | turn quiet rest =>
    exact .early quiet (h.run (all _ List.mem_cons_self)) none_ rest

section Requests

variable {config : Config} {draw : Draw} {r : Request} {s : Store} {u : User} {op : Operation}
  {a : Aim} {c : Context} {f : Issue → Action Reply} {id : Uuid}

/-- What becomes of a reply, or of a refusal. -/
def concluded : Except Refusal Reply → Plan Outcome
  | .ok a => .done ⟨a.response, a.submit⟩
  | .error e => .done ⟨e.response, none⟩

/-- The first statement finds the caller. -/
theorem leads_authenticate {α : Type} {token : String} {caller : Option User}
    {g : Option User → Action α} {k : Except Refusal α → Plan Outcome} (h : s.Follows s)
    (sent : r.bearer? = some token) (found : s.caller? r = .ok caller) :
    Leads s.Follows 1 ((authenticate r >>= g).run >>= k) ((g caller).run >>= k) := by
  unfold authenticate
  rw [sent]
  refine .one rfl fun x hx => Action.turn_ask ?_
  have again := (hx.caller? h r).trans found
  rw [Store.caller?, sent] at again
  refine Prod.ext again ?_
  rw [hx.untouched.userOfToken]

theorem leads_answer (config : Config) (draw : Draw) {token : String} (h : s.Follows s) (sent : r.bearer? = some token)
    (known : s.caller? r = .ok (some u)) (ha : Aim.ofPath? r.uri.path = some a)
    (hop : a.operation? r.method = some op) : Leads s.Follows 1 (answer config draw r)
      ((op.handler ⟨config, draw, r, a.captures, u⟩).run >>= concluded) := by
  have route := a.handler?_dispatch r.method
  rw [hop, Option.map_some] at route
  have plain (o : Response) : withAllow a.dispatch r o = o := by rw [withAllow, route]
  unfold answer dispatch
  rw [Aim.find?_issues, ha]
  refine cast (congrArg (Leads s.Follows 1 _) ?_) (leads_authenticate h sent known)
  dsimp only
  rw [route]
  dsimp only
  rw [ExceptT.run_bind, bind_assoc]
  congr 1
  funext reply
  cases reply with
  | ok reply => exact congrArg (fun o => Plan.done (⟨o, reply.submit⟩ : Outcome)) (plain _)
  | error e => exact congrArg (fun o => Plan.done (⟨o, none⟩ : Outcome)) (plain _)

/-- What is done with the issue that was looked for. -/
def loaded (c : Context) (f : Issue → Action Reply) (i : Option Issue) : Plan Outcome :=
  (Action.require i .notFound >>= fun i => ensureAccess c.user i.project >>= fun _ => f i).run
    >>= concluded

/-- The statement that looks for the issue, and what follows. -/
def loading (c : Context) (f : Issue → Action Reply) (id : Uuid) : Plan Outcome :=
  (Action.fetch (Store.findIssue id) >>= fun i => Action.require i .notFound >>= fun i =>
    ensureAccess c.user i.project >>= fun _ => f i).run >>= concluded

theorem leads_guardIssue (named : pathId? c.captures = some id) :
    Leads s.Follows 1 ((guardIssue c >>= f).run >>= concluded) (loading c f id) := by
  have whole : guardIssue c >>= f = Action.fetch Query.acquire >>= fun _ =>
      Action.fetch (Store.findIssue id) >>= fun i => Action.require i .notFound >>= fun i =>
        ensureAccess c.user i.project >>= fun _ => f i := by
    unfold guardIssue
    rw [named]
    simp only [Action.require, pure_bind, bind_assoc]
  rw [whole]
  exact .one rfl fun x hx => Action.turn_ask hx.untouched.acquire

theorem turn_loading (hx : s.Follows x) :
    (loading c f id).turn x = (loaded c f (x.findIssueRow id), x) :=
  Action.turn_ask (hx.untouched.findIssue id)

theorem leads_admitted {α : Type} {project : Uuid} {g : Unit → Action α}
    {k : Except Refusal α → Plan Outcome} (sound : s.Follows s)
    (admitted : u.admin = true ∨ s.grants project u.id = true) :
    ∃ n, Leads s.Follows n ((ensureAccess u project >>= g).run >>= k) ((g ()).run >>= k) := by
  unfold ensureAccess
  by_cases admin : u.admin = true
  · rw [if_pos admin]
    exact ⟨0, .here _⟩
  · rw [if_neg admin]
    refine ⟨1, .one rfl fun x hx => ?_⟩
    have granted : x.grants project u.id = true := by
      rw [hx.grants sound]
      exact admitted.resolve_left admin
    have answer := hx.untouched.hasAccess project u.id
    rw [granted] at answer
    rw [bind_assoc]
    exact Action.turn_ask answer

theorem leads_refused {α : Type} {project : Uuid} {g : Unit → Action α}
    {k : Except Refusal α → Plan Outcome} (sound : s.Follows s) (common : u.admin = false)
    (closed : s.grants project u.id = false) :
    Leads s.Follows 1 ((ensureAccess u project >>= g).run >>= k) (k (.error .forbidden)) := by
  unfold ensureAccess
  rw [if_neg (by simp [common])]
  refine .one rfl fun x hx => ?_
  have answer := hx.untouched.hasAccess project u.id
  rw [hx.grants sound, closed] at answer
  rw [bind_assoc]
  exact Action.turn_ask answer

/-- The row that was found is acted on at once, or by one more statement, the last. By then
the issue is gone, which is what the caller is told; or the row is another, and what is done
does not depend on that. -/
def OneMore (s : Store) (id : Uuid) (f : Issue → Action Reply) (ground : Store → Ground) : Prop :=
  ∀ i, (∃ o : Outcome, (f i).run >>= concluded = .done o ∧ o.submit = none)
    ∨ ((f i).run >>= concluded).result? = none
      ∧ ∀ y, s.Follows y → ∃ o y', ((f i).run >>= concluded).turn y = (.done o, y')
        ∧ ∀ x, s.Follows x → x.findIssueRow id = some i → (o.Acted → ground x = ground y) →
          match y.findIssueRow id with
          | none => (o, y') = (⟨Refusal.notFound.response, none⟩, y)
          | some j => (f j).run >>= concluded = (f i).run >>= concluded

theorem pins_guarded {ground : Store → Ground} (sound : s.Sound) (h : s.Follows s)
    (named : pathId? c.captures = some id)
    (leads : Leads s.Follows 1 p ((guardIssue c >>= f).run >>= concluded))
    (all : ∀ x ∈ xs, s.Follows x) (meets : p.Meets xs o)
    (calm : o.Acted → ∀ x ∈ xs[2]?, ∀ y ∈ xs.getLast?, ground x = ground y)
    (once : OneMore s id f ground) :
    Pins (fun x x' => p.run Faults.none x = (o, x')) p xs o := by
  have leads : Leads s.Follows 2 p (loading c f id) := leads.trans (leads_guardIssue named)
  have alone {y : Store} (hy : s.Follows y) :
      p.run Faults.none y = (loaded c f (y.findIssueRow id)).run Faults.none y :=
    (leads.run hy).trans (run_of_turn (turn_loading hy))
  refine .of_leads leads rfl all meets fun pre ys whole length left => ?_
  subst whole
  obtain ⟨x, zs, rfl, next⟩ := left.next rfl
  have hx : s.Follows x := all x (by simp)
  have rest : ∀ z ∈ zs, s.Follows z := fun z hz => all z (by simp [hz])
  have turn : (loading c f id).turn x = _ := turn_loading hx
  rw [turn] at next
  -- an outcome that is settled once the row was found
  have early {m : Nat} {e : Outcome} (none_ : e.submit = none)
      (h : Leads s.Follows m (loaded c f (x.findIssueRow id)) (.done e)) :
      Pins (fun x x' => p.run Faults.none x = (o, x')) (loading c f id) (x :: zs) o := by
    obtain ⟨rfl, settles⟩ := h.settles rest next
    exact .early turn ((alone hx).trans (h.run hx)) none_ settles
  cases found : x.findIssueRow id with
  | none =>
    rw [found] at early
    exact early (e := ⟨Refusal.notFound.response, none⟩) rfl (.here _)
  | some i =>
    rw [found] at next early turn
    by_cases admitted : c.user.admin = true ∨ s.grants i.project c.user.id = true
    · obtain ⟨m, access⟩ := leads_admitted (k := concluded) (g := fun _ => f i) h admitted
      rcases once i with ⟨e, ended, none_⟩ | ⟨going, turns⟩
      · exact early none_ (ended ▸ access)
      · refine .later turn (access.going going) ?_
        refine .of_leads access going rest next fun pre' ys whole _ last => ?_
        subst whole
        obtain ⟨y, es, rfl, ended⟩ := last.next going
        have hy : s.Follows y := rest y (by simp)
        obtain ⟨e, y', done_, agree⟩ := turns y hy
        rw [done_] at ended
        obtain ⟨rfl, rfl⟩ := ended.of_done
        refine .last done_ ((alone hy).trans ?_)
        have same := agree x hx found fun act => by
          have last : (pre ++ x :: (pre' ++ [y])).getLast? = some y := by
            rw [← List.cons_append, ← List.append_assoc, List.getLast?_concat]
          have third : (pre ++ x :: (pre' ++ [y]))[2]? = some x := by
            rw [← length, List.getElem?_append_right (Nat.le_refl _), Nat.sub_self]
            rfl
          exact calm act x third y last
        cases later : y.findIssueRow id with
        | none =>
          rw [later] at same
          exact same.symm
        | some j =>
          rw [later] at same
          obtain ⟨-, -, home, -⟩ := hx.place_eq sound hy found later
          obtain ⟨k, access'⟩ := leads_admitted (k := concluded) (g := fun _ => f j) h
            (home ▸ admitted)
          exact (access'.run hy).trans (same ▸ run_of_last done_)
    · rw [not_or, Bool.not_eq_true, Bool.not_eq_true] at admitted
      exact early (e := ⟨Refusal.forbidden.response, none⟩) rfl
        (leads_refused h admitted.1 admitted.2)

/-- Callers whom the guard lets through are refused for what they sent. -/
theorem oneMore_refused (e : Refusal) (ground : Store → Ground) :
    OneMore s id (fun _ => throw e) ground :=
  fun _ => .inl ⟨⟨e.response, none⟩, rfl, rfl⟩

/-- The update of an issue, once the patch was read and checked. -/
def stored (c : Context) (p : Patch) (i : Issue) : Action Reply :=
  Action.ask (Store.updateIssue (p.apply i) c.draw.now) (.ofWrite "failed to update issue")
    >>= fun found => Action.require found .notFound >>= fun j =>
      pure ⟨200, some (Issue.codec.encode j), if p.affectsSummary i then some j.target else none⟩

theorem updateIssue_cases (c : Context) :
    (∃ e : Refusal, updateIssue c = guardIssue c >>= fun _ => throw e)
      ∨ ∃ p, updateIssue c = guardIssue c >>= stored c p := by
  unfold updateIssue
  cases c.request.entity? Patch.codec with
  | none => exact .inl ⟨_, rfl⟩
  | some p =>
    by_cases valid : (!p.violations.isEmpty) = true
    · refine .inl ⟨validationRefusal p.violations, congrArg (guardIssue c >>= ·) ?_⟩
      funext i
      exact if_pos valid
    · refine .inr ⟨p, congrArg (guardIssue c >>= ·) ?_⟩
      funext i
      exact if_neg valid

theorem oneMore_stored (config : Config) (c : Context) (p : Patch)
    (hop : c.request.operation? = some .update) (subject : c.request.subject? = some id) :
    OneMore s id (stored c p) (ground config c.request) := by
  refine fun i => .inr ⟨rfl, fun y hy => ?_⟩
  have row (x : Store) : ground config c.request x = .row (x.findIssueRow id) := by
    simp [ground, hop, subject]
  have answer := hy.untouched.updateIssue_eq (p.apply i) c.draw.now
  change _ = (match y.findIssueRow i.id with | none => _ | some old => _) at answer
  cases there : y.findIssueRow i.id with
  | none =>
    rw [there] at answer
    refine ⟨_, _, Action.turn_ask answer, fun x hx found _ => ?_⟩
    obtain ⟨-, rfl, -⟩ := Store.findIssueRow_some found
    rw [there]
  | some old =>
    rw [there] at answer
    have same (x : Store) (found : x.findIssueRow id = some i)
        (still : ground config c.request x = ground config c.request y) : i.id = id ∧ old = i := by
      obtain ⟨-, rfl, -⟩ := Store.findIssueRow_some found
      rw [row, row, found, there, Ground.row.injEq] at still
      exact ⟨rfl, (Option.some.inj still).symm⟩
    dsimp only at answer
    split at answer
    · refine ⟨_, _, Action.turn_ask_error answer, fun x _ found still => ?_⟩
      obtain ⟨rfl, rfl⟩ := same x found (still (.inr rfl))
      rw [there]
    · refine ⟨_, _, Action.turn_ask answer, fun x _ found still => ?_⟩
      obtain ⟨rfl, rfl⟩ := same x found (still (.inl rfl))
      rw [there]

/-- The deletion of an issue and of its comments. -/
def deleted (i : Issue) : Action Reply :=
  Action.begin >>= fun _ =>
    Action.ask (Store.removeComments .issue i.id) (.ofWrite "failed to delete issue") >>= fun _ =>
      Action.ask (Store.removeIssue i.id) (.ofWrite "failed to delete issue") >>= fun found =>
        if !found then throw Refusal.notFound
        else Action.commit (.ofWrite "failed to delete issue") >>= fun _ =>
          pure ⟨204, none, some i.target⟩

theorem oneMore_deleted (sound : s.Sound) (ground : Store → Ground) :
    OneMore s id deleted ground := by
  refine fun i => .inr ⟨rfl, fun y hy => ?_⟩
  have cleared := hy.untouched.removeComments_eq .issue i.id
  have hz : s.Follows (y.dropComments (y.linked .issue i.id)) := by
    have kept := (Store.mild_removeComments .issue i.id).keeps s y hy
    rwa [cleared] at kept
  have removed := hz.untouched.removeIssue_eq i.id
  have rows : (y.dropComments (y.linked .issue i.id)).findIssueRow i.id = y.findIssueRow i.id := by
    rw [hz.untouched.findIssueRow, hy.untouched.findIssueRow]
    rfl
  have turn : ((deleted i).run >>= concluded).turn y = _ :=
    Action.turn_begin.trans ((Action.close_ask cleared).trans (Action.close_ask removed))
  cases there : y.findIssueRow i.id with
  | none =>
    rw [rows, there] at turn
    refine ⟨_, _, turn, fun x hx found _ => ?_⟩
    obtain ⟨-, rfl, -⟩ := Store.findIssueRow_some found
    rw [there]
    rfl
  | some old =>
    rw [rows, there] at turn
    refine ⟨_, _, turn, fun x hx found _ => ?_⟩
    obtain ⟨-, rfl, -⟩ := Store.findIssueRow_some found
    obtain ⟨-, same, -, home⟩ := hx.place_eq sound hy found there
    rw [there]
    simp only [deleted, same, home]

/-- The listing of an issue's comments. -/
def discussed (i : Issue) : Action Reply :=
  Action.fetch (Store.listComments .issue i.id) >>= fun comments =>
    pure ⟨200, some ((Listing.codec Comment.codec).encode (Listing.whole comments)), none⟩

theorem oneMore_discussed (config : Config) (r : Request) (hop : r.operation? = some .comments)
    (subject : r.subject? = some id) : OneMore s id discussed (ground config r) := by
  refine fun i => .inr ⟨rfl, fun y hy => ?_⟩
  have there (x : Store) : ground config r x = .there (x.findIssueRow id).isSome := by
    simp [ground, hop, subject]
  refine ⟨_, _, Action.turn_ask (hy.untouched.listComments_eq .issue i.id),
    fun x _ found still => ?_⟩
  have still := still (.inl rfl)
  rw [there, there, found] at still
  cases later : y.findIssueRow id with
  | none => simp [later] at still
  | some j =>
    dsimp only
    obtain ⟨-, rfl, -⟩ := Store.findIssueRow_some found
    obtain ⟨-, same, -⟩ := Store.findIssueRow_some later
    rw [discussed, discussed, same]

/-- The filing of a comment, once its text was read and checked. -/
def commented (c : Context) (d : CommentDraft) (i : Issue) : Action Reply :=
  Action.ask (Store.addComment (newComment d i.id c.user.id c.draw))
    (.ofWrite "failed to add comment") >>= fun comment =>
      pure ⟨201, some (Comment.codec.encode comment), none⟩

theorem addComment_cases (c : Context) :
    (∃ e : Refusal, addComment c = guardIssue c >>= fun _ => throw e)
      ∨ ∃ d, addComment c = guardIssue c >>= commented c d := by
  unfold addComment
  cases c.request.entity? CommentDraft.codec with
  | none => exact .inl ⟨_, rfl⟩
  | some d =>
    by_cases empty : d.text.isEmpty = true
    · refine .inl ⟨.badRequest "Text is required", congrArg (guardIssue c >>= ·) ?_⟩
      funext i
      exact if_pos empty
    · refine .inr ⟨d, congrArg (guardIssue c >>= ·) ?_⟩
      funext i
      exact if_neg empty

theorem oneMore_commented (config : Config) (c : Context) (d : CommentDraft)
    (known : (s.findUser c.user.id).isSome) (hop : c.request.operation? = some .addComment)
    (subject : c.request.subject? = some id) :
    OneMore s id (commented c d) (ground config c.request) := by
  refine fun i => .inr ⟨rfl, fun y hy => ?_⟩
  have there (x : Store) : ground config c.request x = .there (x.findIssueRow id).isSome := by
    simp [ground, hop, subject]
  have owner : (y.findUser c.user.id).isNone = false := by
    rw [show y.findUser c.user.id = s.findUser c.user.id by rw [Store.findUser, hy.users]; rfl]
    exact Option.isNone_eq_false_iff.2 known
  -- the issue is still there
  have agree (x : Store) (found : x.findIssueRow id = some i)
      (still : ground config c.request x = ground config c.request y) :
      ∃ j, y.findIssueRow id = some j ∧ commented c d j = commented c d i := by
    rw [there, there, found] at still
    cases later : y.findIssueRow id with
    | none => simp [later] at still
    | some j =>
      obtain ⟨-, rfl, -⟩ := Store.findIssueRow_some found
      obtain ⟨-, same, -⟩ := Store.findIssueRow_some later
      exact ⟨j, rfl, by rw [commented, commented, same]⟩
  have answer := hy.untouched.addComment_eq (newComment d i.id c.user.id c.draw)
  rw [show (newComment d i.id c.user.id c.draw).owner = c.user.id from rfl, owner] at answer
  split at answer
  · refine ⟨_, _, Action.turn_ask_error answer, fun x _ found still => ?_⟩
    obtain ⟨j, later, same⟩ := agree x found (still (.inr rfl))
    rw [later]
    exact congrArg (fun a : Action Reply => a.run >>= concluded) same
  · refine ⟨_, _, Action.turn_ask answer, fun x _ found still => ?_⟩
    obtain ⟨j, later, same⟩ := agree x found (still (.inl rfl))
    rw [later]
    exact congrArg (fun a : Action Reply => a.run >>= concluded) same

/-- A page of the issues that were counted to be so many. -/
def paged (c : Context) (q : ListQuery) (count : Int64) : Action Reply :=
  let page := c.config.pages.page q.skip q.limit
  Action.fetch (Store.pageIssues (filterOf c.config c.user q) (keysOf q) page) >>= fun results =>
    let links := page.links c.request.uri count
    let listing : IssueList := ⟨⟨count, links.1, links.2⟩, results⟩
    pure ⟨200, some ((Listing.codec Issue.codec).encode listing), none⟩

/-- The count of the issues that are asked for, and the page. -/
def counted (c : Context) (q : ListQuery) : Action Reply :=
  Action.fetch (Store.countIssues (filterOf c.config c.user q)) >>= paged c q

theorem listIssues_eq {q : ListQuery} (hq : ListQuery.ofQuery? c.request.uri.query = some q) :
    listIssues c = Action.fetch Query.acquire >>= fun _ =>
      match q.project with
      | some project => ensureAccess c.user project >>= fun _ => counted c q
      | none => counted c q := by
  unfold listIssues
  rw [hq]
  refine congrArg (Action.fetch Query.acquire >>= ·) (funext fun _ => ?_)
  change (match q.project with | some project => _ | none => _) = _
  cases q.project with
  | none => rfl
  | some project => rfl

theorem leads_listIssues (h : s.Follows s) :
    (∃ n, ∃ e : Refusal, Leads s.Follows n ((listIssues c).run >>= concluded)
        (.done ⟨e.response, none⟩))
      ∨ ∃ n q, ListQuery.ofQuery? c.request.uri.query = some q
        ∧ Leads s.Follows n ((listIssues c).run >>= concluded)
          ((counted c q).run >>= concluded) := by
  have acquired {f : Unit → Action Reply} :
      Leads s.Follows 1 ((Action.fetch Query.acquire >>= f).run >>= concluded)
        ((f ()).run >>= concluded) :=
    .one rfl fun x hx => Action.turn_ask hx.untouched.acquire
  cases hq : ListQuery.ofQuery? c.request.uri.query with
  | none =>
    unfold listIssues
    rw [hq]
    exact .inl ⟨1, .badRequest "wrong query", acquired⟩
  | some q =>
    rw [listIssues_eq hq]
    cases q.project with
    | none => exact .inr ⟨1, q, rfl, acquired⟩
    | some project =>
      by_cases admitted : c.user.admin = true ∨ s.grants project c.user.id = true
      · obtain ⟨n, access⟩ := leads_admitted (k := concluded) (g := fun _ => counted c q) h admitted
        exact .inr ⟨1 + n, q, rfl, acquired.trans access⟩
      · rw [not_or, Bool.not_eq_true, Bool.not_eq_true] at admitted
        exact .inl ⟨1 + 1, .forbidden, acquired.trans (leads_refused h admitted.1 admitted.2)⟩

theorem pins_counted {q : ListQuery} (h : s.Follows s)
    (known : s.caller? c.request = .ok (some c.user))
    (hop : c.request.operation? = some .list)
    (hq : ListQuery.ofQuery? c.request.uri.query = some q)
    (leads : Leads s.Follows n p ((counted c q).run >>= concluded))
    (all : ∀ x ∈ xs, s.Follows x) (meets : p.Meets xs o)
    (calm : Undisturbed c.config c.request o xs) :
    Pins (fun x x' => p.run Faults.none x = (o, x')) p xs o := by
  have count {x : Store} (hx : s.Follows x) : ((counted c q).run >>= concluded).turn x =
      ((paged c q (Int64.ofNat (x.listed c.config c.user q).length)).run >>= concluded, x) :=
    Action.turn_ask hx.untouched.countIssues
  have ground_ {x : Store} (hx : s.Follows x) :
      ground c.config c.request x = .count (x.listed c.config c.user q).length := by
    simp only [ground, hop, hx.caller? h, known, hq]
  refine .of_leads leads rfl all meets fun pre ys whole _ left => ?_
  subst whole
  obtain ⟨x, zs, rfl, next⟩ := left.next rfl
  have hx : s.Follows x := all x (by simp)
  rw [count hx] at next
  refine .later (count hx) rfl ?_
  obtain ⟨y, es, rfl, last⟩ := next.next rfl
  have hy : s.Follows y := all y (by simp)
  have alone : p.run Faults.none y = _ := (leads.run hy).trans (run_of_turn (count hy))
  have page : Store.pageIssues (filterOf c.config c.user q) (keysOf q)
      (c.config.pages.page q.skip q.limit) y = _ := hy.untouched.pageIssues _
  by_cases many : Store.maxTerms < (keysOf q).length + 1
  · rw [if_pos many] at page
    have turn (n : Int64) : ((paged c q n).run >>= concluded).turn y = _ :=
      Action.turn_ask_error page
    rw [turn] at last
    obtain ⟨rfl, rfl⟩ := last.of_done
    exact .last (turn _) (alone.trans (run_of_last (turn _)))
  · rw [if_neg many] at page
    have turn (n : Int64) : ((paged c q n).run >>= concluded).turn y = _ :=
      Action.turn_ask page
    rw [turn] at last
    obtain ⟨rfl, rfl⟩ := last.of_done
    refine .last (turn _) (alone.trans ?_)
    have asks : asked? c.request (pre ++ [x, y]) = some x := by
      rw [asked?, if_pos hop]
      simp
    have same := calm (.inl rfl) x asks y (by simp)
    rw [ground_ hx, ground_ hy, Ground.count.injEq] at same
    rw [← same]
    exact run_of_last (turn _)

/-- Who is known by a token is one of the users. -/
theorem findUser_of_caller? (h : s.Untouched) (known : s.caller? r = .ok (some u)) :
    (s.findUser u.id).isSome := by
  unfold Store.caller? at known
  cases sent : r.bearer? with
  | none => simp [sent] at known
  | some token =>
    simp only [sent, h.userOfToken, Except.ok.injEq] at known
    obtain ⟨k, -, found⟩ := Option.bind_eq_some_iff.1 known
    have same : u.id = k.user := by
      rw [Store.findUser] at found
      simpa using List.find?_some found
    rw [same, found]
    rfl

theorem pins_handler (sound : s.Sound) (h : s.Follows s)
    (known : s.caller? c.request = .ok (some c.user)) (hop : c.request.operation? = some op)
    (named : pathId? c.captures = c.request.subject?) (other : op ≠ .create)
    (leads : Leads s.Follows 1 p ((op.handler c).run >>= concluded)) (all : ∀ x ∈ xs, s.Follows x)
    (meets : p.Meets xs o) (calm : Undisturbed c.config c.request o xs) :
    Pins (fun x x' => p.run Faults.none x = (o, x')) p xs o := by
  have guarded {f : Issue → Action Reply} (item : op ≠ .list)
      (leads : Leads s.Follows 1 p ((guardIssue c >>= f).run >>= concluded))
      (once : ∀ id, c.request.subject? = some id →
        OneMore s id f (ground c.config c.request)) :
      Pins (fun x x' => p.run Faults.none x = (o, x')) p xs o := by
    cases subject : c.request.subject? with
    | none =>
      unfold guardIssue at leads
      rw [named, subject] at leads
      exact .of_end (e := ⟨(Refusal.badRequest "wrong id format").response, none⟩) leads rfl all meets
    | some id =>
      have third : asked? c.request xs = xs[2]? := by simp [asked?, hop, item]
      rw [Undisturbed, third] at calm
      exact pins_guarded sound h (named.trans subject) leads all meets calm (once id subject)
  cases op with
  | create => exact absurd rfl other
  | list =>
    rcases leads_listIssues (c := c) h with ⟨n, e, ends⟩ | ⟨n, q, hq, next⟩
    · exact .of_end (leads.trans ends) rfl all meets
    · exact pins_counted h known hop hq (leads.trans next) all meets calm
  | get => exact guarded nofun leads fun id _ i => .inl ⟨_, rfl, rfl⟩
  | update =>
    rcases updateIssue_cases c with ⟨e, refused⟩ | ⟨p, writes⟩
    · exact guarded nofun (refused ▸ leads) fun id _ => oneMore_refused e _
    · exact guarded nofun (writes ▸ leads) fun id => oneMore_stored c.config c p hop
  | delete => exact guarded nofun leads fun id _ => oneMore_deleted sound _
  | comments => exact guarded nofun leads fun id => oneMore_discussed c.config c.request hop
  | addComment =>
    rcases addComment_cases c with ⟨e, refused⟩ | ⟨d, writes⟩
    · exact guarded nofun (refused ▸ leads) fun id _ => oneMore_refused e _
    · have there := findUser_of_caller? h.untouched known
      exact guarded nofun (writes ▸ leads) fun id => oneMore_commented c.config c d there hop

/-- A request that files no issue is answered as if it were alone at one of its turns, as long
as what it took for granted was still so at its last one. -/
theorem pins (sound : s.Sound) (untouched : s.Untouched) (other : r.operation? ≠ some .create)
    (all : ∀ x ∈ xs, s.Follows x) (meets : (answer config draw r).Meets xs o)
    (calm : Undisturbed config r o xs) :
    Pins (fun x x' => (answer config draw r).run Faults.none x = (o, x'))
      (answer config draw r) xs o := by
  have h : s.Follows s := .refl untouched sound
  cases ha : Aim.ofPath? r.uri.path with
  | none =>
    have plan : answer config draw r = .done ⟨Response.of 404 .empty, none⟩ := by
      unfold answer
      rw [Aim.find?_issues, ha]
      rfl
    rw [plan] at meets ⊢
    exact .of_end (.here _) rfl all meets
  | some a =>
    cases sent : r.bearer? with
    | none =>
      have plan : answer config draw r =
          .done ⟨withAllow a.dispatch r Refusal.unauthorized.response, none⟩ := by
        unfold answer dispatch authenticate
        rw [Aim.find?_issues, ha, sent]
        rfl
      rw [plan] at meets ⊢
      exact .of_end (.here _) rfl all meets
    | some token =>
      have caller : ∃ caller, s.caller? r = .ok caller := by
        rw [Store.caller?, sent]
        exact ⟨_, congrArg Prod.fst (untouched.userOfToken _)⟩
      obtain ⟨_ | u, known⟩ := caller
      · have leads : Leads s.Follows 1 (answer config draw r)
            (.done ⟨withAllow a.dispatch r Refusal.unauthorized.response, none⟩) := by
          unfold answer dispatch
          rw [Aim.find?_issues, ha]
          exact leads_authenticate h sent known
        exact .of_end leads rfl all meets
      · cases hop : a.operation? r.method with
        | none =>
          have leads : Leads s.Follows 1 (answer config draw r)
              (.done ⟨withAllow a.dispatch r (Response.of 405 .empty), none⟩) := by
            have route := a.handler?_dispatch r.method
            rw [hop, Option.map_none] at route
            unfold answer dispatch
            rw [Aim.find?_issues, ha]
            refine cast (congrArg (Leads s.Follows 1 _) ?_) (leads_authenticate h sent known)
            dsimp only
            rw [route]
            rfl
          exact .of_end leads rfl all meets
        | some op =>
          have leads := leads_answer config draw h sent known ha hop
          have named : r.operation? = some op := by
            rw [Request.operation?, ha, Option.bind_some, hop]
          have subject : pathId? a.captures = r.subject? := by
            rw [a.pathId?_captures, Request.subject?, ha, Option.bind_some]
          have file : op ≠ .create := fun create => other (create ▸ named)
          exact pins_handler (c := ⟨config, draw, r, a.captures, u⟩) sound h known named subject file
            leads all meets calm

end Requests

end Service
end IssueTracker
