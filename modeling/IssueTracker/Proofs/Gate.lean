import IssueTracker.Proofs.Agreement
import IssueTracker.Proofs.Alike
import IssueTracker.Proofs.Turning

/-! The gate in front of the operations. A request without a token, or with one that was
never issued, is turned away by its method and by the route that its path takes, before
anything else is looked at; with a token that was issued it is answered as the user that the
token was issued to. -/

namespace IssueTracker
namespace Service

/-- The token was given to the user in the course of the history: it was entered by hand,
and the store took it. -/
def Issued (config : Config) (es : List Event) (token : String) (user : Uuid) : Prop :=
  ∃ before now later, es = before ++ .addToken token user now :: later
    ∧ (Query.pooled (Store.addToken (tokenRow token user now)) (run config before).store).1 = .ok ()

/-- What callers who are not known are answered. -/
def gate (method : String) : Option Place → Response
  | none => Response.of 404 .empty
  | some place =>
    match (issues.route place).handler? method with
    | some _ => Refusal.unauthorized.response
    | none =>
      { Refusal.unauthorized.response with
        headers := ("allow", (issues.route place).allowText)
          :: Refusal.unauthorized.response.headers }

theorem gate_status (method : String) (place : Option Place) :
    (gate method place).status = if place.isSome then 401 else 404 := by
  cases place with
  | none => rfl
  | some place =>
    unfold gate
    dsimp only
    split <;> rfl

/-- What a request comes to when it is a user's, whatever its headers say. -/
def answerAs (config : Config) (draw : Draw) (r : Request) (user : User) : Plan Outcome :=
  match issues.routes.serve r.method r.uri.path with
  | .notFound => pure ⟨Response.of 404 .empty, none⟩
  | .notAllowed allow =>
    pure ⟨{ Response.of 405 .empty with headers := [("allow", ",".intercalate allow)] }, none⟩
  | .run handler captures => do
    match ← (handler ⟨config, draw, r, captures, user⟩).run with
    | .ok reply => return ⟨reply.response, reply.submit⟩
    | .error e => return ⟨e.response, none⟩

/-- Answers one request as a user. -/
def handleAs (config : Config) (draw : Draw) (faults : Faults) (r : Request) (user : User)
    (s : Service) : Response × Service :=
  let (outcome, store) := (answerAs config draw r user).run faults s.store
  (stamp draw r outcome.response, ⟨store, s.queue ++ outcome.submit.toList⟩)

section Tokens

variable {config : Config} {es : List Event} {e : Event} {token : String} {user : Uuid}

theorem issued_nil : ¬ Issued config [] token user := by
  rintro ⟨before, now, later, h, -⟩
  simp at h

theorem issued_concat : Issued config (es ++ [e]) token user ↔ Issued config es token user
    ∨ ∃ now, e = .addToken token user now
      ∧ (Query.pooled (Store.addToken (tokenRow token user now)) (run config es).store).1
        = .ok () := by
  constructor
  · rintro ⟨before, now, later, h, taken⟩
    rcases List.eq_nil_or_concat' later with rfl | ⟨rest, last, rfl⟩
    · obtain ⟨rfl, same⟩ := List.append_inj' h rfl
      obtain rfl : e = .addToken token user now := by simpa using same
      exact .inr ⟨now, rfl, taken⟩
    · rw [← List.cons_append, ← List.append_assoc] at h
      obtain ⟨rfl, -⟩ := List.append_inj' h rfl
      exact .inl ⟨before, now, rest, rfl, taken⟩
  · rintro (⟨before, now, later, rfl, taken⟩ | ⟨now, rfl, taken⟩)
    · exact ⟨before, now, later ++ [e], by simp, taken⟩
    · exact ⟨es, now, [], rfl, taken⟩

/-- A token is refused and nothing changes, or it has a user and becomes the last one. -/
theorem addToken_cases {s : Store} (h : s.Untouched) (t : ApiToken) :
    ((Query.pooled (Store.addToken t) s).1 ≠ .ok () ∧ (Query.pooled (Store.addToken t) s).2 = s)
      ∨ (∃ u, s.findUser t.user = some u)
        ∧ Query.pooled (Store.addToken t) s = (.ok (), { s with tokens := s.tokens ++ [t] }) := by
  rw [Query.pooled, if_neg (by simp [h.closed])]
  unfold Store.addToken Query.write
  simp only [h.need, ok_bind, throw_bind]
  by_cases taken : s.tokens.any fun v => v.digest == t.digest
  · exact .inl (by simp [taken])
  · cases owner : s.findUser t.user with
    | none => exact .inl (by simp [taken])
    | some u =>
      refine .inr ⟨⟨u, rfl⟩, ?_⟩
      rw [if_neg taken]
      simp only [Option.isNone_some, Bool.false_eq_true, if_false]
      rfl

/-- Users are never taken away. -/
theorem after_users (config : Config) {s : Service} (h : s.store.Untouched) (e : Event) :
    s.store.users <+: (s.after config e).store.users := by
  have step : Step config s e (s.after config e) := after_step h e
  generalize s.after config e = s' at step
  cases step with
  | enter entered => exact entered.users
  | request turn =>
    exact turn.accounts.1 ▸ List.prefix_refl _
  | idle => exact List.prefix_refl _
  | work _ leaves =>
    obtain ⟨ts, rfl⟩ := leaves.retargets h
    exact List.prefix_refl _

theorem findUser_after {s : Service} {u : User} (h : s.store.Untouched) (e : Event)
    (found : s.store.findUser user = some u) :
    (s.after config e).store.findUser user = some u := by
  obtain ⟨more, hm⟩ := after_users config h e
  rw [Store.findUser, ← hm, List.find?_append]
  rw [Store.findUser] at found
  rw [found, Option.some_or]

/-- Only tokens that are entered change the tokens. -/
theorem after_tokens {s : Service} (h : s.store.Untouched)
    (other : ∀ token user now, e ≠ .addToken token user now) :
    (s.after config e).store.tokens = s.store.tokens := by
  cases e with
  | addUser u =>
    rcases Store.added_user h u rfl with same | ⟨-, ns, more⟩
    · rw [after, carryOut, same]
    · rw [after, carryOut, more]
  | addToken token user now => exact absurd rfl (other token user now)
  | addProject p =>
    rcases Store.added_project h p rfl with same | ⟨ns, more⟩
    · rw [after, carryOut, same]
    · rw [after, carryOut, more]
  | addMember m =>
    rcases Store.added_member h m rfl with same | more
    · rw [after, carryOut, same]
    · rw [after, carryOut, more]
  | addTarget id project name now =>
    rcases Store.added_target h _ rfl with same | ⟨-, ns, more⟩
    · rw [after, carryOut, same]
    · rw [after, carryOut, more]
  | request draw faults r =>
    obtain ⟨o, store, turn, he⟩ := handle_turn config draw faults r h
    rw [after, he]
    exact turn.accounts.2
  | work now faults =>
    obtain ⟨ts, q, worked⟩ := work_retargets config h now faults
    rw [after, worked]
    rfl

/-- The stored tokens are those that were issued, each with a user that is there. -/
structure Vouched (config : Config) (es : List Event) : Prop where
  issued : ∀ t ∈ (run config es).store.tokens,
    ∃ token, t.digest = tokenDigest token ∧ Issued config es token t.user
  stored : ∀ token user, Issued config es token user →
    ∃ t ∈ (run config es).store.tokens, t.digest = tokenDigest token ∧ t.user = user
  owned : ∀ t ∈ (run config es).store.tokens, ∃ u, (run config es).store.findUser t.user = some u

theorem Vouched.concat (v : Vouched config es) (e : Event) : Vouched config (es ++ [e]) := by
  have h := run_untouched config es
  have known : ∀ t ∈ (run config es).store.tokens,
      (∃ token, t.digest = tokenDigest token ∧ Issued config (es ++ [e]) token t.user)
        ∧ ∃ u, (run config (es ++ [e])).store.findUser t.user = some u := by
    intro t ht
    obtain ⟨token, digest, issued⟩ := v.issued t ht
    obtain ⟨u, found⟩ := v.owned t ht
    rw [run_concat]
    exact ⟨⟨token, digest, issued_concat.2 (.inl issued)⟩, u, findUser_after h e found⟩
  by_cases entered : ∃ token user now, e = .addToken token user now
    ∧ (Query.pooled (Store.addToken (tokenRow token user now)) (run config es).store).1 = .ok ()
  · obtain ⟨token, user, now, rfl, taken⟩ := entered
    obtain ⟨refused, -⟩ | ⟨⟨u, found⟩, added⟩ := addToken_cases h (tokenRow token user now)
    · exact absurd taken refused
    have tokens : (run config (es ++ [.addToken token user now])).store.tokens =
        (run config es).store.tokens ++ [tokenRow token user now] := by
      rw [run_concat, after, carryOut, added]
    refine ⟨?_, ?_, ?_⟩
    · rw [tokens]
      simp only [List.forall_mem_append, List.forall_mem_singleton]
      exact ⟨fun t ht => (known t ht).1, token, rfl, issued_concat.2 (.inr ⟨now, rfl, taken⟩)⟩
    · intro token' user' issued
      rw [tokens]
      rcases issued_concat.1 issued with before | ⟨now', same, -⟩
      · obtain ⟨t, ht, is⟩ := v.stored token' user' before
        exact ⟨t, List.mem_append_left _ ht, is⟩
      · cases same
        exact ⟨tokenRow token user now, by simp, rfl, rfl⟩
    · rw [tokens]
      simp only [List.forall_mem_append, List.forall_mem_singleton]
      refine ⟨fun t ht => (known t ht).2, u, ?_⟩
      rw [run_concat]
      exact findUser_after h _ found
  · have tokens : (run config (es ++ [e])).store.tokens = (run config es).store.tokens := by
      rw [run_concat]
      by_cases other : ∃ token user now, e = .addToken token user now
      · obtain ⟨token, user, now, rfl⟩ := other
        obtain ⟨-, same⟩ | ⟨-, added⟩ := addToken_cases h (tokenRow token user now)
        · rw [after, carryOut, same]
        · exact absurd ⟨token, user, now, rfl, by rw [added]⟩ entered
      · exact after_tokens h fun token user now he => other ⟨token, user, now, he⟩
    refine ⟨?_, ?_, ?_⟩
    · rw [tokens]
      exact fun t ht => (known t ht).1
    · intro token user issued
      rw [tokens]
      rcases issued_concat.1 issued with before | ⟨now, rfl, taken⟩
      · exact v.stored token user before
      · exact absurd ⟨token, user, now, rfl, taken⟩ entered
    · rw [tokens]
      exact fun t ht => (known t ht).2

theorem run_vouched (config : Config) (es : List Event) : Vouched config es := by
  induction es using List.reverseRecOn with
  | nil =>
    refine ⟨by simp [run], fun token user issued => ?_, by simp [run]⟩
    exact absurd issued issued_nil
  | append_singleton es e ih => exact ih.concat e

end Tokens

section Callers

variable {config : Config} {es : List Event} {r : Request}

theorem caller?_run (config : Config) (es : List Event) {token : String}
    (sent : r.bearer? = some token) : (run config es).store.caller? r =
      .ok (((run config es).store.tokens.find? fun t => t.digest == tokenDigest token).bind
        fun t => (run config es).store.findUser t.user) := by
  rw [Store.caller?, sent]
  dsimp only
  rw [(run_untouched config es).userOfToken]

/-- Nobody is known by a token that was not issued. -/
theorem caller?_unissued (apart : ∀ token t user, r.bearer? = some token →
      Issued config es t user → tokenDigest t = tokenDigest token → t = token)
    (never : ∀ token user, r.bearer? = some token → ¬ Issued config es token user) :
    (run config es).store.caller? r = .ok none := by
  cases sent : r.bearer? with
  | none => rw [Store.caller?, sent]
  | some token =>
    rw [caller?_run config es sent]
    have none_ : ((run config es).store.tokens.find? fun t => t.digest == tokenDigest token) =
        none := by
      refine List.find?_eq_none.2 fun t ht hit => ?_
      obtain ⟨token', digest, issued⟩ := (run_vouched config es).issued t ht
      have same : tokenDigest token' = tokenDigest token := by
        rw [← digest]
        simpa using hit
      obtain rfl := apart token token' t.user sent issued same
      exact never _ _ sent issued
    rw [none_]
    rfl

/-- A token stands for the user it was issued to. -/
theorem caller?_issued {token : String} {user : Uuid} (sent : r.bearer? = some token)
    (issued : Issued config es token user) : ∃ u, (run config es).store.findUser user = some u
      ∧ (run config es).store.caller? r = .ok (some u) := by
  obtain ⟨t, ht, digest, rfl⟩ := (run_vouched config es).stored token user issued
  obtain ⟨u, found⟩ := (run_vouched config es).owned t ht
  -- no other row has the digest of the token
  have hit : ((run config es).store.tokens.find? fun t => t.digest == tokenDigest token) =
      some t :=
    (Store.find?_key_iff (run_keyed config es).digests).2 ⟨ht, digest⟩
  refine ⟨u, found, ?_⟩
  rw [caller?_run config es sent, hit, Option.bind_some, found]

end Callers

section Requests

variable {config : Config} {draw : Draw} {faults : Faults} {r : Request} {s : Store}

/-- The one statement that finds the caller is answered, and what is left goes on from there;
without a token there is no such statement. -/
theorem runFrom_authenticate {α β : Type} {c : Option User} {f : Option User → Action β}
    {k : Except Refusal β → Plan α} (caller : s.caller? r = .ok c) (spared : faults 0 = none) :
    ((authenticate r >>= f).run >>= k).runFrom faults ⟨s, none⟩ =
      ((f c).run >>= k).runFrom (if r.bearer?.isSome then faults.later else faults) ⟨s, none⟩ := by
  unfold Store.caller? at caller
  unfold authenticate
  cases sent : r.bearer? with
  | none =>
    rw [sent] at caller
    obtain rfl := Except.ok.inj caller
    rfl
  | some token =>
    rw [sent] at caller
    have same : (Query.pooled (Store.userOfToken (tokenDigest token)) s).2 = s := by
      rw [Query.pooled]
      split <;> rfl
    have answers : Query.pooled (Store.userOfToken (tokenDigest token)) s = (.ok c, s) :=
      Prod.ext caller same
    refine (Plan.runFrom_query spared).trans ?_
    dsimp only [Option.elim]
    rw [answers]
    rfl

/-- A caller who is not known is refused, whatever the handlers of the route would do. -/
theorem dispatch_unknown (caller : s.caller? r = .ok none) (spared : faults 0 = none)
    (d : Dispatch Handler) :
    (dispatch config draw r d).run.run faults s = (.error .unauthorized, s) := by
  have whole : ((dispatch config draw r d).run >>= Plan.done).runFrom faults ⟨s, none⟩ =
      (.error .unauthorized, ⟨s, none⟩) := runFrom_authenticate caller spared
  rw [Plan.bind_done] at whole
  rw [Plan.run, whole]

theorem handle_unknown (config : Config) (draw : Draw) {s : Service} (caller : s.store.caller? r = .ok none)
    (spared : faults 0 = none) : s.handle config draw faults r =
      (stamp draw r (gate r.method ((Aim.ofPath? r.uri.path).map Aim.place)), s) := by
  have whole : (answer config draw r).runFrom faults ⟨s.store, none⟩ =
      (⟨gate r.method ((Aim.ofPath? r.uri.path).map Aim.place), none⟩, ⟨s.store, none⟩) := by
    unfold answer
    rw [Aim.find?_issues]
    cases Aim.ofPath? r.uri.path with
    | none => rfl
    | some a => exact runFrom_authenticate caller spared
  rw [handle, Plan.run, whole]
  simp

/-- A caller who is known goes where the router says. -/
theorem answer_known {u : User} (caller : s.caller? r = .ok (some u)) (spared : faults 0 = none) :
    (answer config draw r).runFrom faults ⟨s, none⟩ =
      (answerAs config draw r u).runFrom faults.later ⟨s, none⟩ := by
  have sent : r.bearer?.isSome := by
    unfold Store.caller? at caller
    cases sent : r.bearer? with
    | none => simp [sent] at caller
    | some token => rfl
  unfold answer answerAs Router.serve
  cases issues.routes.find? r.uri.path with
  | none => rfl
  | some d =>
    refine (runFrom_authenticate caller spared).trans ?_
    rw [sent, if_pos rfl]
    dsimp only
    unfold withAllow
    cases d.route.handler? r.method with
    | none => rfl
    | some handler =>
      dsimp only
      rw [ExceptT.run_bind, bind_assoc]
      congr 2
      funext reply
      cases reply <;> rfl

theorem handle_known {s : Service} {u : User} (caller : s.store.caller? r = .ok (some u))
    (spared : faults 0 = none) :
    s.handle config draw faults r = s.handleAs config draw faults.later r u := by
  rw [handle, handleAs, Plan.run, Plan.run, answer_known caller spared]

end Requests

/-- A request without a token, or with one that was never issued, is answered by its method
and its route alone: unauthorized on a route of the service, not found elsewhere. Nothing
after the look-up of the token is done, whatever the route's handlers are. A request with a
token that was issued is answered as its user. -/
theorem run_gated (config : Config) (es : List Event) (draw : Draw) (faults : Faults)
    (spared : faults 0 = none) (r : Request)
    (apart : ∀ token t user, r.bearer? = some token → Issued config es t user →
      tokenDigest t = tokenDigest token → t = token) :
    ((∀ token user, r.bearer? = some token → ¬ Issued config es token user) →
      (run config es).handle config draw faults r =
          (stamp draw r (gate r.method ((Aim.ofPath? r.uri.path).map Aim.place)), run config es)
        ∧ ((run config es).handle config draw faults r).1.status =
          (if (Aim.ofPath? r.uri.path).isSome then 401 else 404)
        ∧ ∀ d : Dispatch Handler, (dispatch config draw r d).run.run faults (run config es).store =
          (.error .unauthorized, (run config es).store))
    ∧ ∀ token user, r.bearer? = some token → Issued config es token user →
      ∃ u, (run config es).store.findUser user = some u
        ∧ (run config es).handle config draw faults r =
          (run config es).handleAs config draw faults.later r u := by
  refine ⟨fun never => ?_, fun token user sent issued => ?_⟩
  · have caller := caller?_unissued apart never
    have answered := handle_unknown config draw caller spared
    refine ⟨answered, ?_, dispatch_unknown caller spared⟩
    rw [answered, stamp_status, gate_status, Option.isSome_map]
  · obtain ⟨u, found, caller⟩ := caller?_issued sent issued
    exact ⟨u, found, handle_known caller spared⟩

open Sample in
/-- A key that nobody was given opens nothing; with the key of the owner a request is the
owner's. -/
theorem run_gated_worked :
    ((run config worked).handle config (draw issue) Faults.none
        (byStranger (onIssue "PATCH" {}))).1.status = 401
      ∧ ∃ u, (run config worked).store.findUser owner.id = some u
        ∧ (run config worked).handle config (draw issue) Faults.none (onIssue "GET" {}) =
          (run config worked).handleAs config (draw issue) Faults.none.later (onIssue "GET" {}) u := by
  have only {t : String} {user : Uuid} (issued : Issued config worked t user) : t = "key" := by
    obtain ⟨before, now, later, es, -⟩ := issued
    have mem : Event.addToken t user now ∈ worked := by simp [es]
    simp only [worked, founding, filing, List.mem_append, List.mem_cons, reduceCtorEq,
      List.not_mem_nil, or_false, false_or, Event.addToken.injEq] at mem
    exact mem.1
  have sent : (byStranger (onIssue "PATCH" {})).bearer? = some "other"
      ∧ (onIssue "GET" {}).bearer? = some "key" ∧ tokenDigest "key" ≠ tokenDigest "other" := by
    decide +kernel
  obtain ⟨other, key, apart⟩ := sent
  have issued : Issued config worked "key" owner.id :=
    ⟨[.addUser owner], start, _, rfl, by decide +kernel⟩
  refine ⟨?_, (run_gated config worked (draw issue) Faults.none rfl _ ?_).2 _ _ key issued⟩
  · refine ((run_gated config worked (draw issue) Faults.none rfl _ ?_).1 ?_).2.1
    · intro token t user sent given digest
      obtain rfl := only given
      obtain rfl := Option.some.inj (other.symm.trans sent)
      exact absurd digest apart
    · intro token user sent given
      obtain rfl := only given
      exact absurd (Option.some.inj (other.symm.trans sent)) (by decide)
  · intro token t user sent given _
    exact (only given).trans (Option.some.inj (key.symm.trans sent))

end Service
end IssueTracker
