import IssueTracker.Service.Basic

/-! What a plan comes to, whatever fails on the way. `p.wp fails Q s` says that `Q`
holds of the answer of `p` and of the session it ends in, when `p` starts in the
session `s`. If `fails` holds, every step may meet an error of its own instead of
being carried out; if not, none does. An action has two ends, so its `wp` takes a
condition for the value and one for the refusal. -/

namespace IssueTracker

/-- The failures of a run, if there are any, are allowed for. -/
def Faults.Within (f : Faults) (fails : Prop) : Prop :=
  ∀ n e, f n = some e → fails

theorem Faults.within_true (f : Faults) : f.Within True :=
  fun _ _ _ => trivial

theorem Faults.within_none (fails : Prop) : Faults.none.Within fails :=
  fun _ _ h => absurd h (by simp [Faults.none])

theorem Faults.Within.later {f : Faults} {fails : Prop} (h : f.Within fails) :
    f.later.Within fails :=
  fun n e he => h (n + 1) e he

namespace Plan

variable {α β : Type} {fails : Prop}

def wp (fails : Prop) : Plan α → (α → Session → Prop) → Session → Prop
  | .done a, Q, s => Q a s
  | .query q next, Q, s =>
    (fails → ∀ e, (next (.error e)).wp fails Q s)
      ∧ (next (q s.store).1).wp fails Q { s with store := (q s.store).2 }
  | .start next, Q, s =>
    (fails → ∀ e, (next (.error e)).wp fails Q s)
      ∧ (next (.ok ())).wp fails Q { s with saved := some s.store }
  | .commit next, Q, s =>
    (fails → ∀ e, (next (.error e)).wp fails Q s.rollback)
      ∧ (next (.ok ())).wp fails Q { s with saved := none }

theorem wp_mono {p : Plan α} {Q Q' : α → Session → Prop} (h : ∀ a s, Q a s → Q' a s)
    {s : Session} (hp : p.wp fails Q s) : p.wp fails Q' s := by
  induction p generalizing s with
  | done a => exact h a s hp
  | query q next ih => exact ⟨fun hf e => ih _ (hp.1 hf e), ih _ hp.2⟩
  | start next ih => exact ⟨fun hf e => ih _ (hp.1 hf e), ih _ hp.2⟩
  | commit next ih => exact ⟨fun hf e => ih _ (hp.1 hf e), ih _ hp.2⟩

theorem wp_bind (p : Plan α) (f : α → Plan β) (Q : β → Session → Prop) (s : Session) :
    (p >>= f).wp fails Q s ↔ p.wp fails (fun a s => (f a).wp fails Q s) s := by
  change (p.bind f).wp fails Q s ↔ _
  induction p generalizing s with
  | done a => rfl
  | query q next ih => simp only [bind, wp, ih]
  | start next ih => simp only [bind, wp, ih]
  | commit next ih => simp only [bind, wp, ih]

section Steps

variable {f : Faults} {o : Option DbError} {s : Session}

/-! The first step of a run, by the failure that it meets. -/

theorem runFrom_query {q : Query β} {next : Except DbError β → Plan α} (h : f 0 = o) :
    (query q next).runFrom f s =
      o.elim ((next (q s.store).1).runFrom f.later { s with store := (q s.store).2 }) fun e =>
        (next (.error e)).runFrom f.later s := by
  rw [runFrom, h]
  cases o <;> rfl

theorem runFrom_start {next : Except DbError Unit → Plan α} (h : f 0 = o) :
    (start next).runFrom f s =
      o.elim ((next (.ok ())).runFrom f.later { s with saved := some s.store }) fun e =>
        (next (.error e)).runFrom f.later s := by
  rw [runFrom, h]
  cases o <;> rfl

theorem runFrom_commit {next : Except DbError Unit → Plan α} (h : f 0 = o) :
    (commit next).runFrom f s =
      o.elim ((next (.ok ())).runFrom f.later { s with saved := none }) fun e =>
        (next (.error e)).runFrom f.later s.rollback := by
  rw [runFrom, h]
  cases o <;> rfl

end Steps

/-- The transaction that a plan leaves open is taken back at its end. -/
theorem wp_runFrom {p : Plan α} {Q : α → Session → Prop} {f : Faults} (hf : f.Within fails)
    {s : Session} (h : p.wp fails (fun a s => Q a s.rollback) s) :
    Q (p.runFrom f s).1 (p.runFrom f s).2 := by
  induction p generalizing f s with
  | done a => exact h
  | query q next ih =>
    rw [runFrom]
    split
    · next e he => exact ih _ hf.later (h.1 (hf 0 e he) e)
    · exact ih _ hf.later h.2
  | start next ih =>
    rw [runFrom]
    split
    · next e he => exact ih _ hf.later (h.1 (hf 0 e he) e)
    · exact ih _ hf.later h.2
  | commit next ih =>
    rw [runFrom]
    split
    · next e he => exact ih _ hf.later (h.1 (hf 0 e he) e)
    · exact ih _ hf.later h.2

theorem wp_run {p : Plan α} {Q : α → Store → Prop} {f : Faults} (hf : f.Within fails) {s : Store}
    (h : p.wp fails (fun a s => Q a s.rollback.store) ⟨s, none⟩) : Q (p.run f s).1 (p.run f s).2 :=
  wp_runFrom (Q := fun a s => Q a s.store) hf h

end Plan

namespace Action

variable {α β : Type} {fails : Prop} {Q : α → Session → Prop} {R : Refusal → Session → Prop}
  {s : Session}

/-- One condition for both ends of an action. -/
def ends (Q : α → Session → Prop) (R : Refusal → Session → Prop) :
    Except Refusal α → Session → Prop
  | .ok a, s => Q a s
  | .error e, s => R e s

def wp (fails : Prop) (a : Action α) (Q : α → Session → Prop) (R : Refusal → Session → Prop)
    (s : Session) : Prop :=
  a.run.wp fails (ends Q R) s

theorem wp_pure (a : α) : wp fails (pure a) Q R s ↔ Q a s :=
  Iff.rfl

theorem wp_bind (a : Action β) (f : β → Action α) :
    wp fails (a >>= f) Q R s ↔ wp fails a (fun b s => wp fails (f b) Q R s) R s := by
  rw [wp, ExceptT.run_bind, Plan.wp_bind]
  constructor
  · refine Plan.wp_mono fun r s h => ?_
    cases r with
    | ok b => exact h
    | error e => exact h
  · refine Plan.wp_mono fun r s h => ?_
    cases r with
    | ok b => exact h
    | error e => exact h

/-- A value that is asked for, and what is done with it. -/
theorem wp_require {o : Option β} {e : Refusal} {f : β → Action α}
    (some_ : ∀ b, o = some b → wp fails (f b) Q R s) (none_ : o = none → R e s) :
    wp fails (require o e >>= f) Q R s := by
  cases o with
  | none => exact none_ rfl
  | some b => exact some_ b rfl

/-- A statement and what is done with its answer. If it fails, or is not carried out, it
is refused. -/
theorem wp_ask {q : Query β} {refuse : DbError → Refusal} {f : β → Action α}
    (ok : ∀ b, (q s.store).1 = .ok b → wp fails (f b) Q R { s with store := (q s.store).2 })
    (error : ∀ e, (q s.store).1 = .error e → R (refuse e) { s with store := (q s.store).2 })
    (skipped : fails → ∀ e, R (refuse e) s) :
    wp fails (ask q refuse >>= f) Q R s := by
  rw [wp_bind, wp]
  refine (Plan.wp_bind _ _ _ _).2 ⟨skipped, ?_⟩
  cases h : (q s.store).1 with
  | ok b => exact ok b h
  | error e => exact error e h

/-- A statement that only reads, and what is done with its answer. -/
theorem wp_fetch {q : Query β} {f : β → Action α} (same : (q s.store).2 = s.store)
    (ok : ∀ b, (q s.store).1 = .ok b → wp fails (f b) Q R s)
    (failed : fails ∨ (∃ e, (q s.store).1 = .error e) → R .storage s) :
    wp fails (fetch q >>= f) Q R s := by
  refine wp_ask ?_ ?_ fun hf _ => failed (.inl hf)
  · rw [same]
    exact ok
  · rw [same]
    exact fun e he => failed (.inr ⟨e, he⟩)

theorem wp_fetch_ok {q : Query β} {f : β → Action α} {b : β}
    (answers : q s.store = (.ok b, s.store)) (next : wp False (f b) Q R s) :
    wp False (fetch q >>= f) Q R s := by
  refine wp_fetch (by rw [answers]) (fun b' hb => ?_) fun hf => ?_
  · rw [answers] at hb
    obtain rfl := Except.ok.inj hb
    exact next
  · rw [answers] at hf
    simp at hf

theorem wp_fetch_error {q : Query β} {f : β → Action α} {e : DbError}
    (fails_ : q s.store = (.error e, s.store)) (refused : R .storage s) :
    wp False (fetch q >>= f) Q R s := by
  refine wp_fetch (by rw [fails_]) (fun b hb => ?_) fun _ => refused
  rw [fails_] at hb
  cases hb

/-- From here on a refusal takes back what the transaction did. -/
theorem wp_begin {f : Unit → Action α}
    (ok : wp fails (f ()) Q R { s with saved := some s.store }) (skipped : fails → R .storage s) :
    wp fails (begin >>= f) Q R s :=
  (wp_bind _ _).2 ⟨fun hf _ => skipped hf, ok⟩

theorem wp_commit {refuse : DbError → Refusal} {f : Unit → Action α}
    (ok : wp fails (f ()) Q R { s with saved := none })
    (skipped : fails → ∀ e, R (refuse e) s.rollback) :
    wp fails (commit refuse >>= f) Q R s :=
  (wp_bind _ _).2 ⟨skipped, ok⟩

end Action
end IssueTracker
