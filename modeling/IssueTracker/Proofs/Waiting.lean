import IssueTracker.Backlog
import Mathlib.Data.List.Induction
import Mathlib.Data.List.Perm.Basic

/-! What the parties of the backlog can rely on, however their steps are mixed. The counter
is the number of jobs that are somewhere between their submission and their end; jobs are
processed in the order in which they were sent; and nobody waits in vain: whoever returns
has looked at a moment at which all that had been counted was over, and whoever is parked
when the counter is zero has been woken, unless a wake-up is on its way. -/

namespace IssueTracker
namespace Backlog

/-- The job that is still to be sent. -/
def Submission.job? : Submission → Option Uuid
  | .counted job => some job
  | _ => none

/-- The job that is being processed. -/
def Worker.job? : Worker → Option Uuid
  | .busy job => some job
  | _ => none

/-- The submission keeps a job counted. -/
def Submission.holds : Submission → Bool
  | .telling => false
  | _ => true

/-- How many jobs the worker keeps counted. -/
def Worker.held : Worker → Nat
  | .busy _ => 1
  | .over => 1
  | .free => 0
  | .telling => 0

/-- A step of the worker or of a submission that lowers the counter. -/
def Step.lowers : Step → Prop
  | .lower => True
  | .settle _ => True
  | _ => False

namespace State

/-- The jobs that are being sent. -/
def sending (s : State) : List Uuid :=
  s.submissions.filterMap Submission.job?

/-- How many jobs are being processed. -/
def inProcess (s : State) : Nat :=
  s.worker.job?.toList.length

/-- How many jobs were refused or processed and are still counted. -/
def unsettled (s : State) : Nat :=
  s.submissions.count .refused + if s.worker = .over then 1 else 0

/-- What a step can do. Of the submissions only those that it is about matter, not their
order; `rest` are the others. -/
inductive Takes (s : State) : Step → State → Prop where
  | count (job : Uuid) :
    Takes s (.count job) { s with
      pending := s.pending + 1
      submissions := s.submissions ++ [.counted job]
      counted := s.counted ++ [job] }
  | send {i : Nat} {job : Uuid} {rest after : List Submission}
    (here : s.gone = false) (before : s.submissions.Perm (.counted job :: rest))
    (left : after.Perm rest) : Takes s (.send i) { s with
      submissions := after
      channel := s.channel ++ [job]
      sent := s.sent ++ [job] }
  | refuse {i : Nat} {job : Uuid} {rest after : List Submission}
    (gone : s.gone = true) (before : s.submissions.Perm (.counted job :: rest))
    (left : after.Perm (.refused :: rest)) : Takes s (.send i) { s with
      submissions := after
      dropped := s.dropped ++ [job] }
  | settle {i : Nat} {rest after : List Submission}
    (before : s.submissions.Perm (.refused :: rest)) (more : s.pending ≠ 1)
    (left : after.Perm rest) :
    Takes s (.settle i) { s with pending := s.pending - 1, submissions := after }
  | settleLast {i : Nat} {rest after : List Submission}
    (before : s.submissions.Perm (.refused :: rest)) (last : s.pending = 1)
    (left : after.Perm (.telling :: rest)) :
    Takes s (.settle i) { s with pending := s.pending - 1, submissions := after }
  | tell {i : Nat} {rest after : List Submission}
    (before : s.submissions.Perm (.telling :: rest)) (left : after.Perm rest) :
    Takes s (.tell i) { s with submissions := after }.wakeAll
  | take {job : Uuid} {rest : List Uuid} (here : s.gone = false) (free : s.worker = .free)
    (front : s.channel = job :: rest) :
    Takes s .take { s with worker := .busy job, channel := rest }
  | process {job : Uuid} (here : s.gone = false) (busy : s.worker = .busy job) :
    Takes s .process { s with worker := .over, processed := s.processed ++ [job] }
  | lower (ended : s.worker = .over) (more : s.pending ≠ 1) :
    Takes s .lower { s with pending := s.pending - 1, worker := .free }
  | lowerLast (ended : s.worker = .over) (last : s.pending = 1) :
    Takes s .lower { s with pending := s.pending - 1, worker := .telling }
  | announce (telling : s.worker = .telling) :
    Takes s .announce { s with worker := .free }.wakeAll
  | leave (unbound : s.worker = .free ∨ ∃ job, s.worker = .busy job) :
    Takes s .leave { s with gone := true }
  | arrive : Takes s .arrive { s with waiters := s.waiters ++ [.arrived] }
  | register {i : Nat} (here : s.waiters[i]? = some .arrived) :
    Takes s (.register i) { s with waiters := s.waiters.set i (.registered false) }
  | goOn {i : Nat} {woken : Bool} (here : s.waiters[i]? = some (.registered woken))
    (zero : s.pending = 0) : Takes s (.look i) { s with waiters := s.waiters.set i .returned }
  | park {i : Nat} {woken : Bool} (here : s.waiters[i]? = some (.registered woken))
    (more : s.pending ≠ 0) :
    Takes s (.look i) { s with waiters := s.waiters.set i (.parked woken) }
  | resume {i : Nat} (here : s.waiters[i]? = some (.parked true)) :
    Takes s (.resume i) { s with waiters := s.waiters.set i .arrived }

/-- The element at a place, in front of the others. -/
theorem perm_of_getElem? {α : Type} {l : List α} {i : Nat} {a : α} (h : l[i]? = some a) :
    l.Perm (a :: l.eraseIdx i) := by
  obtain ⟨inside, rfl⟩ := List.getElem?_eq_some_iff.1 h
  exact (List.getElem_cons_eraseIdx_perm inside).symm

theorem perm_set_of_getElem? {α : Type} {l : List α} {i : Nat} {a : α} (h : l[i]? = some a)
    (b : α) : (l.set i b).Perm (b :: l.eraseIdx i) := by
  obtain ⟨inside, -⟩ := List.getElem?_eq_some_iff.1 h
  exact List.set_perm_cons_eraseIdx inside b

variable {s t : State} {e : Step}

theorem takes_of_next? (h : s.next? e = some t) : Takes s e t := by
  cases e with
  | count job =>
    obtain rfl := Option.some.inj h
    exact .count job
  | send i =>
    simp only [next?] at h
    split at h
    · next job here =>
      split at h
      · next gone =>
        obtain rfl := Option.some.inj h
        exact .refuse gone (perm_of_getElem? here) (perm_set_of_getElem? here _)
      · next present =>
        obtain rfl := Option.some.inj h
        exact .send (by simpa using present) (perm_of_getElem? here) (.refl _)
    · cases h
  | settle i =>
    simp only [next?] at h
    split at h
    · next here =>
      obtain rfl := Option.some.inj h
      by_cases last : s.pending = 1
      · exact .settleLast (perm_of_getElem? here) last (by
          rw [if_pos last]; exact perm_set_of_getElem? here _)
      · exact .settle (perm_of_getElem? here) last (by rw [if_neg last])
    · cases h
  | tell i =>
    simp only [next?] at h
    split at h
    · next here =>
      obtain rfl := Option.some.inj h
      exact .tell (perm_of_getElem? here) (.refl _)
    · cases h
  | take =>
    simp only [next?] at h
    split at h
    · next here free front =>
      obtain rfl := Option.some.inj h
      exact .take here free front
    · cases h
  | process =>
    simp only [next?] at h
    split at h
    · next here busy =>
      obtain rfl := Option.some.inj h
      exact .process here busy
    · cases h
  | lower =>
    simp only [next?] at h
    split at h
    · next ended =>
      obtain rfl := Option.some.inj h
      by_cases last : s.pending = 1
      · rw [if_pos last]
        exact .lowerLast ended last
      · rw [if_neg last]
        exact .lower ended last
    · cases h
  | announce =>
    simp only [next?] at h
    split at h
    · next telling =>
      obtain rfl := Option.some.inj h
      exact .announce telling
    · cases h
  | leave =>
    simp only [next?] at h
    split at h
    · next free =>
      obtain rfl := Option.some.inj h
      exact .leave (.inl free)
    · next job busy =>
      obtain rfl := Option.some.inj h
      exact .leave (.inr ⟨job, busy⟩)
    · cases h
  | arrive =>
    obtain rfl := Option.some.inj h
    exact .arrive
  | register i =>
    simp only [next?] at h
    split at h
    · next here =>
      obtain rfl := Option.some.inj h
      exact .register here
    · cases h
  | look i =>
    simp only [next?] at h
    split at h
    · next woken here =>
      obtain rfl := Option.some.inj h
      by_cases zero : s.pending = 0
      · rw [if_pos zero]
        exact .goOn here zero
      · rw [if_neg zero]
        exact .park here zero
    · cases h
  | resume i =>
    simp only [next?] at h
    split at h
    · next here =>
      obtain rfl := Option.some.inj h
      exact .resume here
    · cases h

/-- How many jobs are under way. -/
def held (s : State) : Nat :=
  s.submissions.countP Submission.holds + s.channel.length + s.worker.held

theorem holding_of_perm {a : Submission} {rest l : List Submission} (p : l.Perm (a :: rest)) :
    l.countP Submission.holds =
      rest.countP Submission.holds + if a.holds then 1 else 0 := by
  rw [p.countP_eq, List.countP_cons]

theorem held_eq (s : State) :
    s.held = s.sending.length + s.channel.length + s.inProcess + s.unsettled := by
  have submitted (l : List Submission) : l.countP Submission.holds =
      (l.filterMap Submission.job?).length + l.count .refused := by
    induction l with
    | nil => rfl
    | cons a l ih =>
      rw [List.countP_cons, ih, List.filterMap_cons, List.count_cons]
      cases a with
      | counted job => simp [Submission.holds, Submission.job?, Nat.add_right_comm]
      | refused => simp [Submission.holds, Submission.job?, Nat.add_assoc]
      | telling => simp [Submission.holds, Submission.job?]
  have working (w : Worker) : w.held = w.job?.toList.length + if w = .over then 1 else 0 := by
    cases w <;> rfl
  rw [held, submitted, working, sending, inProcess, unsettled]
  omega

/-- No step makes the counter wrong, and one that lowers it finds something to subtract. -/
theorem Takes.pending (h : s.pending = s.held) (takes : Takes s e t) :
    t.pending = t.held ∧ (e.lowers → t.pending + 1 = s.pending) := by
  unfold held at h ⊢
  cases takes with
  | count job =>
    refine ⟨?_, False.elim⟩
    simp only [List.countP_append, List.countP_singleton, Submission.holds, if_true]
    omega
  | send here before left =>
    refine ⟨?_, False.elim⟩
    rw [holding_of_perm before] at h
    simp only [left.countP_eq, List.length_append, List.length_singleton, Submission.holds,
      if_true] at *
    omega
  | refuse gone before left =>
    rw [holding_of_perm before] at h
    exact ⟨by rw [holding_of_perm left]; exact h, False.elim⟩
  | settle before more left =>
    rw [holding_of_perm before] at h
    simp only [left.countP_eq, Submission.holds, if_true] at *
    omega
  | settleLast before last left =>
    rw [holding_of_perm before] at h
    simp only [holding_of_perm left, Submission.holds, if_true, Bool.false_eq_true, if_false] at *
    omega
  | tell before left =>
    rw [holding_of_perm before] at h
    simp only [wakeAll, left.countP_eq, Submission.holds, Bool.false_eq_true, if_false] at *
    exact ⟨by omega, False.elim⟩
  | take here free front =>
    simp only [free, front, List.length_cons, Worker.held] at *
    exact ⟨by omega, False.elim⟩
  | process here busy =>
    simp only [busy, Worker.held] at *
    exact ⟨h, False.elim⟩
  | lower ended more =>
    simp only [ended, Worker.held] at *
    omega
  | lowerLast ended last =>
    simp only [ended, Worker.held] at *
    omega
  | announce telling =>
    simp only [wakeAll, telling, Worker.held] at *
    exact ⟨h, False.elim⟩
  | leave | arrive | register | goOn | park | resume => exact ⟨h, False.elim⟩

theorem sending_of_some {a : Submission} {job : Uuid} {rest l : List Submission}
    (p : l.Perm (a :: rest)) (has : a.job? = some job) :
    (l.filterMap Submission.job?).Perm (job :: rest.filterMap Submission.job?) :=
  (p.filterMap _).trans (.of_eq (List.filterMap_cons_some has))

theorem sending_of_none {a : Submission} {rest l : List Submission} (p : l.Perm (a :: rest))
    (has : a.job? = none) :
    (l.filterMap Submission.job?).Perm (rest.filterMap Submission.job?) :=
  (p.filterMap _).trans (.of_eq (List.filterMap_cons_none has))

theorem Takes.counted (h : s.counted.Perm (s.sending ++ s.dropped ++ s.sent))
    (takes : Takes s e t) : t.counted.Perm (t.sending ++ t.dropped ++ t.sent) := by
  have same {js : List Uuid} (p : js.Perm s.sending) :
      s.counted.Perm (js ++ s.dropped ++ s.sent) :=
    h.trans ((p.symm.append_right _).append_right _)
  cases takes with
  | count job =>
    refine List.perm_iff_count.2 fun x => ?_
    have := h.count_eq x
    simp only [sending, Submission.job?, List.filterMap_append, List.filterMap_cons,
      List.filterMap_nil, List.count_append] at this ⊢
    omega
  | send here before left =>
    refine List.perm_iff_count.2 fun x => ?_
    have := h.count_eq x
    simp only [sending, (sending_of_some before rfl).count_eq, (left.filterMap _).count_eq,
      List.count_append, List.count_cons, List.count_nil] at this ⊢
    omega
  | refuse gone before left =>
    refine List.perm_iff_count.2 fun x => ?_
    have := h.count_eq x
    simp only [sending, (sending_of_some before rfl).count_eq, (sending_of_none left rfl).count_eq,
      List.count_append, List.count_cons, List.count_nil] at this ⊢
    omega
  | settle before more left =>
    exact same ((left.filterMap _).trans (sending_of_none before rfl).symm)
  | settleLast before last left =>
    exact same ((sending_of_none left rfl).trans (sending_of_none before rfl).symm)
  | tell before left =>
    exact same ((left.filterMap _).trans (sending_of_none before rfl).symm)
  | take | process | lower | lowerLast | announce | leave | arrive | register | goOn | park
  | resume => exact h

theorem Takes.sent (h : s.sent = s.processed ++ s.worker.job?.toList ++ s.channel)
    (takes : Takes s e t) : t.sent = t.processed ++ t.worker.job?.toList ++ t.channel := by
  cases takes with
  | send => exact (congrArg (· ++ _) h).trans (List.append_assoc _ _ _)
  | take here free front =>
    rw [free, front] at h
    simpa [Worker.job?] using h
  | process here busy =>
    rw [busy] at h
    simpa [Worker.job?] using h
  | lower ended => rwa [ended] at h
  | lowerLast ended => rwa [ended] at h
  | announce telling =>
    rw [telling] at h
    exact h
  | count | refuse | settle | settleLast | tell | leave | arrive | register | goOn | park
  | resume => exact h

/-- A wake-up is still to come. -/
def Alarmed (s : State) : Prop :=
  .telling ∈ s.submissions ∨ s.worker = .telling

/-- Nobody is parked in vain: as long as somebody is parked and was not told, a job is
counted or a wake-up is still to come. -/
def Attended (s : State) : Prop :=
  .parked false ∈ s.waiters → s.pending = 0 → s.Alarmed

theorem unparked_wakeAll (s : State) : .parked false ∉ s.wakeAll.waiters := by
  intro h
  obtain ⟨w, -, hw⟩ := List.mem_map.1 h
  cases w <;> cases hw

/-- A waiter that was written is not parked, unless it is the one that stands there now. -/
theorem parked_of_set {i : Nat} {w : Waiter} (h : .parked false ∈ s.waiters.set i w)
    (other : w ≠ .parked false) : .parked false ∈ s.waiters := by
  rcases List.mem_or_eq_of_mem_set h with h | h
  · exact h
  · exact absurd h.symm other

theorem Takes.attended (counter : s.pending = s.held) (h : s.Attended) (takes : Takes s e t) :
    t.Attended := by
  have fewer (lowers : e.lowers) : t.pending + 1 = s.pending := (takes.pending counter).2 lowers
  cases takes with
  | count job => exact fun _ zero => by cases zero
  | send here before left =>
    intro parked zero
    rcases h parked zero with told | told
    · exact .inl (left.mem_iff.2 (by simpa using before.mem_iff.1 told))
    · exact .inr told
  | refuse gone before left =>
    intro parked zero
    rcases h parked zero with told | told
    · exact .inl (left.mem_iff.2 (by simpa using before.mem_iff.1 told))
    · exact .inr told
  | settle before more left =>
    -- another job is still counted
    intro parked zero
    have := fewer trivial
    dsimp only at this zero
    omega
  | settleLast before last left => exact fun _ _ => .inl (left.mem_iff.2 List.mem_cons_self)
  | tell => exact fun parked => absurd parked (unparked_wakeAll _)
  | take here free front =>
    intro parked zero
    rcases h parked zero with told | told
    · exact .inl told
    · exact absurd (free.symm.trans told) (by decide)
  | process here busy =>
    intro parked zero
    rcases h parked zero with told | told
    · exact .inl told
    · exact absurd (busy.symm.trans told) (by simp)
  | lower ended more =>
    intro parked zero
    have := fewer trivial
    dsimp only at this zero
    omega
  | lowerLast ended last => exact fun _ _ => .inr rfl
  | announce => exact fun parked => absurd parked (unparked_wakeAll _)
  | leave => exact h
  | arrive => exact fun parked => h (by simpa using parked)
  | register => exact fun parked => h (parked_of_set parked (by simp))
  | goOn => exact fun parked => h (parked_of_set parked (by simp))
  | park here more => exact fun _ zero => absurd zero more
  | resume => exact fun parked => h (parked_of_set parked (by simp))

/-- What the parties can rely on. -/
structure Kept (s : State) : Prop where
  pending : s.pending = s.held
  counted : s.counted.Perm (s.sending ++ s.dropped ++ s.sent)
  sent : s.sent = s.processed ++ s.worker.job?.toList ++ s.channel
  attended : s.Attended

theorem Kept.start : Kept {} :=
  ⟨rfl, .refl _, rfl, fun parked => by cases parked⟩

theorem Kept.next (h : s.Kept) (takes : Takes s e t) : t.Kept :=
  ⟨(takes.pending h.pending).1, takes.counted h.counted, takes.sent h.sent,
    takes.attended h.pending h.attended⟩

/-- When nothing is counted, all that ever was is over. -/
theorem Kept.ended (h : s.Kept) (zero : s.pending = 0) :
    s.counted.Perm (s.processed ++ s.dropped) := by
  have none_ : s.sending.length + s.channel.length + s.inProcess + s.unsettled = 0 := by
    rw [← held_eq, ← h.pending, zero]
  have sending : s.sending = [] := List.length_eq_zero_iff.1 (by omega)
  have channel : s.channel = [] := List.length_eq_zero_iff.1 (by omega)
  have inProcess : s.worker.job?.toList = [] := List.length_eq_zero_iff.1 (by
    rw [State.inProcess] at none_; omega)
  have counted := h.counted
  rw [h.sent, sending, channel, inProcess, List.nil_append, List.append_nil,
    List.append_nil] at counted
  exact counted.trans List.perm_append_comm

/-- A waiter that has returned had returned before, or has just seen that nothing is counted. -/
theorem Takes.returned {i : Nat} (takes : Takes s e t) (here : t.waiters[i]? = some .returned) :
    s.waiters[i]? = some .returned ∨ (e = .look i ∧ s.pending = 0) := by
  have woken {s : State} (h : s.wakeAll.waiters[i]? = some .returned) :
      s.waiters[i]? = some .returned := by
    rw [wakeAll, List.getElem?_map, Option.map_eq_some_iff] at h
    obtain ⟨w, hw, same⟩ := h
    cases w <;> first | exact hw | cases same
  have written {k : Nat} {w : Waiter} (h : (s.waiters.set k w)[i]? = some .returned) :
      s.waiters[i]? = some .returned ∨ (k = i ∧ w = .returned) := by
    rw [List.getElem?_set] at h
    split at h
    · next same =>
      split at h
      · exact .inr ⟨same, Option.some.inj h⟩
      · cases h
    · exact .inl h
  cases takes with
  | tell => exact .inl (woken here)
  | announce => exact .inl (woken here)
  | arrive =>
    refine .inl ?_
    rw [List.getElem?_append] at here
    split at here
    · exact here
    · simp [List.getElem?_singleton] at here
  | register => exact (written here).imp_right fun h => absurd h.2 (by simp)
  | goOn _ zero => exact (written here).imp_right fun h => ⟨by rw [h.1], zero⟩
  | park => exact (written here).imp_right fun h => absurd h.2 (by simp)
  | resume => exact (written here).imp_right fun h => absurd h.2 (by simp)
  | _ => exact .inl here

theorem run?_concat (es : List Step) (e : Step) (s : State) :
    s.run? (es ++ [e]) = (s.run? es).bind fun t => t.next? e := by
  induction es generalizing s with
  | nil => simp [run?]
  | cons d es ih =>
    rw [List.cons_append, run?, run?]
    cases s.next? d with
    | none => rfl
    | some t => exact ih t

theorem run?_kept {es : List Step} (h : run? {} es = some s) : s.Kept := by
  induction es using List.reverseRecOn generalizing s with
  | nil =>
    obtain rfl := Option.some.inj h
    exact Kept.start
  | append_singleton es e ih =>
    rw [run?_concat] at h
    obtain ⟨t, before, step⟩ := Option.bind_eq_some_iff.1 h
    exact (ih before).next (takes_of_next? step)

/-- Who has returned has looked at a moment at which nothing was counted. -/
theorem run?_returned {es : List Step} {i : Nat} (h : run? {} es = some s)
    (here : s.waiters[i]? = some .returned) :
    ∃ before later t, es = before ++ .look i :: later ∧ run? {} before = some t
      ∧ t.pending = 0 := by
  induction es using List.reverseRecOn generalizing s with
  | nil =>
    obtain rfl := Option.some.inj h
    cases here
  | append_singleton es e ih =>
    rw [run?_concat] at h
    obtain ⟨t, hrun, step⟩ := Option.bind_eq_some_iff.1 h
    rcases (takes_of_next? step).returned here with earlier | ⟨rfl, zero⟩
    · obtain ⟨before, later, u, rfl, hu, zero⟩ := ih hrun earlier
      exact ⟨before, later ++ [e], u, by simp, hu, zero⟩
    · exact ⟨es, [], t, rfl, hrun, zero⟩

end State

open State

/-- However the steps of all parties are mixed: the counter is the number of jobs that are
being sent, wait in the channel, are processed, or are over and not yet subtracted, and a
step that lowers it finds something to subtract. Jobs are processed in the order in which
they were sent, each once. Whoever has returned has looked at a moment at which all jobs
that had been counted were processed or dropped. And when nothing is counted and nobody is
about to tell the waiters, nobody is parked without having been woken. -/
theorem run?_watched (es : List Step) (s : State) (h : State.run? {} es = some s) :
    s.pending = s.sending.length + s.channel.length + s.inProcess + s.unsettled
    ∧ (∀ e t, s.next? e = some t → e.lowers → t.pending + 1 = s.pending)
    ∧ (s.sent = s.processed ++ s.worker.job?.toList ++ s.channel
      ∧ s.counted.Perm (s.sending ++ s.dropped ++ s.sent))
    ∧ (∀ i : Nat, s.waiters[i]? = some .returned →
      ∃ before later t, es = before ++ .look i :: later ∧ State.run? {} before = some t
        ∧ t.pending = 0 ∧ t.counted.Perm (t.processed ++ t.dropped))
    ∧ (s.pending = 0 → .telling ∉ s.submissions → s.worker ≠ .telling →
      .parked false ∉ s.waiters) := by
  have kept := run?_kept h
  refine ⟨kept.pending.trans s.held_eq, fun e t step lowers => ?_, ⟨kept.sent, kept.counted⟩,
    fun i here => ?_, fun zero quiet free parked => ?_⟩
  · exact ((takes_of_next? step).pending kept.pending).2 lowers
  · obtain ⟨before, later, t, split, hrun, zero⟩ := run?_returned h here
    exact ⟨before, later, t, split, hrun, zero, (run?_kept hrun).ended zero⟩
  · rcases kept.attended parked zero with told | told
    · exact quiet told
    · exact free told

/-- One job, and somebody who is parked until it is over. -/
def parkedOnce : List Step :=
  [.count Uuid.zero, .arrive, .register 0, .look 0, .send 0, .take, .process, .lower, .announce,
    .resume 0, .register 0, .look 0]

theorem run?_watched_parkedOnce :
    ∃ s, State.run? {} parkedOnce = some s
      ∧ (s.waiters[0]? = some .returned
        ∧ ∃ before later t, parkedOnce = before ++ .look 0 :: later
          ∧ State.run? {} before = some t ∧ t.pending = 0
          ∧ t.counted.Perm (t.processed ++ t.dropped))
      ∧ (s.pending = 0 ∧ .telling ∉ s.submissions ∧ s.worker ≠ .telling)
      ∧ .parked false ∉ s.waiters := by
  obtain ⟨s, hrun, returned, zero, quiet, free⟩ :
      ∃ s, State.run? {} parkedOnce = some s ∧ s.waiters[0]? = some .returned
        ∧ s.pending = 0 ∧ .telling ∉ s.submissions ∧ s.worker ≠ .telling :=
    ⟨_, rfl, rfl, rfl, by decide, by decide⟩
  obtain ⟨-, -, -, seen, unparked⟩ := run?_watched parkedOnce s hrun
  exact ⟨s, hrun, ⟨returned, seen 0 returned⟩, ⟨zero, quiet, free⟩, unparked zero quiet free⟩

end Backlog
end IssueTracker
