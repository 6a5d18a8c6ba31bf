import IssueTracker.Config
import IssueTracker.Proofs.Numerals
import IssueTracker.Proofs.Paging

/-! Which environments make a configuration. `Config.causes` lists what can be wrong with
one, in the order in which it is noticed; the first cause that applies is what is
answered, and if none does, the configuration follows the variables and is sound. -/

namespace IssueTracker

/-- The first cause that applies is to blame; if none does, nothing is. -/
inductive Blamed {ε : Type} : List (Prop × ε) → Option ε → Prop where
  | none : Blamed [] none
  | here {p : Prop} {e : ε} {cs : List (Prop × ε)} (applies : p) : Blamed ((p, e) :: cs) (some e)
  | later {p : Prop} {e : ε} {cs : List (Prop × ε)} {r : Option ε} (spared : ¬ p)
    (rest : Blamed cs r) : Blamed ((p, e) :: cs) r

section Blame

variable {ε α β γ : Type} {cs : List (Prop × ε)} {p : Prop} {e : ε}

theorem Blamed.unique {r r' : Option ε} (h : Blamed cs r) (h' : Blamed cs r') : r = r' := by
  induction h with
  | none =>
    cases h'
    rfl
  | here applies =>
    cases h' with
    | here => rfl
    | later spared => exact absurd applies spared
  | later spared _ ih =>
    cases h' with
    | here applies => exact absurd applies spared
    | later _ rest => exact ih rest

/-- What a reading comes to: the first cause that applies or, if none does, a value with a
property. -/
def Comes (cs : List (Prop × ε)) (Q : α → Prop) : Except ε α → Prop
  | .error e => Blamed cs (some e)
  | .ok a => Blamed cs none ∧ Q a

theorem comes_later {Q : α → Prop} {r : Except ε α} (spared : ¬ p) (rest : Comes cs Q r) :
    Comes ((p, e) :: cs) Q r := by
  cases r with
  | error e' => exact Blamed.later spared rest
  | ok a => exact ⟨.later spared rest.1, rest.2⟩

/-- A check, and what is done when it is passed. -/
theorem comes_check {Q : β → Prop} {c : Prop} [Decidable c] {k : γ → Except ε α}
    {r : Except ε α} {f : α → Except ε β} (same : c ↔ p) (passed : ¬ c → Comes cs Q (r >>= f)) :
    Comes ((p, e) :: cs) Q ((if c then throw e >>= k else r) >>= f) := by
  by_cases fails : c
  · rw [if_pos fails]
    exact Blamed.here (same.1 fails)
  · rw [if_neg fails]
    exact comes_later (fun h => fails (same.2 h)) (passed fails)

end Blame

namespace Environment

variable {α β : Type} {env env' : Environment} {name : String} {Writes : String → α → Prop}
  {parse : String → Option α} {default : α}

/-- The variable has a value, and not the empty one. -/
def Given (env : Environment) (name s : String) : Prop :=
  env name = some s ∧ s ≠ ""

/-- The value of the variable is no number of this kind. -/
def Bad (env : Environment) (name : String) (Writes : String → α → Prop) : Prop :=
  ∃ s, env.Given name s ∧ ∀ a, ¬ Writes s a

/-- What the variable stands for: the number that it writes, or the default. -/
inductive Says (env : Environment) (name : String) (Writes : String → α → Prop) (default : α) :
    α → Prop where
  | given {s : String} {a : α} (given : env.Given name s) (writes : Writes s a) :
    Says env name Writes default a
  | unset (unset : ∀ s, ¬ env.Given name s) : Says env name Writes default default

theorem Given.unique {s s' : String} (h : env.Given name s) (h' : env.Given name s') : s = s' :=
  Option.some.inj (h.1.symm.trans h'.1)

theorem number_of_given {s : String} (given : env.Given name s) :
    env.number name parse default =
      match parse s with
      | some a => .ok a
      | none => .error (.invalid name) := by
  rw [number, given.1]
  cases parsed : parse s with
  | none => simp [given.2, parsed]
  | some a => simp [given.2, parsed]

theorem number_of_unset (unset : ∀ s, ¬ env.Given name s) :
    env.number name parse default = .ok default := by
  unfold number
  cases value : env name with
  | none => rfl
  | some s =>
    have empty : s = "" := Decidable.byContradiction fun some_ => unset s ⟨value, some_⟩
    simp [empty]

/-- An empty value is as good as none. -/
theorem number_congr (same : ∀ s, env.Given name s ↔ env'.Given name s) :
    env.number name parse default = env'.number name parse default := by
  by_cases h : ∃ s, env.Given name s
  · obtain ⟨s, given⟩ := h
    rw [number_of_given given, number_of_given ((same s).1 given)]
  · rw [number_of_unset (not_exists.1 h),
      number_of_unset fun s given => not_exists.1 h s ((same s).2 given)]

/-- A variable is refused when it is bad, and stands for one number otherwise. -/
theorem number_cases (env : Environment) (name : String) (default : α)
    (reads : ∀ s a, parse s = some a ↔ Writes s a) :
    (env.Bad name Writes ∧ env.number name parse default = .error (.invalid name))
    ∨ (¬ env.Bad name Writes ∧ ∃ a, (∀ b, env.Says name Writes default b ↔ b = a)
      ∧ env.number name parse default = .ok a) := by
  by_cases h : ∃ s, env.Given name s
  · obtain ⟨s, given⟩ := h
    rw [number_of_given given]
    cases parsed : parse s with
    | none =>
      refine .inl ⟨⟨s, given, fun a writes => ?_⟩, rfl⟩
      rw [(reads s a).2 writes] at parsed
      cases parsed
    | some a =>
      have writes := (reads s a).1 parsed
      refine .inr ⟨fun ⟨s', other, none_⟩ => none_ a (given.unique other ▸ writes), a,
        fun b => ⟨fun h => ?_, fun same => same ▸ .given given writes⟩, rfl⟩
      cases h with
      | given other wrote =>
        obtain rfl := given.unique other
        exact Option.some.inj (((reads _ b).2 wrote).symm.trans parsed)
      | unset unset => exact absurd given (unset s)
  · have unset := not_exists.1 h
    refine .inr ⟨fun ⟨s, given, _⟩ => unset s given, default,
      fun b => ⟨fun h => ?_, fun same => same ▸ .unset unset⟩, number_of_unset unset⟩
    cases h with
    | given given => exact absurd given (unset _)
    | unset => rfl

/-- A number that is read, and what is done with it. -/
theorem comes_number {cs : List (Prop × ConfigError)} {Q : β → Prop}
    {f : α → Except ConfigError β} (reads : ∀ s a, parse s = some a ↔ Writes s a)
    (said : ∀ a, (∀ b, env.Says name Writes default b ↔ b = a) → Comes cs Q (f a)) :
    Comes ((env.Bad name Writes, .invalid name) :: cs) Q (env.number name parse default >>= f) := by
  rcases number_cases env name default reads with ⟨bad, read⟩ | ⟨good, a, one, read⟩
  · rw [read]
    exact Blamed.here bad
  · rw [read]
    exact comes_later good (said a one)

end Environment

namespace Config

/-- The text writes a 64-bit integer. -/
def IsInteger (s : String) (i : Int64) : Prop :=
  Decimal.Signed s.toList i.toInt

/-- The text writes a number of so many bits. -/
def IsNumber (bits : Nat) (s : String) (n : Nat) : Prop :=
  Decimal.Unsigned s.toList n ∧ n < 2 ^ bits

/-- What can be wrong with an environment, and how it is answered. -/
def causes (env : Environment) : List (Prop × ConfigError) :=
  [(env "SERVER_DATABASE_URL" = none ∧ env "DATABASE_URL" = none, .missing "SERVER_DATABASE_URL"),
    (env.Bad "PAGINATION_DEFAULT_LIMIT" IsInteger, .invalid "PAGINATION_DEFAULT_LIMIT"),
    (env.Bad "PAGINATION_MAX_LIMIT" IsInteger, .invalid "PAGINATION_MAX_LIMIT"),
    (∃ d, env.Says "PAGINATION_DEFAULT_LIMIT" IsInteger 20 d ∧ d ≤ 0,
      .invalid "PAGINATION_DEFAULT_LIMIT"),
    (∃ d m, env.Says "PAGINATION_DEFAULT_LIMIT" IsInteger 20 d
      ∧ env.Says "PAGINATION_MAX_LIMIT" IsInteger 100 m ∧ m < d, .invalid "PAGINATION_MAX_LIMIT"),
    (env.Bad "SUMMARY_RETRY_ATTEMPTS" (IsNumber 32), .invalid "SUMMARY_RETRY_ATTEMPTS"),
    (env.Says "SUMMARY_RETRY_ATTEMPTS" (IsNumber 32) 3 0, .invalid "SUMMARY_RETRY_ATTEMPTS"),
    (env.Bad "SUMMARY_RETRY_BACKOFF_MS" (IsNumber 64), .invalid "SUMMARY_RETRY_BACKOFF_MS")]

/-- The configuration says what the variables say, and makes sense. -/
structure Follows (c : Config) (env : Environment) : Prop where
  databaseUrl : env "SERVER_DATABASE_URL" = some c.databaseUrl
    ∨ (env "SERVER_DATABASE_URL" = none ∧ env "DATABASE_URL" = some c.databaseUrl)
  listenAddr : c.listenAddr = (env "SERVER_LISTEN_ADDR").getD "0.0.0.0:8081"
  textSearch : c.textSearch = (env "TEXT_SEARCH_ENABLED").any isYes
  standard : env.Says "PAGINATION_DEFAULT_LIMIT" IsInteger 20 c.pages.standard
  largest : env.Says "PAGINATION_MAX_LIMIT" IsInteger 100 c.pages.largest
  attempts : env.Says "SUMMARY_RETRY_ATTEMPTS" (IsNumber 32) 3 c.attempts
  backoff : env.Says "SUMMARY_RETRY_BACKOFF_MS" (IsNumber 64) 250 c.backoff
  sound : c.pages.Sound
  tried : 1 ≤ c.attempts

theorem isInteger_iff (s : String) (i : Int64) : Decimal.int64? s = some i ↔ IsInteger s i :=
  Decimal.int64?_eq_some

theorem isNumber_iff {bound bits : Nat} (top : bound + 1 = 2 ^ bits) (s : String) (n : Nat) :
    Decimal.nat? bound s = some n ↔ IsNumber bits s n := by
  rw [Decimal.nat?_eq_some, IsNumber, ← top, Nat.lt_succ_iff]

theorem comes_read (env : Environment) :
    Comes (causes env) (fun c => c.Follows env) (read env) := by
  unfold read readPages readAttempts causes
  simp only [bind_assoc]
  split
  · next url there =>
    rw [pure_bind]
    refine comes_later (fun ⟨none_, none'⟩ => ?_) ?_
    · rw [none_, none'] at there
      cases there
    refine Environment.comes_number isInteger_iff fun d hd => ?_
    refine Environment.comes_number isInteger_iff fun m hm => ?_
    refine comes_check (by simp [hd]) fun positive => ?_
    refine comes_check (by simp [hd, hm]) fun ordered => ?_
    rw [pure_bind]
    refine Environment.comes_number (isNumber_iff rfl) fun n hn => ?_
    refine comes_check (eq_comm.trans (hn 0).symm) fun tried => ?_
    rw [pure_bind]
    refine Environment.comes_number (isNumber_iff rfl) fun b hb => ?_
    refine ⟨.none, ?_, rfl, ?_, (hd d).2 rfl, (hm m).2 rfl, (hn n).2 rfl, (hb b).2 rfl, ?_, ?_⟩
    · cases first : env "SERVER_DATABASE_URL" with
      | none => exact .inr ⟨rfl, by simpa [first] using there⟩
      | some u => exact .inl (by simpa [first] using there)
    · cases env "TEXT_SEARCH_ENABLED" <;> rfl
    · have one : (1 : Int64).toInt = 1 := rfl
      have zero : (0 : Int64).toInt = 0 := rfl
      rw [Int64.le_iff_toInt_le] at positive
      rw [Int64.lt_iff_toInt_lt] at ordered
      rw [PageLimits.Sound, Int64.le_iff_toInt_le, Int64.le_iff_toInt_le]
      dsimp only
      exact ⟨by omega, by omega⟩
    · exact Nat.pos_of_ne_zero tried
  · next none_ => exact Blamed.here (Option.or_eq_none_iff.1 none_)

/-- The variables whose texts are taken as they are. -/
def texts : List String :=
  ["SERVER_DATABASE_URL", "DATABASE_URL", "SERVER_LISTEN_ADDR", "TEXT_SEARCH_ENABLED"]

/-- The variables that stand for numbers. -/
def numbers : List String :=
  ["PAGINATION_DEFAULT_LIMIT", "PAGINATION_MAX_LIMIT", "SUMMARY_RETRY_ATTEMPTS",
    "SUMMARY_RETRY_BACKOFF_MS"]

/-- Nothing else is read, and of the numbers only what is not empty. -/
theorem read_congr {env env' : Environment} (taken : ∀ name ∈ texts, env name = env' name)
    (given : ∀ name ∈ numbers, ∀ s, env.Given name s ↔ env'.Given name s) :
    read env = read env' := by
  simp only [texts, numbers, List.forall_mem_cons] at taken given
  obtain ⟨server, plain, listen, search, -⟩ := taken
  obtain ⟨standard, largest, attempts, backoff, -⟩ := given
  simp only [read, readPages, readAttempts, server, plain, listen, search,
    Environment.number_congr standard, Environment.number_congr largest,
    Environment.number_congr attempts, Environment.number_congr backoff]

/-- What an environment comes to is decided by the first cause that applies; if none does, there
is a configuration that follows the variables and makes sense. A number that is empty is as good
as none. -/
theorem read_decided (env : Environment) :
    (∀ e, read env = .error e ↔ Blamed (causes env) (some e))
    ∧ ((∃ c, read env = .ok c) ↔ Blamed (causes env) none)
    ∧ (∀ c, read env = .ok c → c.Follows env)
    ∧ ∀ name ∈ numbers,
      read (Function.update env name (some "")) = read (Function.update env name none) := by
  have comes := comes_read env
  refine ⟨fun e => ?_, ?_, fun c hc => ?_, fun name hname => ?_⟩
  · cases h : read env with
    | error e' =>
      rw [h] at comes
      refine ⟨fun he => Except.error.inj he ▸ comes, fun blamed => ?_⟩
      rw [Option.some.inj (Blamed.unique blamed comes)]
    | ok c =>
      rw [h] at comes
      refine ⟨fun he => (by cases he), fun blamed => ?_⟩
      cases Blamed.unique blamed comes.1
  · cases h : read env with
    | error e' =>
      rw [h] at comes
      refine ⟨fun ⟨c, hc⟩ => (by cases hc), fun blamed => ?_⟩
      cases Blamed.unique blamed comes
    | ok c =>
      rw [h] at comes
      exact ⟨fun _ => comes.1, fun _ => ⟨c, rfl⟩⟩
  · rw [hc] at comes
    exact comes.2
  · refine read_congr (fun other ho => ?_) fun other _ s => ?_
    · have apart : other ≠ name := by
        rintro rfl
        revert ho hname
        decide +revert
      rw [Function.update_of_ne apart, Function.update_of_ne apart]
    · unfold Environment.Given
      by_cases same : other = name
      · subst same
        simp
      · rw [Function.update_of_ne same, Function.update_of_ne same]

/-- A database, a largest page, and no number where one was meant to be. -/
def sparing : Environment := fun name =>
  if name = "DATABASE_URL" then some "sqlite::memory:"
  else if name = "PAGINATION_MAX_LIMIT" then some "+50"
  else if name = "SUMMARY_RETRY_ATTEMPTS" then some ""
  else none

theorem read_decided_sparing :
    (∃ c, read sparing = .ok c ∧ c.pages = ⟨20, 50⟩ ∧ c.attempts = 3 ∧ c.Follows sparing)
      ∧ read (Function.update sparing "PAGINATION_MAX_LIMIT" (some "")) =
        read (Function.update sparing "PAGINATION_MAX_LIMIT" none) := by
  obtain ⟨c, there, pages, attempts⟩ :
      ∃ c, read sparing = .ok c ∧ c.pages = ⟨20, 50⟩ ∧ c.attempts = 3 := by
    refine ⟨⟨"sqlite::memory:", "0.0.0.0:8081", false, ⟨20, 50⟩, 3, 250⟩, ?_, rfl, rfl⟩
    decide +kernel
  obtain ⟨-, -, follows, empty⟩ := read_decided sparing
  exact ⟨⟨c, there, pages, attempts, follows c there⟩, empty _ (by decide)⟩

end Config
end IssueTracker
