import CatalogSync.Proofs.Retry.Delays
import CatalogSync.Schedule.Scheduler
import CatalogSync.Source.Relational
import Mathlib.Data.ENat.Basic

/-!
# How many attempts there are

A call that is repeated under a policy is made until it comes to something else than a transient
error, but at most as often as the limit says, and at least once. A pause lies between any two
attempts, and every pause is announced with the error before it. The loops of the source and those
of the check before the first cycle are this one.
-/

namespace CatalogSync

namespace Outcome

variable {ε α : Type} [Retryable ε]

/-- The call failed in a way that may pass. -/
def IsTransient (o : Outcome ε α) : Prop := ∃ e, o = .error e ∧ Retryable.isTransient e

/-- The text of the error, if there is one. -/
def message : Outcome ε α → String
  | .error e => Retryable.message e
  | _ => ""

end Outcome

namespace Policy

variable {φ : Type} (p : Policy φ)

/-- How many attempts there may be. There is always a first one. -/
def limit : ℕ∞ := p.maxAttempts.elim ⊤ fun limit => (max limit 1 : Nat)

/-- There is always a first attempt. -/
theorem one_le_limit : 1 ≤ p.limit := by
  unfold limit
  cases p.maxAttempts <;> simp

/-- A pause is due when a second attempt is. -/
theorem succ_lt_limit_iff (n : Nat) :
    ((n + 1 : Nat) : ℕ∞) < p.limit ↔ ∀ limit ∈ p.maxAttempts, n + 1 < limit := by
  unfold limit
  cases p.maxAttempts with
  | none => simp
  | some limit =>
    simp only [Option.elim_some, Nat.cast_lt, Option.mem_def, Option.some.injEq, forall_eq']
    omega

end Policy

/-- A call that is repeated under a policy. -/
structure RetryLoop (φ ε σ α : Type) where
  policy : Policy φ
  operation : String
  /-- What a pause does to the world. -/
  pause : Span → σ → σ
  call : Call ε σ α

/-- How a call comes out that is repeated. -/
structure Ending (ε σ α : Type) where
  outcome : Outcome ε α
  world : σ
  calls : Nat
  notices : List Notice

namespace RetryLoop

variable {φ ε σ α : Type} [Growth φ] [Retryable ε] (l : RetryLoop φ ε σ α) (s : σ)

def run (allowance : Nat) : σ → Outcome ε α × σ × List Notice :=
  l.policy.run l.pause l.operation allowance l.call

/-- The world that an attempt finds after so many others, each of them paused after. -/
def found : Nat → σ
  | 0 => s
  | n + 1 => l.pause (l.policy.delayAt n) (l.call (found n)).2

/-- How an attempt comes out after so many others, and the world it leaves. -/
def attempt (n : Nat) : Outcome ε α × σ := l.call (l.found s n)

/-- What is announced after an attempt and so many others. -/
def notice (n : Nat) : Notice :=
  ⟨l.operation, n + 1, l.policy.delayAt n, (l.attempt s n).1.message⟩

def notices (n : Nat) : List Notice := (List.range n).map (l.notice s)

/-- The law of the attempts. -/
inductive EndsBy : Ending ε σ α → Prop where
  /-- Something else than a transient error came within the limit. -/
  | settled (i : Nat) (hlimit : i < l.policy.limit)
      (htransient : ∀ k < i, (l.attempt s k).1.IsTransient)
      (hother : ¬ (l.attempt s i).1.IsTransient) :
      EndsBy ⟨(l.attempt s i).1, (l.attempt s i).2, i + 1, l.notices s i⟩
  /-- There were nothing but transient errors up to the limit. -/
  | exhausted (m : Nat) (hlimit : l.policy.limit = m)
      (htransient : ∀ k < m, (l.attempt s k).1.IsTransient) :
      EndsBy ⟨(l.attempt s (m - 1)).1, (l.attempt s (m - 1)).2, m, l.notices s (m - 1)⟩

/-- There is no limit, and nothing else than transient errors ever. -/
def IsEndless : Prop := l.policy.limit = ⊤ ∧ ∀ n, (l.attempt s n).1.IsTransient

/-- Where the loop stands before an attempt after so many others. -/
def standing (n : Nat) : Retrying φ σ :=
  ⟨l.found s n, ⟨l.policy, l.operation, n, l.policy.currentAt n⟩, (l.notices s n).reverse⟩

/-- The first attempt finds the world as it was, with nothing noticed yet. -/
theorem standing_zero : l.standing s 0 = ⟨s, l.policy.backoff l.operation, []⟩ := rfl

/-- Each attempt that fails adds its notice to those before. -/
theorem notices_succ (n : Nat) : l.notices s (n + 1) = l.notices s n ++ [l.notice s n] := by
  simp [notices, List.range_succ]

/-- Whether an attempt is followed by a pause. -/
theorem pause_standing (n : Nat) (error : String) :
    (l.policy.limit ≤ (n + 1 : Nat) ∧
      ∃ backoff, (l.standing s n).backoff.pause error = (none, backoff)) ∨
    (((n + 1 : Nat) : ℕ∞) < l.policy.limit ∧ (l.standing s n).backoff.pause error =
      (some ⟨l.operation, n + 1, l.policy.delayAt n, error⟩, (l.standing s (n + 1)).backoff)) := by
  obtain ⟨⟨limit, hmem, hle⟩, hpause⟩ | ⟨hlt, hpause⟩ := (l.standing s n).backoff.pause_cases error
  · left
    refine ⟨le_of_not_gt fun hlt => ?_, _, hpause⟩
    exact absurd ((l.policy.succ_lt_limit_iff n).1 hlt limit hmem) (Nat.not_lt.2 hle)
  · right
    exact ⟨(l.policy.succ_lt_limit_iff n).2 hlt, hpause⟩

/-- After a transient error the next attempt is due, if there may be one. -/
theorem attemptOnce_again {n : Nat} (htransient : (l.attempt s n).1.IsTransient)
    (hlimit : ((n + 1 : Nat) : ℕ∞) < l.policy.limit) :
    attemptOnce l.pause l.call (l.standing s n) = (.ok none, l.standing s (n + 1)) := by
  obtain ⟨e, he, hpasses⟩ := htransient
  have hcall : l.call (l.standing s n).world = (.error e, (l.attempt s n).2) := Prod.ext he rfl
  obtain ⟨hle, -⟩ | ⟨-, hpause⟩ := l.pause_standing s n (Retryable.message e)
  · exact absurd hlimit (not_lt_of_ge hle)
  · simp only [attemptOnce, hcall, hpasses, if_true, hpause]
    simp only [standing, notices_succ, List.reverse_append, notice, he, Outcome.message]
    rfl

/-- Anything else is what the loop comes to, and so is a transient error at the limit. -/
theorem attemptOnce_last {n : Nat}
    (hlast : (l.attempt s n).1.IsTransient → l.policy.limit ≤ (n + 1 : Nat)) :
    ∃ backoff, attemptOnce l.pause l.call (l.standing s n) =
      ((l.attempt s n).1.map some, ⟨(l.attempt s n).2, backoff, (l.notices s n).reverse⟩) := by
  have hcall : l.call (l.standing s n).world = l.attempt s n := rfl
  rcases hattempt : l.attempt s n with ⟨a | e | _, world⟩
  · exact ⟨_, by simp only [attemptOnce, hcall, hattempt]; rfl⟩
  · rw [hattempt] at hlast
    by_cases hpasses : Retryable.isTransient e
    · have hlimit := hlast ⟨e, rfl, hpasses⟩
      obtain ⟨-, backoff, hpause⟩ | ⟨hlt, -⟩ := l.pause_standing s n (Retryable.message e)
      · exact ⟨backoff, by simp only [attemptOnce, hcall, hattempt, hpasses, if_true, hpause]; rfl⟩
      · exact absurd hlimit (not_le_of_gt hlt)
    · exact ⟨_, by simp only [attemptOnce, hcall, hattempt, hpasses]; rfl⟩
  · exact ⟨_, by simp only [attemptOnce, hcall, hattempt]; rfl⟩

/-- Transient errors within the limit only use up the allowance. -/
theorem untilSome_standing {n : Nat} (hlimit : n < l.policy.limit)
    (htransient : ∀ k < n, (l.attempt s k).1.IsTransient) (allowance : Nat) :
    (attemptOnce l.pause l.call).untilSome (allowance + n) (l.standing s 0) =
      (attemptOnce l.pause l.call).untilSome allowance (l.standing s n) := by
  induction n generalizing allowance with
  | zero => rfl
  | succ n ih =>
    have hstep := l.attemptOnce_again s (htransient n n.lt_succ_self) hlimit
    have hbefore := ih ((Nat.cast_lt.2 n.lt_succ_self).trans hlimit)
      (fun k hk => htransient k (hk.trans n.lt_succ_self)) (allowance + 1)
    rw [Nat.add_right_comm] at hbefore
    rw [← Nat.add_assoc, hbefore, Call.untilSome_of_none hstep]

/-- The loop comes to its end with the attempt after so many others. -/
structure IsLast (n : Nat) : Prop where
  lt_limit : n < l.policy.limit
  before : ∀ k < n, (l.attempt s k).1.IsTransient
  last : (l.attempt s n).1.IsTransient → l.policy.limit ≤ (n + 1 : Nat)

/-- An attempt is the last if there may be no other, or if it came to something else than a
transient error. -/
theorem exists_isLast {allowance : Nat}
    (h : l.policy.limit ≤ allowance ∨ ∃ k < allowance, ¬ (l.attempt s k).1.IsTransient) :
    ∃ n < allowance, l.IsLast s n := by
  classical
  have hexists : ∃ n < allowance,
      l.policy.limit ≤ (n + 1 : Nat) ∨ ¬ (l.attempt s n).1.IsTransient := by
    obtain hle | ⟨k, hk, hother⟩ := h
    · have hone : 1 ≤ allowance := by exact_mod_cast l.policy.one_le_limit.trans hle
      refine ⟨allowance - 1, Nat.sub_lt hone one_pos, .inl ?_⟩
      rwa [Nat.sub_add_cancel hone]
    · exact ⟨k, hk, .inr hother⟩
  have hfirst := Nat.find_spec hexists
  have hbefore {k : Nat} (hk : k < Nat.find hexists) :
      ((k + 1 : Nat) : ℕ∞) < l.policy.limit ∧ (l.attempt s k).1.IsTransient := by
    have hnot := Nat.find_min hexists hk
    simp only [hk.trans hfirst.1, true_and, not_or, not_le, not_not] at hnot
    exact hnot
  refine ⟨Nat.find hexists, hfirst.1, ?_, fun k hk => (hbefore hk).2,
    fun htransient => hfirst.2.resolve_right (not_not.2 htransient)⟩
  cases hn : Nat.find hexists with
  | zero => exact one_pos.trans_le l.policy.one_le_limit
  | succ k => exact (hbefore (hn ▸ k.lt_succ_self)).1

section Ending

variable {l s} {n : Nat}

/-- A loop whose allowance lets it come to its last attempt ends as that does. -/
theorem IsLast.run_eq (h : l.IsLast s n) {allowance : Nat} (hallowance : n < allowance) :
    l.run allowance s = ((l.attempt s n).1, (l.attempt s n).2, l.notices s n) := by
  obtain ⟨backoff, hstep⟩ := l.attemptOnce_last s h.last
  obtain ⟨more, rfl⟩ := Nat.exists_eq_add_of_lt hallowance
  have hloop := l.untilSome_standing s h.lt_limit h.before (more + 1)
  have hcount : more + 1 + n = n + more + 1 := by omega
  rw [hcount, Call.untilSome_of_some hstep, standing_zero] at hloop
  simp only [run, Policy.run, hloop, List.reverse_reverse]

/-- With its last attempt a loop ends, as the attempt does. -/
theorem IsLast.endsBy (h : l.IsLast s n) :
    l.EndsBy s ⟨(l.attempt s n).1, (l.attempt s n).2, n + 1, l.notices s n⟩ := by
  by_cases htransient : (l.attempt s n).1.IsTransient
  · have hlimit : l.policy.limit = (n + 1 : Nat) :=
      le_antisymm (h.last htransient) (ENat.natCast_add_one_le_iff.2 h.lt_limit)
    refine .exhausted (n + 1) hlimit fun k hk => ?_
    obtain hlt | rfl := Nat.lt_succ_iff_lt_or_eq.1 hk
    · exact h.before k hlt
    · exact htransient
  · exact .settled n h.lt_limit h.before htransient

/-- A loop ends with its last attempt. -/
theorem EndsBy.exists_isLast {e : Ending ε σ α} (h : l.EndsBy s e) :
    ∃ n, l.IsLast s n ∧ e = ⟨(l.attempt s n).1, (l.attempt s n).2, n + 1, l.notices s n⟩ := by
  cases h with
  | settled i hlimit htransient hother =>
    exact ⟨i, ⟨hlimit, htransient, fun h => absurd h hother⟩, rfl⟩
  | exhausted m hlimit htransient =>
    have hone : 1 ≤ m := by exact_mod_cast hlimit ▸ l.policy.one_le_limit
    obtain ⟨n, rfl⟩ := Nat.exists_eq_add_of_le' hone
    have hlt : (n : ℕ∞) < l.policy.limit := hlimit ▸ Nat.cast_lt.2 n.lt_succ_self
    exact ⟨n, ⟨hlt, fun k hk => htransient k (hk.trans n.lt_succ_self), fun _ => hlimit.le⟩, rfl⟩

/-- A loop that ends does so under every allowance of at least as many attempts. -/
theorem EndsBy.run_eq {e : Ending ε σ α} (h : l.EndsBy s e) {allowance : Nat}
    (hallowance : e.calls ≤ allowance) : l.run allowance s = (e.outcome, e.world, e.notices) := by
  obtain ⟨n, hlast, rfl⟩ := h.exists_isLast
  exact hlast.run_eq hallowance

end Ending

/-- A loop has come to its end or has used up its allowance on the way there. -/
theorem run_cases (allowance : Nat) :
    (∃ n < allowance, l.IsLast s n) ∨
    (∀ k < allowance, (l.attempt s k).1.IsTransient) ∧ allowance < l.policy.limit ∧
      l.run allowance s = (.unfinished, l.found s allowance, l.notices s allowance) := by
  by_cases h : l.policy.limit ≤ allowance ∨ ∃ k < allowance, ¬ (l.attempt s k).1.IsTransient
  · left
    exact l.exists_isLast s h
  · right
    simp only [not_or, not_le, not_exists, not_and, not_not] at h
    obtain ⟨hlimit, htransient⟩ := h
    refine ⟨htransient, hlimit, ?_⟩
    have hloop := l.untilSome_standing s hlimit htransient 0
    rw [Nat.zero_add, standing_zero] at hloop
    simp only [run, Policy.run, hloop, Call.untilSome, standing, List.reverse_reverse]

/-- Every call that is repeated ends by the law, or never. -/
theorem endsBy_or_isEndless : (∃ e, l.EndsBy s e) ∨
    l.IsEndless s ∧ ∀ allowance, (l.run allowance s).1 = .unfinished := by
  by_cases h : ∃ n, l.IsLast s n
  · obtain ⟨n, hlast⟩ := h
    exact .inl ⟨_, hlast.endsBy⟩
  · have hunderway (allowance : Nat) :=
      (l.run_cases s allowance).resolve_left fun ⟨n, _, hlast⟩ => h ⟨n, hlast⟩
    refine .inr ⟨⟨?_, fun n => (hunderway (n + 1)).1 n n.lt_succ_self⟩, fun allowance => ?_⟩
    · exact ENat.eq_top_iff_forall_gt.2 fun n => (hunderway n).2.1
    · rw [(hunderway allowance).2.2]

end RetryLoop

/-- A world and what is done to it: how often a call is made, and which pauses there are. -/
structure Tally (σ : Type) where
  world : σ
  calls : Nat
  pauses : List Span

namespace RetryLoop

variable {φ ε σ α : Type} [Growth φ] [Retryable ε] (l : RetryLoop φ ε σ α) (s : σ)

/-- The loop with its calls and its pauses counted. -/
def tallied : RetryLoop φ ε (Tally σ) α where
  policy := l.policy
  operation := l.operation
  pause span t := ⟨l.pause span t.world, t.calls, t.pauses ++ [span]⟩
  call t := ((l.call t.world).1, ⟨(l.call t.world).2, t.calls + 1, t.pauses⟩)

/-- Every attempt finds a tally of the attempts and pauses before it. -/
theorem found_tallied (n : Nat) :
    l.tallied.found ⟨s, 0, []⟩ n = ⟨l.found s n, n, (l.notices s n).map Notice.delay⟩ := by
  induction n with
  | zero => rfl
  | succ n ih =>
    rw [found, ih, notices_succ, List.map_append]
    rfl

/-- Tallying an attempt counts it and leaves the rest as it is. -/
theorem attempt_tallied (n : Nat) :
    l.tallied.attempt ⟨s, 0, []⟩ n = ((l.attempt s n).1,
      ⟨(l.attempt s n).2, n + 1, (l.notices s n).map Notice.delay⟩) := by
  rw [attempt, found_tallied]
  rfl

/-- Tallying changes no notice. -/
theorem notices_tallied (n : Nat) : l.tallied.notices ⟨s, 0, []⟩ n = l.notices s n := by
  have hnotice : l.tallied.notice ⟨s, 0, []⟩ = l.notice s := by
    funext k
    rw [notice, attempt_tallied]
    rfl
  rw [notices, hnotice]
  rfl

variable {l s} in
/-- Counting changes nothing, and counts what the law says. -/
theorem EndsBy.tallied {e : Ending ε σ α} (h : l.EndsBy s e) :
    l.tallied.EndsBy ⟨s, 0, []⟩
      ⟨e.outcome, ⟨e.world, e.calls, e.notices.map Notice.delay⟩, e.calls, e.notices⟩ := by
  obtain ⟨n, hlast, rfl⟩ := h.exists_isLast
  have htallied : l.tallied.IsLast ⟨s, 0, []⟩ n :=
    ⟨hlast.lt_limit, fun k hk => by rw [attempt_tallied]; exact hlast.before k hk,
      by rw [attempt_tallied]; exact hlast.last⟩
  have hends := htallied.endsBy
  rwa [attempt_tallied, notices_tallied] at hends

end RetryLoop

/-- An attempt that a source in a database repeats. -/
def RelationalSource.repeated {φ ω α : Type} (r : RelationalSource φ) (db : Database ω)
    (operation : String) (attempt : Call SourceError (Session ω) α) :
    RetryLoop φ SourceError (Session ω) α :=
  ⟨r.policy, operation, fun _ s => s, dropping db attempt⟩

/-- A question to a source ends as its loop does. -/
theorem RelationalSource.retrying_eq {φ ω α : Type} [Growth φ] {r : RelationalSource φ}
    {db : Database ω} {operation : String} {attempt : Call SourceError (Session ω) α}
    {s : Session ω} {e : Ending SourceError (Session ω) α}
    (h : (r.repeated db operation attempt).EndsBy s e) {allowance : Nat}
    (hallowance : e.calls ≤ allowance) :
    r.retrying db operation allowance attempt s = (e.outcome, e.world) :=
  congrArg (fun ran : _ × _ × _ => (ran.1, ran.2.1)) (h.run_eq hallowance)

namespace Scheduler

variable {φ ω : Type} [Growth φ] {clock : Clock ω} {p : Policy φ}

/-- The check of a job, repeated with a count of its own. -/
def checking (clock : Clock ω) (p : Policy φ) (job : Job ω) :
    RetryLoop φ PipelineError (Book ω) Unit where
  policy := p
  operation := s!"pre-check {job.name}"
  pause span b := { b with world := clock.pause span b.world }
  call := job.preCheck

/-- How checks come out in order, and what the first that fails says. -/
inductive Checks (clock : Clock ω) (p : Policy φ) :
    List (Job ω) → Book ω → List (Ending PipelineError (Book ω) Unit) →
      Outcome SchedulerError Unit → Book ω → Prop where
  | nil {b : Book ω} : Checks clock p [] b [] (.ok ()) b
  | passed {job : Job ω} {rest : List (Job ω)} {b b' : Book ω}
      {e : Ending PipelineError (Book ω) Unit} {es : List (Ending PipelineError (Book ω) Unit)}
      {o : Outcome SchedulerError Unit} (hends : (checking clock p job).EndsBy b e)
      (hok : e.outcome = .ok ()) (hrest : Checks clock p rest e.world es o b') :
      Checks clock p (job :: rest) b (e :: es) o b'
  | stopped {job : Job ω} {rest : List (Job ω)} {b : Book ω}
      {e : Ending PipelineError (Book ω) Unit} (hends : (checking clock p job).EndsBy b e)
      (hfails : e.outcome ≠ .ok ()) :
      Checks clock p (job :: rest) b [e] (e.outcome.mapError (.preCheck job.name)) e.world

/-- The first check of a job ends as its loop does, its error being named after the job. -/
theorem check_eq {job : Job ω} {b : Book ω} {e : Ending PipelineError (Book ω) Unit}
    (h : (checking clock p job).EndsBy b e) {allowance : Nat} (hallowance : e.calls ≤ allowance) :
    check clock p allowance job b = (e.outcome.mapError (.preCheck job.name), e.world) :=
  congrArg (fun ran : Outcome _ _ × _ × _ =>
    (ran.1.mapError (SchedulerError.preCheck job.name), ran.2.1)) (h.run_eq hallowance)

/-- The checks of all jobs come out as their loops do, one after the other. -/
theorem Checks.checkAll_eq {jobs : List (Job ω)} {b b' : Book ω}
    {es : List (Ending PipelineError (Book ω) Unit)} {o : Outcome SchedulerError Unit}
    (h : Checks clock p jobs b es o b') {allowance : Nat}
    (hallowance : ∀ e ∈ es, e.calls ≤ allowance) :
    checkAll clock p allowance jobs b = (o, b') := by
  induction h with
  | nil => rfl
  | passed hends hok _ ih =>
    obtain ⟨hfirst, hrest⟩ := List.forall_mem_cons.1 hallowance
    have hcheck := check_eq hends hfirst
    rw [hok] at hcheck
    exact (Call.bind_of_ok hcheck).trans (ih hrest)
  | @stopped _ _ _ e hends hfails =>
    have hcheck := check_eq hends (hallowance _ (List.mem_singleton_self _))
    rcases houtcome : e.outcome with _ | cause | _ <;> rw [houtcome] at hcheck
    · exact absurd houtcome hfails
    · exact Call.bind_of_error hcheck
    · exact Call.bind_of_unfinished hcheck

/-- If every check comes to an end, so do they all. -/
theorem exists_checks {jobs : List (Job ω)}
    (h : ∀ job ∈ jobs, ∀ b, ∃ e, (checking clock p job).EndsBy b e) (b : Book ω) :
    ∃ es o b', Checks clock p jobs b es o b' := by
  induction jobs generalizing b with
  | nil => exact ⟨_, _, _, .nil⟩
  | cons job rest ih =>
    obtain ⟨hjob, hrest⟩ := List.forall_mem_cons.1 h
    obtain ⟨e, hends⟩ := hjob b
    by_cases hok : e.outcome = .ok ()
    · obtain ⟨es, o, b', hchecks⟩ := ih hrest e.world
      exact ⟨_, _, _, .passed hends hok hchecks⟩
    · exact ⟨_, _, _, .stopped hends hok⟩

end Scheduler

/-- A call is repeated for as long as its errors are transient and its policy allows, with a pause
and a notice between any two attempts. Each question to a source in a database is such a loop, and
the first check is one for every job, up to the first that fails. Of these loops only the outcome
and the world are compared: `Policy.retry` keeps neither their pauses nor their notices. -/
theorem RetryLoop.attempts_within_limit {φ ω : Type} [Growth φ] :
    (∀ {ε σ α : Type} [Retryable ε] (l : RetryLoop φ ε σ α) (s : σ),
      ((∃ e, l.EndsBy s e) ∨
        l.IsEndless s ∧ ∀ allowance, (l.run allowance s).1 = .unfinished) ∧
      ∀ e, l.EndsBy s e → ∀ allowance, e.calls ≤ allowance →
        l.run allowance s = (e.outcome, e.world, e.notices) ∧
        l.tallied.run allowance ⟨s, 0, []⟩ =
          (e.outcome, ⟨e.world, e.calls, e.notices.map Notice.delay⟩, e.notices)) ∧
    (∀ (r : RelationalSource φ) (db : Database ω) (allowance : Nat) (s : Session ω),
      (∀ count e,
        (r.repeated db "postgres fetch" (r.fetchOnce db allowance count)).EndsBy s e →
          e.calls ≤ allowance →
            (r.source db allowance).ask (.fetch count) s = (e.outcome, e.world)) ∧
      (∀ entity e, (r.repeated db "postgres probe" (r.probeOnce db entity)).EndsBy s e →
        e.calls ≤ allowance →
          (r.source db allowance).ask (.probe entity) s = (e.outcome, e.world)) ∧
      ∀ aggregate ids e, ids ≠ [] →
        (r.repeated db "postgres enrich" (r.enrichOnce db aggregate ids)).EndsBy s e →
          e.calls ≤ allowance →
            (r.source db allowance).ask (.enrich aggregate ids) s = (e.outcome, e.world)) ∧
    ∀ (clock : Clock ω) (p : Policy φ) (s : Scheduler ω),
      ((∀ job ∈ s.jobs, ∀ b, ∃ e, (Scheduler.checking clock p job).EndsBy b e) →
        ∃ es o b, Scheduler.Checks clock p s.jobs s.book es o b) ∧
      ∀ es o b, Scheduler.Checks clock p s.jobs s.book es o b →
        ∀ allowance, (∀ e ∈ es, e.calls ≤ allowance) →
          Scheduler.preCheck clock p allowance s = (o, { s with book := b }) := by
  refine ⟨fun l s => ⟨?_, fun e hends allowance hallowance => ⟨?_, ?_⟩⟩,
    fun r db allowance s => ⟨fun count e hends hallowance => ?_,
      fun entity e hends hallowance => ?_, fun aggregate ids e hids hends hallowance => ?_⟩,
    fun clock p s => ⟨fun h => Scheduler.exists_checks h s.book,
      fun es o b hchecks allowance hallowance => ?_⟩⟩
  · exact l.endsBy_or_isEndless s
  · exact hends.run_eq hallowance
  · exact hends.tallied.run_eq hallowance
  · exact RelationalSource.retrying_eq hends hallowance
  · exact RelationalSource.retrying_eq hends hallowance
  · exact (congrFun (if_neg hids) s).trans (RelationalSource.retrying_eq hends hallowance)
  · have hcheck := hchecks.checkAll_eq hallowance
    simp only [Scheduler.preCheck, Scheduler.onBook, Call.within, hcheck]

/-- A call that a server refuses twice, with at most three attempts. -/
def RetryLoop.flaky : RetryLoop ℚ LoadError Nat Nat where
  policy := ⟨2, 3, 5, some 3⟩
  operation := "flaky"
  pause _ n := n
  call n := (if n < 2 then .error (.http 503 "busy") else .ok n, n + 1)

/-- The third attempt is the last there may be, and it is answered. -/
theorem RetryLoop.attempts_within_limit_flaky :
    flaky.EndsBy 0 ⟨.ok 2, 3, 3, flaky.notices 0 2⟩ ∧
      flaky.run 7 0 = (.ok 2, 3, [⟨"flaky", 1, 2, "HTTP error 503: busy"⟩,
        ⟨"flaky", 2, 5, "HTTP error 503: busy"⟩]) ∧
      flaky.tallied.run 7 ⟨0, 0, []⟩ = (.ok 2, ⟨3, 3, [2, 5]⟩, flaky.notices 0 2) := by
  have hends : flaky.EndsBy 0 ⟨.ok 2, 3, 3, flaky.notices 0 2⟩ := by
    refine .settled 2 (by decide) (fun k hk => ?_) ?_
    · obtain rfl | rfl : k = 0 ∨ k = 1 := by omega
      · exact ⟨_, rfl, rfl⟩
      · exact ⟨_, rfl, rfl⟩
    · rintro ⟨_, ⟨⟩, _⟩
  have hnotices : flaky.notices 0 2 = [⟨"flaky", 1, 2, "HTTP error 503: busy"⟩,
      ⟨"flaky", 2, 5, "HTTP error 503: busy"⟩] := by decide +kernel
  obtain ⟨hrun, htallied⟩ :=
    ((@RetryLoop.attempts_within_limit ℚ Unit _).1 flaky 0).2 _ hends 7 (by decide)
  refine ⟨hends, hnotices ▸ hrun, ?_⟩
  rw [htallied, hnotices]
  rfl

end CatalogSync
