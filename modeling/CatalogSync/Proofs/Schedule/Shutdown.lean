import CatalogSync.Proofs.Schedule.Journal
import CatalogSync.Script.Clock

/-!
# A requested shutdown

A scheduler that is asked to stop finishes the cycle that it is in and begins no other one. The
request may come at any time: before the run, during a pass, between two passes, during a pause, or
just when a pause ends. It may be noticed late, but once it was there at the end of a pass or of a
pause, the next look at it ends the run.
-/

namespace CatalogSync

variable {ω : Type}

/-- A request for shutdown is never taken back, and only a request cuts a pause. -/
structure Clock.Lasts (clock : Clock ω) (jobs : List (Job ω)) : Prop where
  execute : ∀ job ∈ jobs, ∀ book, clock.isCancelled book.world →
    clock.isCancelled (job.execute book).2.world
  sleep : ∀ span world, clock.isCancelled world → clock.isCancelled (clock.sleep span world).2
  cut : ∀ span world, (clock.sleep span world).1 → clock.isCancelled (clock.sleep span world).2

/-- A request that the journal tells of is there. -/
def Journaled.IsFaithful (clock : Clock ω) (t : Journaled ω) : Prop :=
  ∀ event ∈ t.journal, event.cancelled → clock.isCancelled t.world

theorem Cycle.ne_error_of_isAnswered (c : Cycle) (h : c.isAnswered) (e : SchedulerError) :
    c.outcome ≠ .error e := by
  intro hfailed
  simp [isAnswered, hfailed] at h

/-- A cycle and the pause behind it, if there was one. -/
structure Round where
  cycle : Cycle
  pause : Option Pause

namespace Round

def events (r : Round) : List ScheduleEvent := r.cycle.events ++ r.pause.toList.map .paused

/-- How a turn of the scheduler comes out that made this round. The last argument but one tells
whether the shutdown had been requested by its end. -/
inductive Ends (pause : Span) : Round → Bool → Outcome SchedulerError (Option Unit) → Prop where
  /-- The request is there after the cycle. -/
  | requested {c : Cycle} : c.isAnswered → Ends pause ⟨c, none⟩ true (.ok (some ()))
  /-- The request cuts the pause. -/
  | cut {c : Cycle} : c.isAnswered → (∀ pass ∈ c.passes, pass.cancelled = false) →
      Ends pause ⟨c, some ⟨pause, true, true⟩⟩ true (.ok (some ()))
  /-- The pause is over. A request that came with its end is not noticed yet. -/
  | paused {c : Cycle} {cancelled : Bool} : c.isAnswered →
      (∀ pass ∈ c.passes, pass.cancelled = false) →
      Ends pause ⟨c, some ⟨pause, false, cancelled⟩⟩ cancelled (.ok none)
  | failed {c : Cycle} {cancelled : Bool} {e : SchedulerError} : c.outcome = .error e →
      Ends pause ⟨c, none⟩ cancelled (.error e)
  | unfinished {c : Cycle} {cancelled : Bool} : c.outcome = .unfinished →
      Ends pause ⟨c, none⟩ cancelled .unfinished

end Round

/-- A run of the pipelines with these names, with pauses of this length between its cycles. -/
structure IsRun (names : List String) (pause : Span) (rounds : List Round)
    (outcome : Outcome SchedulerError Unit) : Prop where
  /-- Every cycle is run as a whole, the one included in which the request came. -/
  cycles : ∀ r ∈ rounds, r.cycle.IsOf names
  /-- A cycle that another one follows ended well, there is one whole pause between them, and the
  request did not come up to the end of that pause. -/
  between : ∀ r ∈ rounds.dropLast, r.cycle.isAnswered ∧
    (∀ pass ∈ r.cycle.passes, pass.cancelled = false) ∧ r.pause = some ⟨pause, false, false⟩
  /-- There is no pause after a cycle that failed or during which the request came. -/
  paused : ∀ r ∈ rounds, ∀ p, r.pause = some p → p.span = pause ∧ r.cycle.isAnswered ∧
    ∀ pass ∈ r.cycle.passes, pass.cancelled = false
  /-- The run fails exactly when one of its cycles did, and as this one did. -/
  failed_iff : ∀ e, outcome = .error e ↔ ∃ r ∈ rounds, r.cycle.outcome = .error e

namespace IsRun

variable {names : List String} {pause : Span} {rounds : List Round}
  {outcome : Outcome SchedulerError Unit}

theorem nil (houtcome : ∀ e, outcome ≠ .error e) : IsRun names pause [] outcome where
  cycles := by simp
  between := by simp
  paused := by simp
  failed_iff := by simpa using houtcome

/-- The only round of a run. -/
theorem singleton {r : Round} (hcycle : r.cycle.IsOf names)
    (hpause : ∀ p, r.pause = some p → p.span = pause ∧ r.cycle.isAnswered ∧
      ∀ pass ∈ r.cycle.passes, pass.cancelled = false)
    (houtcome : ∀ e, outcome = .error e ↔ r.cycle.outcome = .error e) :
    IsRun names pause [r] outcome where
  cycles := by simpa using hcycle
  between := by simp
  paused := by simpa using hpause
  failed_iff := by simpa using houtcome

/-- A round before a run, which only goes on if the request had not come by the end of the pause. -/
theorem cons (h : IsRun names pause rounds outcome) {c : Cycle} {cancelled : Bool}
    (hcycle : c.IsOf names) (hanswered : c.isAnswered)
    (hpasses : ∀ pass ∈ c.passes, pass.cancelled = false)
    (hcancelled : rounds ≠ [] → cancelled = false) :
    IsRun names pause (⟨c, some ⟨pause, false, cancelled⟩⟩ :: rounds) outcome where
  cycles := List.forall_mem_cons.2 ⟨hcycle, h.cycles⟩
  between := by
    cases rounds with
    | nil => simp
    | cons next rest =>
      obtain rfl := hcancelled (List.cons_ne_nil _ _)
      rw [List.dropLast_cons_cons]
      exact List.forall_mem_cons.2 ⟨⟨hanswered, hpasses, rfl⟩, h.between⟩
  paused := by
    refine List.forall_mem_cons.2 ⟨?_, h.paused⟩
    rintro p ⟨⟩
    exact ⟨rfl, hanswered, hpasses⟩
  failed_iff e := by
    rw [h.failed_iff]
    simp [c.ne_error_of_isAnswered hanswered]

end IsRun

namespace Scheduler

variable (clock : Clock ω) {jobs : List (Job ω)}

/-- Every pass keeps the journal faithful. -/
theorem faithful_journaled (hlasts : clock.Lasts jobs) {job : Job ω} (hjob : job ∈ jobs)
    {book : Book (Journaled ω)} (h : book.world.IsFaithful clock) :
    (((job.journaled clock).execute book).2.world).IsFaithful clock := by
  have hkept := hlasts.execute job hjob (book.onPart Journaled.world)
  intro event hevent hcancelled
  rcases hrun : job.execute (book.onPart Journaled.world) with ⟨report | e | _, after⟩ <;>
    rw [hrun] at hkept <;>
    simp only [Job.journaled, hrun, List.mem_append, List.mem_singleton, List.not_mem_nil,
      or_false] at hevent ⊢
  · rcases hevent with hevent | rfl
    · exact hkept (h event hevent hcancelled)
    · exact hcancelled
  · rcases hevent with hevent | rfl
    · exact hkept (h event hevent hcancelled)
    · exact hcancelled
  · exact hkept (h event hevent hcancelled)

/-- The pause behind a cycle that ended well, with no request at its end. -/
theorem pause_journaled (hlasts : clock.Lasts jobs) (pause : Span) {s : Scheduler (Journaled ω)}
    {c : Cycle} (h : s.book.world.IsFaithful clock) (hanswered : c.isAnswered)
    (hpasses : ∀ pass ∈ c.passes, pass.cancelled = false) :
    ∃ (p : Pause) (world : Journaled ω),
      clock.journaled.sleep pause s.book.world = (p.isCut, world) ∧
      world.journal = s.book.world.journal ++ [.paused p] ∧ world.IsFaithful clock ∧
      Round.Ends pause ⟨c, some p⟩ (clock.isCancelled world.world)
        (.ok (if p.isCut then some () else none)) := by
  have hkept := hlasts.sleep pause s.book.world.world
  have hcut := hlasts.cut pause s.book.world.world
  rcases hsleep : clock.sleep pause s.book.world.world with ⟨isCut, world⟩
  rw [hsleep] at hkept hcut
  refine ⟨⟨pause, isCut, clock.isCancelled world⟩, ⟨world, s.book.world.journal ++
    [.paused ⟨pause, isCut, clock.isCancelled world⟩]⟩, ?_, rfl, ?_, ?_⟩
  · simp only [Clock.journaled, hsleep]
  · simp only [Journaled.IsFaithful, List.forall_mem_append, List.forall_mem_singleton]
    exact ⟨fun event hevent hcancelled => hkept (h event hevent hcancelled), id⟩
  · cases isCut with
    | false => exact .paused hanswered hpasses
    | true =>
      rw [hcut rfl]
      exact .cut hanswered hpasses

/-- A turn that finds no request makes a round. -/
theorem turn_journaled (hlasts : clock.Lasts jobs) (pause : Span) {s : Scheduler (Journaled ω)}
    (hjobs : s.jobs = jobs.map (Job.journaled clock)) (h : s.book.world.IsFaithful clock)
    (hnow : clock.isCancelled s.book.world.world = false) :
    ∃ (r : Round) (outcome : Outcome SchedulerError (Option Unit)) (s' : Scheduler (Journaled ω)),
      turn clock.journaled pause s = (outcome, s') ∧ s'.jobs = jobs.map (Job.journaled clock) ∧
      s'.book.world.journal = s.book.world.journal ++ r.events ∧
      s'.book.world.IsFaithful clock ∧ r.cycle.IsOf (jobs.map Job.name) ∧
      ((∀ job ∈ jobs, job.Finishes) → r.cycle.outcome ≠ .unfinished) ∧
      r.Ends pause (clock.isCancelled s'.book.world.world) outcome := by
  obtain ⟨c, hcycle, houtcome, hnotes, -, hends⟩ := runCycle_journaled clock hjobs
  have hfaithful : (runCycle clock.journaled s).2.book.world.IsFaithful clock := by
    refine (runCycle_keeps (I := fun b => b.world.IsFaithful clock) clock.journaled ?_ h).1
    intro job' hjob' b hb
    obtain ⟨job, hjob, rfl⟩ := List.mem_map.1 (hjobs ▸ hjob')
    exact faithful_journaled clock hlasts hjob hb
  have hlist := hnotes.jobs.trans hjobs
  have hjournal : (runCycle clock.journaled s).2.book.world.journal =
      s.book.world.journal ++ (Round.mk c none).events := by
    rw [hnotes.journal, Round.events, Option.toList_none, List.map_nil, List.append_nil,
      Cycle.events]
  have hbefore : clock.journaled.isCancelled s.book.world = false := hnow
  simp only [turn, hbefore, Bool.false_eq_true, if_false]
  rcases hrun : runCycle clock.journaled s with ⟨totals | e | _, s'⟩ <;>
    rw [hrun] at houtcome hnotes hfaithful hlist hjournal
  · have hanswered : c.isAnswered := by rw [Cycle.isAnswered, houtcome]
    cases hafter : clock.isCancelled s'.book.world.world with
    | true =>
      have hafter' : clock.journaled.isCancelled s'.book.world = true := hafter
      simp only [hafter', if_true]
      exact ⟨_, _, _, rfl, hlist, hjournal, hfaithful, hcycle, hends, hafter ▸ .requested hanswered⟩
    | false =>
      have hafter' : clock.journaled.isCancelled s'.book.world = false := hafter
      have hpasses (pass : PassEnd) (hpass : pass ∈ c.passes) : pass.cancelled = false := by
        have hnoted : ScheduleEvent.passed pass ∈ s'.book.world.journal := by
          rw [hnotes.journal]
          exact List.mem_append_right _ (List.mem_map_of_mem hpass)
        cases hcancelled : pass.cancelled with
        | false => rfl
        | true =>
          have hlate := hfaithful _ hnoted hcancelled
          rw [hafter] at hlate
          cases hlate
      obtain ⟨p, world, hsleep, hworld, hstill, hround⟩ :=
        pause_journaled clock hlasts pause hfaithful hanswered hpasses
      simp only [hafter', Bool.false_eq_true, if_false, hsleep]
      refine ⟨⟨c, some p⟩, _, _, rfl, hlist, ?_, hstill, hcycle, hends, hround⟩
      rw [hworld, hnotes.journal, List.append_assoc]
      rfl
  · exact ⟨_, _, _, rfl, hlist, hjournal, hfaithful, hcycle, hends, .failed houtcome⟩
  · exact ⟨_, _, _, rfl, hlist, hjournal, hfaithful, hcycle, hends, .unfinished houtcome⟩

/-- What a run does is a run of its pipelines, whenever the request comes. -/
theorem run_journaled (hlasts : clock.Lasts jobs) (pause : Span) (allowance : Nat)
    {s : Scheduler (Journaled ω)} (hjobs : s.jobs = jobs.map (Job.journaled clock))
    (h : s.book.world.IsFaithful clock) :
    ∃ (rounds : List Round) (outcome : Outcome SchedulerError Unit) (s' : Scheduler (Journaled ω)),
      run clock.journaled pause allowance s = (outcome, s') ∧
      s'.book.world.journal = s.book.world.journal ++ rounds.flatMap Round.events ∧
      IsRun (jobs.map Job.name) pause rounds outcome ∧
      (rounds ≠ [] → clock.isCancelled s.book.world.world = false) ∧
      (outcome = .ok () → clock.isCancelled s'.book.world.world) ∧
      ((∀ job ∈ jobs, job.Finishes) → (∀ r ∈ rounds, r.cycle.outcome ≠ .unfinished) ∧
        (outcome = .unfinished → rounds.length = allowance ∧
          ∀ r ∈ rounds, ∃ p, r.pause = some p ∧ p.isCut = false)) := by
  unfold run
  induction allowance generalizing s with
  | zero => exact ⟨[], _, _, rfl, by simp, .nil (by simp), by simp, by simp, by simp⟩
  | succ allowance ih =>
    cases hnow : clock.isCancelled s.book.world.world with
    | true =>
      have hturn : turn clock.journaled pause s = (.ok (some ()), s) := by
        have hbefore : clock.journaled.isCancelled s.book.world = true := hnow
        rw [turn, if_pos hbefore]
      simp only [Call.untilSome, hturn]
      exact ⟨[], _, _, rfl, by simp, .nil (by simp), by simp, fun _ => hnow, by simp⟩
    | false =>
      obtain ⟨⟨c, p⟩, outcome, s', hturn, hlist, hjournal, hfaithful, hcycle, hends, hround⟩ :=
        turn_journaled clock hlasts pause hjobs h hnow
      simp only [Call.untilSome, hturn]
      have hone : s'.book.world.journal =
          s.book.world.journal ++ [Round.mk c p].flatMap Round.events := by
        rw [hjournal, List.flatMap_singleton]
      generalize hlate : clock.isCancelled s'.book.world.world = late at hround
      cases hround with
      | requested hanswered =>
        exact ⟨[⟨c, none⟩], _, _, rfl, hone,
          .singleton hcycle (by simp) (by simp [c.ne_error_of_isAnswered hanswered]),
          fun _ => trivial, fun _ => hlate,
          fun hfinishes => ⟨by simpa using hends hfinishes, by simp⟩⟩
      | cut hanswered hpasses =>
        refine ⟨_, _, _, rfl, hone, .singleton hcycle ?_ ?_, fun _ => trivial, fun _ => hlate,
          fun hfinishes => ⟨by simpa using hends hfinishes, by simp⟩⟩
        · rintro p ⟨⟩
          exact ⟨rfl, hanswered, hpasses⟩
        · simp [c.ne_error_of_isAnswered hanswered]
      | failed hfailed =>
        exact ⟨[⟨c, none⟩], _, _, rfl, hone,
          .singleton hcycle (by simp) (by simp [hfailed]), fun _ => trivial, by simp,
          fun hfinishes => ⟨by simpa using hends hfinishes, by simp⟩⟩
      | unfinished hhung =>
        exact ⟨[⟨c, none⟩], _, _, rfl, hone, .singleton hcycle (by simp) (by simp [hhung]),
          fun _ => trivial, by simp, fun hfinishes => absurd hhung (hends hfinishes)⟩
      | paused hanswered hpasses =>
        obtain ⟨rounds, outcome, s'', hrun, hmore, hrounds, hbegun, hok, hunfinished⟩ :=
          ih hlist hfaithful
        refine ⟨_ :: rounds, outcome, s'', hrun, ?_,
          hrounds.cons hcycle hanswered hpasses fun hne => hlate ▸ hbegun hne,
          fun _ => trivial, hok, fun hfinishes => ?_⟩
        · rw [hmore, hjournal, List.flatMap_cons, List.append_assoc]
        · obtain ⟨hfinished, hunfinished⟩ := hunfinished hfinishes
          refine ⟨List.forall_mem_cons.2 ⟨hends hfinishes, hfinished⟩, fun houtcome => ?_⟩
          obtain ⟨hlength, hpauses⟩ := hunfinished houtcome
          exact ⟨congrArg (· + 1) hlength, List.forall_mem_cons.2 ⟨⟨_, rfl, rfl⟩, hpauses⟩⟩

/-- Whenever the shutdown is requested, and whatever the cycles come to: a cycle runs all of its
pipelines unless one of them fails for more than its own pass, and another cycle follows only if it
ended well, after one whole pause, and only if there was no request at the end of any of its passes
nor of that pause. A run that finds the request at its start does nothing. It ends well only when
the shutdown was requested, fails exactly when one of its cycles did, and else would go on. The
journal that tells all this is kept beside the world of the scheduler and changes nothing there. -/
theorem run_stops_between_cycles (s : Scheduler ω) (hlasts : clock.Lasts s.jobs) (pause : Span)
    (allowance : Nat) :
    ∃ (rounds : List Round) (outcome : Outcome SchedulerError Unit) (s' : Scheduler (Journaled ω)),
      run clock.journaled pause allowance (s.journaled clock) = (outcome, s') ∧
      run clock pause allowance s = (outcome, onPart Journaled.world s.jobs s') ∧
      s'.book.world.journal = rounds.flatMap Round.events ∧
      IsRun (s.jobs.map Job.name) pause rounds outcome ∧
      (rounds ≠ [] → clock.isCancelled s.book.world = false) ∧
      (outcome = .ok () → clock.isCancelled s'.book.world.world) ∧
      ((∀ job ∈ s.jobs, job.Finishes) →
        (∀ r ∈ rounds, r.cycle.passes.map PassEnd.name = s.jobs.map Job.name ∨
          ∃ pass, r.cycle.passes.getLast? = some pass ∧ pass.isFatal) ∧
        (outcome = .unfinished → rounds.length = allowance ∧
          ∀ r ∈ rounds, ∃ p, r.pause = some p ∧ p.isCut = false)) := by
  have hfaithful : (s.journaled clock).book.world.IsFaithful clock := by
    intro event hevent
    cases hevent
  obtain ⟨rounds, outcome, s', hrun, hjournal, hrounds, hbegun, hok, hfinishes⟩ :=
    run_journaled clock hlasts pause allowance (s := s.journaled clock) rfl hfaithful
  have hplain := run_eq_onPart clock s pause allowance
  rw [hrun] at hplain
  refine ⟨rounds, outcome, s', hrun, hplain, hjournal, hrounds, hbegun, hok, fun hjobs => ?_⟩
  obtain ⟨hended, hunfinished⟩ := hfinishes hjobs
  exact ⟨fun r hr => (hrounds.cycles r hr).whole_or_fatal (hended r hr), hunfinished⟩

/-- A job in a scripted time. From its second cycle on a pass has the shutdown requested. -/
def requesting : Job ScriptedClock where
  name := "movies"
  streams := []
  preCheck := pure ()
  execute book := (.ok ⟨1, 1, 1, 1⟩, { book with
    world := if book.world.now = 0 then book.world else book.world.cancel })

/-- A job whose passes fail, each for itself only. -/
def faulty : Job ScriptedClock := ⟨"genres", [], pure (), Call.fail (.transform "no name")⟩

theorem lasts_scripted : ScriptedClock.clock.Lasts [requesting, faulty] where
  execute job hjob book h := by
    rcases List.mem_pair.1 hjob with rfl | rfl
    · change (if book.world.now = 0 then book.world else book.world.cancel).cancelled = true
      split
      · exact h
      · rfl
    · exact h
  sleep span world h := by
    have hsleep : ScriptedClock.sleep span world = (true, world) := if_pos h
    change (ScriptedClock.sleep span world).2.cancelled = true
    rw [hsleep]
    exact h
  cut span world := by
    change (ScriptedClock.sleep span world).1 = true →
      (ScriptedClock.sleep span world).2.cancelled = true
    unfold ScriptedClock.sleep
    generalize world.wake span = wake
    split
    · next hcancelled => exact fun _ => hcancelled
    · cases world.requestBefore wake with
      | none => exact fun h => nomatch h
      | some t => exact fun _ => rfl

/-- The request comes in the first pass of the second cycle. The other pipeline of that cycle is run
too, and there the run ends. -/
theorem run_stops_after_request :
    ∃ (rounds : List Round) (s' : Scheduler (Journaled ScriptedClock)),
      run ScriptedClock.clock.journaled 1000000000 9
        ((ofJobs [requesting, faulty] ⟨∅, .start⟩).journaled ScriptedClock.clock) = (.ok (), s') ∧
      s'.book.world.journal = rounds.flatMap Round.events ∧
      IsRun ["movies", "genres"] 1000000000 rounds (.ok ()) ∧
      s'.book.world.journal.map ScheduleEvent.cancelled = [false, false, false, true, true] ∧
      s'.cycles = 2 := by
  obtain ⟨rounds, outcome, s', hrun, -, hjournal, hrounds, -⟩ := run_stops_between_cycles
    ScriptedClock.clock (ofJobs [requesting, faulty] ⟨∅, .start⟩) lasts_scripted 1000000000 9
  have houtcome : (run ScriptedClock.clock.journaled 1000000000 9
      ((ofJobs [requesting, faulty] ⟨∅, .start⟩).journaled ScriptedClock.clock)).1 = .ok () := by
    decide +kernel
  have hevents : (run ScriptedClock.clock.journaled 1000000000 9
      ((ofJobs [requesting, faulty] ⟨∅, .start⟩).journaled
        ScriptedClock.clock)).2.book.world.journal.map ScheduleEvent.cancelled =
          [false, false, false, true, true] := by
    decide +kernel
  have hcycles : (run ScriptedClock.clock.journaled 1000000000 9
      ((ofJobs [requesting, faulty] ⟨∅, .start⟩).journaled ScriptedClock.clock)).2.cycles = 2 := by
    decide +kernel
  rw [hrun] at houtcome hevents hcycles
  obtain rfl : outcome = .ok () := houtcome
  exact ⟨rounds, s', hrun, hjournal, hrounds, hevents, hcycles⟩

end Scheduler

end CatalogSync
