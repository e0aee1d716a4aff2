import CatalogSync.Proofs.Schedule.Cycles

/-!
# The journal of a scheduler

A scheduler may be run in a world that keeps a journal: every pass that comes to its end and every
pause is noted, with whether the shutdown had been requested by then. What one cycle notes is the
passes of a cycle of its pipelines, in their order and up to the first failure that is not confined
to its pass.
-/

namespace CatalogSync

namespace PassReport

/-- The sum of reports, field by field. -/
def sumOf (reports : List PassReport) : PassReport where
  extracted := reports.foldr (·.extracted + ·) 0
  loaded := reports.foldr (·.loaded + ·) 0
  batches := reports.foldr (·.batches + ·) 0
  streamsCommitted := reports.foldr (·.streamsCommitted + ·) 0

theorem sumOf_cons (report : PassReport) (reports : List PassReport) :
    sumOf (report :: reports) = report + sumOf reports := rfl

end PassReport

/-- A pass that came to its end. -/
structure PassEnd where
  /-- The pipeline. -/
  name : String
  outcome : Except PipelineError PassReport
  /-- When it began, in milliseconds. -/
  started : Nat
  /-- When it ended, in milliseconds. -/
  finished : Nat
  /-- Whether the shutdown had been requested when it ended. -/
  cancelled : Bool

namespace PassEnd

/-- Whether the pass failed for more than its own window. -/
def isFatal (pass : PassEnd) : Bool :=
  match pass.outcome with
  | .ok _ => false
  | .error e => !e.abortsPassOnly

def report? (pass : PassEnd) : Option PassReport := pass.outcome.toOption

/-- What is recorded of the pass. -/
def entry (pass : PassEnd) : FinishedPass :=
  Scheduler.finishedPass pass.outcome pass.started pass.finished

end PassEnd

/-- A pause between cycles. -/
structure Pause where
  span : Span
  /-- Whether it ended because the shutdown was requested, before its time was up. -/
  isCut : Bool
  /-- Whether the shutdown had been requested when it ended. -/
  cancelled : Bool

/-- What a scheduler does. -/
inductive ScheduleEvent where
  | passed (pass : PassEnd)
  | paused (pause : Pause)

/-- Whether the shutdown had been requested by then. -/
def ScheduleEvent.cancelled : ScheduleEvent → Bool
  | passed pass => pass.cancelled
  | paused pause => pause.cancelled

/-- A world with a journal. -/
structure Journaled (ω : Type) where
  world : ω
  journal : List ScheduleEvent

variable {ω : Type}

/-- The book at the beginning of a journal. -/
def Book.journaled (book : Book ω) : Book (Journaled ω) := ⟨book.cursors, ⟨book.world, []⟩⟩

/-- The job with the end of every pass noted. A pass that does not end leaves no note. -/
def Job.journaled (clock : Clock ω) (job : Job ω) : Job (Journaled ω) where
  name := job.name
  streams := job.streams
  preCheck book :=
    let (outcome, after) := job.preCheck (book.onPart Journaled.world)
    (outcome, ⟨after.cursors, ⟨after.world, book.world.journal⟩⟩)
  execute book :=
    let (outcome, after) := job.execute (book.onPart Journaled.world)
    let note (outcome : Except PipelineError PassReport) : ScheduleEvent :=
      .passed ⟨job.name, outcome, clock.now book.world.world, clock.now after.world,
        clock.isCancelled after.world⟩
    let notes : List ScheduleEvent := match outcome with
      | .ok report => [note (.ok report)]
      | .error e => [note (.error e)]
      | .unfinished => []
    (outcome, ⟨after.cursors, ⟨after.world, book.world.journal ++ notes⟩⟩)

/-- The clock with every pause between cycles noted. -/
def Clock.journaled (clock : Clock ω) : Clock (Journaled ω) where
  now t := clock.now t.world
  isCancelled t := clock.isCancelled t.world
  sleep span t :=
    let (isCut, world) := clock.sleep span t.world
    (isCut, ⟨world, t.journal ++ [.paused ⟨span, isCut, clock.isCancelled world⟩]⟩)
  pause span t := { t with world := clock.pause span t.world }

theorem Job.mirrors_journaled (clock : Clock ω) (job : Job ω) :
    (job.journaled clock).Mirrors Journaled.world job := ⟨rfl, rfl, fun _ => rfl⟩

theorem Clock.mirrors_journaled (clock : Clock ω) :
    clock.journaled.Mirrors Journaled.world clock :=
  ⟨fun _ => rfl, fun _ => rfl, fun _ _ => rfl⟩

theorem Job.forall₂_journaled (clock : Clock ω) (jobs : List (Job ω)) :
    List.Forall₂ (Job.Mirrors Journaled.world) (jobs.map (Job.journaled clock)) jobs := by
  rw [List.forall₂_map_left_iff]
  exact List.forall₂_same.2 fun job _ => job.mirrors_journaled clock

theorem Job.Finishes.journaled {job : Job ω} (h : job.Finishes) (clock : Clock ω) :
    (job.journaled clock).Finishes := fun b => h (b.onPart Journaled.world)

/-- The passes of one cycle that came to their end, and how the cycle did. -/
structure Cycle where
  passes : List PassEnd
  outcome : Outcome SchedulerError PassReport

namespace Cycle

def events (c : Cycle) : List ScheduleEvent := c.passes.map .passed

def isAnswered (c : Cycle) : Bool :=
  match c.outcome with
  | .ok _ => true
  | _ => false

/-- A cycle of the pipelines with these names. -/
structure IsOf (names : List String) (c : Cycle) : Prop where
  /-- The pipelines are run one after the other in their order, each once. -/
  inOrder : c.passes.map PassEnd.name <+: names
  /-- A pass that is followed by another one was no reason to end the cycle. -/
  continued : ∀ pass ∈ c.passes.dropLast, pass.isFatal = false
  /-- The cycle ends well exactly when it came to its last pipeline without such a reason. -/
  answered_iff : c.isAnswered ↔
    c.passes.map PassEnd.name = names ∧ ∀ pass ∈ c.passes, pass.isFatal = false
  /-- It adds up the reports of the passes that had one. -/
  totals : ∀ totals, c.outcome = .ok totals →
    totals = .sumOf (c.passes.filterMap PassEnd.report?)
  /-- It fails exactly as its last pass did, if that was reason enough. -/
  failed_iff : ∀ e, c.outcome = .error e ↔ ∃ pass cause, c.passes.getLast? = some pass ∧
    pass.outcome = .error cause ∧ cause.abortsPassOnly = false ∧ e = .pipeline pass.name cause

variable {names : List String} {passes : List PassEnd} {outcome : Outcome SchedulerError PassReport}

/-- A cycle that comes to its end has run all of its pipelines, unless its last pass was a reason
against it. -/
theorem IsOf.whole_or_fatal {c : Cycle} (h : c.IsOf names) (hc : c.outcome ≠ .unfinished) :
    c.passes.map PassEnd.name = names ∨
      ∃ pass, c.passes.getLast? = some pass ∧ pass.isFatal := by
  cases houtcome : c.outcome with
  | ok totals => exact .inl (h.answered_iff.1 (by rw [isAnswered, houtcome])).1
  | error e =>
    obtain ⟨pass, cause, hlast, hpass, hcause, -⟩ := (h.failed_iff e).1 houtcome
    exact .inr ⟨pass, hlast, by simp [PassEnd.isFatal, hpass, hcause]⟩
  | unfinished => exact absurd houtcome hc

/-- A cycle that comes to its end ends well exactly when no pass was a reason against it. -/
theorem IsOf.answered_iff_of_ended {c : Cycle} (h : c.IsOf names) (hc : c.outcome ≠ .unfinished) :
    c.isAnswered ↔ ∀ pass ∈ c.passes, pass.isFatal = false := by
  rw [h.answered_iff]
  refine ⟨And.right, fun hpasses => ⟨?_, hpasses⟩⟩
  rcases h.whole_or_fatal hc with hwhole | ⟨pass, hlast, hfatal⟩
  · exact hwhole
  · rw [hpasses pass (List.mem_of_getLast? hlast)] at hfatal
    cases hfatal

theorem isOf_nil : IsOf [] ⟨[], .ok .zero⟩ where
  inOrder := List.prefix_rfl
  continued := by simp
  answered_iff := by simp [isAnswered]
  totals := by
    rintro totals ⟨⟩
    rfl
  failed_iff := by simp

/-- The passes that follow one which was no reason to end the cycle. -/
theorem IsOf.cons (h : IsOf names ⟨passes, outcome⟩) {pass : PassEnd}
    (hpass : pass.isFatal = false) :
    IsOf (pass.name :: names)
      ⟨pass :: passes, outcome.map fun totals => pass.report?.getD .zero + totals⟩ where
  inOrder := by
    rw [List.map_cons, List.cons_prefix_cons]
    exact ⟨rfl, h.inOrder⟩
  continued := by
    cases passes with
    | nil => simp
    | cons next rest => simpa [hpass] using h.continued
  answered_iff := by
    have hanswered := h.answered_iff
    cases outcome <;> simpa [isAnswered, Outcome.map, hpass] using hanswered
  totals totals htotals := by
    cases outcome with
    | ok rest =>
      have hrest : rest = .sumOf (passes.filterMap PassEnd.report?) := h.totals rest rfl
      rw [← Outcome.ok.inj htotals, hrest]
      cases hreport : pass.report? with
      | none =>
        rw [List.filterMap_cons_none hreport]
        exact PassReport.zero_add _
      | some report =>
        rw [List.filterMap_cons_some hreport, PassReport.sumOf_cons]
        rfl
    | error e => cases htotals
    | unfinished => cases htotals
  failed_iff e := by
    have hfailed := h.failed_iff e
    have herror : outcome.map (fun totals => pass.report?.getD .zero + totals) = .error e ↔
        outcome = .error e := by
      cases outcome <;> simp [Outcome.map]
    rw [herror, hfailed, List.getLast?_cons]
    cases hlast : passes.getLast? with
    | some last => rfl
    | none =>
      constructor
      · rintro ⟨_, _, hnone, -⟩
        cases hnone
      · rintro ⟨last, cause, hlast, houtcome, hcause, -⟩
        obtain rfl : pass = last := Option.some.inj hlast
        simp [PassEnd.isFatal, houtcome, hcause] at hpass

/-- A pass that ends the cycle. -/
theorem isOf_fatal (names : List String) {pass : PassEnd} {cause : PipelineError}
    (houtcome : pass.outcome = .error cause) (hcause : cause.abortsPassOnly = false) :
    IsOf (pass.name :: names) ⟨[pass], .error (.pipeline pass.name cause)⟩ where
  inOrder := by simp
  continued := by simp
  answered_iff := by simp [isAnswered, PassEnd.isFatal, houtcome, hcause]
  totals _ h := by cases h
  failed_iff e := by
    constructor
    · rintro ⟨⟩
      exact ⟨pass, cause, rfl, houtcome, hcause, rfl⟩
    · rintro ⟨last, other, hlast, hother, -, rfl⟩
      obtain rfl : pass = last := Option.some.inj hlast
      rw [houtcome] at hother
      cases hother
      rfl

/-- A pass that does not end. -/
theorem isOf_unfinished (name : String) (names : List String) :
    IsOf (name :: names) ⟨[], .unfinished⟩ where
  inOrder := List.nil_prefix
  continued := by simp
  answered_iff := by simp [isAnswered]
  totals _ h := by cases h
  failed_iff := by simp

end Cycle

namespace Scheduler

/-- The scheduler at the beginning of a journal. -/
def journaled (clock : Clock ω) (s : Scheduler ω) : Scheduler (Journaled ω) :=
  ⟨s.jobs.map (Job.journaled clock), s.book.journaled, s.registry, s.cycles⟩

/-- Cycles with a journal go as they do without. -/
theorem cycled_eq_onPart (clock : Clock ω) (s : Scheduler ω) (n : Nat) :
    cycled clock n s =
      onPart Journaled.world s.jobs (cycled clock.journaled n (s.journaled clock)) :=
  onPart_cycled (s := s.journaled clock) clock.mirrors_journaled
    (Job.forall₂_journaled clock s.jobs) n

/-- So does a run. -/
theorem run_eq_onPart (clock : Clock ω) (s : Scheduler ω) (pause : Span) (allowance : Nat) :
    run clock pause allowance s =
      ((run clock.journaled pause allowance (s.journaled clock)).1,
        onPart Journaled.world s.jobs
          (run clock.journaled pause allowance (s.journaled clock)).2) :=
  onPart_run (s := s.journaled clock) clock.mirrors_journaled
    (Job.forall₂_journaled clock s.jobs) pause allowance

/-- These passes are what the scheduler has done since. -/
structure Notes (s : Scheduler (Journaled ω)) (passes : List PassEnd)
    (s' : Scheduler (Journaled ω)) :
    Prop where
  journal : s'.book.world.journal = s.book.world.journal ++ passes.map .passed
  registry : s'.registry = passes.foldl (fun r pass => r.record pass.name pass.entry) s.registry
  jobs : s'.jobs = s.jobs

theorem Notes.trans {s s' s'' : Scheduler (Journaled ω)} {passes later : List PassEnd}
    (h : s.Notes passes s') (h' : s'.Notes later s'') : s.Notes (passes ++ later) s'' where
  journal := by rw [h'.journal, h.journal, List.map_append, List.append_assoc]
  registry := by rw [h'.registry, h.registry, List.foldl_append]
  jobs := h'.jobs.trans h.jobs

variable (clock : Clock ω)

/-- One pass is noted and recorded. It ends the cycle if its failure is not confined to it. -/
theorem ends_runJob_journaled (job : Job ω) (s : Scheduler (Journaled ω)) :
    (runJob clock.journaled (job.journaled clock)).Ends
      (fun report s' => ∃ pass : PassEnd, pass.name = job.name ∧ pass.isFatal = false ∧
        report = pass.report?.getD .zero ∧ s.Notes [pass] s')
      (fun e s' => e.elim (s.Notes [] s') fun e => ∃ (pass : PassEnd) (cause : PipelineError),
        pass.name = job.name ∧ pass.outcome = .error cause ∧ cause.abortsPassOnly = false ∧
        e = .pipeline job.name cause ∧ s.Notes [pass] s') s := by
  rcases hrun : job.execute (s.book.onPart Journaled.world) with ⟨report | e | _, after⟩
  · simp only [Call.Ends, runJob, Job.journaled, hrun]
    exact ⟨_, rfl, rfl, rfl, rfl, rfl, rfl⟩
  · cases hcause : e.abortsPassOnly
    · simp only [Call.Ends, runJob, Job.journaled, hrun, hcause]
      exact ⟨_, _, rfl, rfl, hcause, rfl, rfl, rfl, rfl⟩
    · simp only [Call.Ends, runJob, Job.journaled, hrun, hcause]
      refine ⟨_, rfl, ?_, rfl, rfl, rfl, rfl⟩
      simp [PassEnd.isFatal, hcause]
  · simp only [Call.Ends, runJob, Job.journaled, hrun]
    exact ⟨rfl, rfl, rfl⟩

/-- What jobs note that are run in a row are the passes of one cycle. -/
theorem ends_runJobs_journaled (jobs : List (Job ω)) (s : Scheduler (Journaled ω)) :
    (runJobs clock.journaled (jobs.map (Job.journaled clock))).Ends
      (fun totals s' => ∃ passes, s.Notes passes s' ∧
        Cycle.IsOf (jobs.map Job.name) ⟨passes, .ok totals⟩)
      (fun e s' => ∃ passes, s.Notes passes s' ∧
        Cycle.IsOf (jobs.map Job.name) ⟨passes, e.elim .unfinished .error⟩) s := by
  induction jobs generalizing s with
  | nil => exact ⟨[], ⟨by simp, rfl, rfl⟩, Cycle.isOf_nil⟩
  | cons job rest ih =>
    rw [List.map_cons, runJobs, Call.ends_bind]
    refine (ends_runJob_journaled clock job s).mono ?_ ?_
    · rintro _ s' ⟨pass, hname, hpass, rfl, hnotes⟩
      rw [Call.ends_bind, List.map_cons, ← hname]
      refine (ih s').mono ?_ ?_
      · rintro totals s'' ⟨passes, hlater, hcycle⟩
        exact ⟨pass :: passes, hnotes.trans hlater, hcycle.cons hpass⟩
      · rintro (_ | e) s'' ⟨passes, hlater, hcycle⟩ <;>
          exact ⟨pass :: passes, hnotes.trans hlater, hcycle.cons hpass⟩
    · rintro (_ | e) s'
      · intro hnotes
        exact ⟨[], hnotes, Cycle.isOf_unfinished ..⟩
      · rintro ⟨pass, cause, hname, houtcome, hcause, rfl, hnotes⟩
        rw [List.map_cons, ← hname]
        exact ⟨[pass], hnotes, Cycle.isOf_fatal _ houtcome hcause⟩

/-- What one cycle notes and records. It counts itself if it ends well. -/
theorem runCycle_journaled {jobs : List (Job ω)} {s : Scheduler (Journaled ω)}
    (hjobs : s.jobs = jobs.map (Job.journaled clock)) :
    ∃ c : Cycle, c.IsOf (jobs.map Job.name) ∧ c.outcome = (runCycle clock.journaled s).1 ∧
      s.Notes c.passes (runCycle clock.journaled s).2 ∧
      (runCycle clock.journaled s).2.cycles = (s.cycles + if c.isAnswered then 1 else 0) ∧
      ((∀ job ∈ jobs, job.Finishes) → c.outcome ≠ .unfinished) := by
  obtain ⟨passes, hnotes, hcycle⟩ := (Call.ends_outcome_iff (P := fun outcome s' =>
    ∃ passes, s.Notes passes s' ∧ Cycle.IsOf (jobs.map Job.name) ⟨passes, outcome⟩)).1
      (ends_runJobs_journaled clock jobs s)
  refine ⟨_, hcycle, ?_⟩
  have hcycles := runJobs_cycles clock.journaled s.jobs s
  have hfinishes : (∀ job ∈ jobs, job.Finishes) → (runCycle clock.journaled s).1 ≠ .unfinished := by
    intro h
    refine runCycle_finishes clock.journaled fun job' hjob' => ?_
    obtain ⟨job, hjob, rfl⟩ := List.mem_map.1 (hjobs ▸ hjob')
    exact (h job hjob).journaled clock
  rw [← hjobs] at hnotes ⊢
  unfold runCycle at hfinishes ⊢
  generalize runJobs clock.journaled s.jobs s = run at hnotes hcycles hfinishes
  rcases run with ⟨_ | _ | _, s'⟩
  · refine ⟨rfl, ?_, congrArg (· + 1) hcycles, hfinishes⟩
    exact ⟨hnotes.journal, hnotes.registry, hnotes.jobs⟩
  · exact ⟨rfl, hnotes, hcycles, hfinishes⟩
  · exact ⟨rfl, hnotes, hcycles, hfinishes⟩

end Scheduler

end CatalogSync
