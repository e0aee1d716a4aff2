import CatalogSync.Proofs.Schedule.Journal
import Mathlib.Data.List.Induction

/-!
# What the registry tells

After any number of cycles the status of a pipeline is what its passes amount to, the counter of the
scheduler is the number of cycles that ended well, and every cycle ran the pipelines in their order
up to the first failure that was not confined to its pass.
-/

namespace CatalogSync

namespace PassEnd

def hasFailed (pass : PassEnd) : Bool := pass.report?.isNone

def result (pass : PassEnd) : PassResult :=
  match pass.outcome with
  | .ok _ => .success
  | .error e => .failed e.message

end PassEnd

namespace PipelineStatus

/-- The status is that of the pipeline of this name after these passes of it. -/
structure Tells (status : PipelineStatus) (name : String) (passes : List PassEnd) : Prop where
  pipeline : status.pipeline = name
  runCount : status.runCount = passes.length
  errorCount : status.errorCount = passes.countP PassEnd.hasFailed
  /-- How the latest pass went. -/
  lastResult : status.lastResult = passes.getLast?.map PassEnd.result
  /-- The documents of the latest pass that had a report. -/
  lastLoaded : status.lastLoaded =
    ((passes.filterMap PassEnd.report?).getLast?.map PassReport.loaded).getD 0

/-- Before its first pass. -/
theorem tells_ofName (name : String) : (ofName name).Tells name [] := ⟨rfl, rfl, rfl, rfl, rfl⟩

/-- One pass more. -/
theorem Tells.record {status : PipelineStatus} {name : String} {passes : List PassEnd}
    (h : status.Tells name passes) (pass : PassEnd) :
    (status.record pass.entry).Tells name (passes ++ [pass]) where
  pipeline := h.pipeline
  runCount := by rw [List.length_append, ← h.runCount]; rfl
  errorCount := by
    rw [List.countP_append, ← h.errorCount]
    rcases houtcome : pass.outcome with e | report <;>
      simp [PipelineStatus.record, PassEnd.entry, Scheduler.finishedPass, PassEnd.hasFailed,
        PassEnd.report?, houtcome, Except.toOption]
  lastResult := by
    rw [List.getLast?_concat]
    rcases houtcome : pass.outcome with e | report <;>
      simp [PipelineStatus.record, PassEnd.entry, Scheduler.finishedPass, PassEnd.result, houtcome]
  lastLoaded := by
    rcases houtcome : pass.outcome with e | report <;>
      simp [PipelineStatus.record, PassEnd.entry, Scheduler.finishedPass, PassEnd.report?, houtcome,
        Except.toOption, h.lastLoaded]

/-- The passes of a pipeline, recorded one by one. -/
theorem tells_foldl (name : String) (passes : List PassEnd) :
    (passes.foldl (fun status pass => status.record pass.entry) (ofName name)).Tells name
      passes := by
  induction passes using List.reverseRecOn with
  | nil => exact tells_ofName name
  | append_singleton passes pass ih =>
    rw [List.foldl_concat]
    exact ih.record pass

end PipelineStatus

namespace StatusRegistry

theorem get?_register (r : StatusRegistry) (pipeline name : String) :
    (r.register pipeline).get? name =
      if name = pipeline then some (.ofName pipeline) else r.get? name :=
  NameMap.get?_insert ..

theorem get?_record (r : StatusRegistry) (pipeline name : String) (pass : FinishedPass) :
    (r.record pipeline pass).get? name =
      if name = pipeline then (r.get? name).map (·.record pass) else r.get? name := by
  unfold record get? NameMap.modify
  by_cases hname : name = pipeline
  · subst hname
    cases hstatus : r.statuses.get? name <;> simp [hstatus]
  · cases r.statuses.get? pipeline <;> simp [hname]

/-- Every pipeline that is registered is known as one that has not run. -/
theorem get?_foldl_register {ω : Type} (jobs : List (Job ω)) (r : StatusRegistry) (name : String) :
    (jobs.foldl (fun r job => r.register job.name) r).get? name =
      if name ∈ jobs.map Job.name then some (.ofName name) else r.get? name := by
  induction jobs generalizing r with
  | nil => simp
  | cons job rest ih =>
    rw [List.foldl_cons, ih, get?_register]
    simp only [List.map_cons, List.mem_cons]
    by_cases hrest : name ∈ rest.map Job.name
    · simp [hrest]
    · by_cases hname : name = job.name <;> simp [hrest, hname]

/-- Of the passes that are recorded, those of its own pipeline make up a status. -/
theorem get?_foldl_record (passes : List PassEnd) (r : StatusRegistry) (name : String) :
    (passes.foldl (fun r pass => r.record pass.name pass.entry) r).get? name =
      (r.get? name).map fun status => (passes.filter (·.name = name)).foldl
        (fun status pass => status.record pass.entry) status := by
  induction passes generalizing r with
  | nil => simp
  | cons pass rest ih =>
    rw [List.foldl_cons, ih, get?_record]
    by_cases hname : pass.name = name
    · simp [hname, Option.map_map, Function.comp_def]
    · rw [if_neg (Ne.symm hname)]
      simp [hname]

end StatusRegistry

namespace Scheduler

variable {ω : Type} (clock : Clock ω)

/-- What any number of cycles note and record. -/
theorem cycled_journaled {jobs : List (Job ω)} (n : Nat) {s : Scheduler (Journaled ω)}
    (hjobs : s.jobs = jobs.map (Job.journaled clock)) :
    ∃ cycles : List Cycle, cycles.length = n ∧ (∀ c ∈ cycles, c.IsOf (jobs.map Job.name)) ∧
      (∀ k c, cycles[k]? = some c →
        (runCycle clock.journaled (cycled clock.journaled k s)).1 = c.outcome ∧
        (cycled clock.journaled (k + 1) s).book.world.journal =
          (cycled clock.journaled k s).book.world.journal ++ c.events) ∧
      (cycled clock.journaled n s).registry = (cycles.flatMap Cycle.passes).foldl
        (fun r pass => r.record pass.name pass.entry) s.registry ∧
      (cycled clock.journaled n s).cycles = s.cycles + cycles.countP Cycle.isAnswered ∧
      ((∀ job ∈ jobs, job.Finishes) → ∀ c ∈ cycles, c.outcome ≠ .unfinished) := by
  induction n generalizing s with
  | zero => exact ⟨[], rfl, by simp, by simp, rfl, rfl, by simp⟩
  | succ n ih =>
    obtain ⟨c, hcycle, houtcome, hnotes, hcount, hends⟩ := runCycle_journaled clock hjobs
    obtain ⟨cycles, hlength, hcycles, hsteps, hregistry, hcounts, hfinishes⟩ :=
      ih (hnotes.jobs.trans hjobs)
    refine ⟨c :: cycles, congrArg (· + 1) hlength, ?_, ?_, ?_, ?_, ?_⟩
    · exact List.forall_mem_cons.2 ⟨hcycle, hcycles⟩
    · rintro (_ | k) c' hc'
      · obtain rfl : c = c' := Option.some.inj hc'
        exact ⟨houtcome.symm, hnotes.journal⟩
      · exact hsteps k c' hc'
    · rw [List.flatMap_cons, List.foldl_append, ← hnotes.registry]
      exact hregistry
    · rw [List.countP_cons, Nat.add_comm (cycles.countP _), ← Nat.add_assoc, ← hcount]
      exact hcounts
    · exact fun h => List.forall_mem_cons.2 ⟨hends h, hfinishes h⟩

/-- However the passes of some pipelines come out, and however often the pipelines are run: every
cycle runs them in their order, each once, up to the first failure that is not confined to its pass;
it fails with that failure, or else adds up the reports of its passes. The scheduler counts the
cycles that ended well, and the status of every pipeline is what its passes amount to. The journal
that all this is read from is kept beside the world of the scheduler and changes nothing there. -/
theorem cycles_tell_truth (jobs : List (Job ω)) (book : Book ω) (n : Nat) :
    (∀ k, cycled clock k (ofJobs jobs book) =
      onPart Journaled.world jobs (cycled clock.journaled k ((ofJobs jobs book).journaled clock))) ∧
    ∃ cycles : List Cycle, cycles.length = n ∧ (∀ c ∈ cycles, c.IsOf (jobs.map Job.name)) ∧
      (∀ k c, cycles[k]? = some c →
        (runCycle clock (cycled clock k (ofJobs jobs book))).1 = c.outcome ∧
        (cycled clock.journaled (k + 1) ((ofJobs jobs book).journaled clock)).book.world.journal =
          (cycled clock.journaled k ((ofJobs jobs book).journaled clock)).book.world.journal ++
            c.events) ∧
      (cycled clock n (ofJobs jobs book)).cycles = cycles.countP Cycle.isAnswered ∧
      (∀ job ∈ jobs, ∃ status,
        (cycled clock n (ofJobs jobs book)).registry.get? job.name = some status ∧
        status.Tells job.name ((cycles.flatMap Cycle.passes).filter (·.name = job.name))) ∧
      ((∀ job ∈ jobs, job.Finishes) → ∀ c ∈ cycles, c.outcome ≠ .unfinished ∧
        (c.isAnswered ↔ ∀ pass ∈ c.passes, pass.isFatal = false)) := by
  have hlist : (ofJobs jobs book).jobs = jobs := by rw [ofJobs_eq]
  have hplain (k : Nat) : cycled clock k (ofJobs jobs book) = onPart Journaled.world jobs
      (cycled clock.journaled k ((ofJobs jobs book).journaled clock)) := by
    rw [cycled_eq_onPart, hlist]
  have hjournaled : ((ofJobs jobs book).journaled clock).jobs = jobs.map (Job.journaled clock) := by
    rw [journaled, hlist]
  obtain ⟨cycles, hlength, hcycles, hsteps, hregistry, hcount, hfinishes⟩ :=
    cycled_journaled clock n hjournaled
  refine ⟨hplain, cycles, hlength, hcycles, fun k c hc => ⟨?_, (hsteps k c hc).2⟩, ?_, ?_, ?_⟩
  · have hkept : (cycled clock.journaled k ((ofJobs jobs book).journaled clock)).jobs =
        jobs.map (Job.journaled clock) :=
      (cycled_keeps (I := fun _ => True) _ (fun _ _ _ _ => trivial) k trivial hjournaled).2
    rw [hplain, onPart_runCycle clock.mirrors_journaled (hkept ▸ Job.forall₂_journaled clock jobs)]
    exact (hsteps k c hc).1
  · rw [hplain, onPart, hcount, journaled, ofJobs_eq, Nat.zero_add]
  · intro job hjob
    refine ⟨_, ?_, PipelineStatus.tells_foldl _ _⟩
    rw [hplain, onPart, hregistry, journaled, ofJobs_eq, StatusRegistry.get?_foldl_record,
      StatusRegistry.get?_foldl_register, if_pos (List.mem_map_of_mem hjob), Option.map_some]
  · intro hends c hc
    exact ⟨hfinishes hends c hc, (hcycles c hc).answered_iff_of_ended (hfinishes hends c hc)⟩

end Scheduler

end CatalogSync
