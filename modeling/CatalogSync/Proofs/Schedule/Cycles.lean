import CatalogSync.Proofs.Call.Ends
import CatalogSync.Proofs.Pass.Mirror
import CatalogSync.Proofs.Store.Book
import CatalogSync.Schedule.Scheduler
import Mathlib.Data.List.Forall2

/-!
# Cycles

What every pass keeps is kept by any number of cycles. A scheduler whose jobs and whose clock live
in a larger world goes as it does in the part of that world which they mirror, so its runs may be
watched without changing them.
-/

namespace CatalogSync

variable {τ ω : Type} {part : τ → ω}

/-- A job in a larger world, whose passes do to a part of it what those of another job do. -/
structure Job.Mirrors (part : τ → ω) (job' : Job τ) (job : Job ω) : Prop where
  name_eq : job'.name = job.name
  streams_eq : job'.streams = job.streams
  execute : Call.Mirrors (Book.onPart part) job'.execute job.execute

/-- Every pass of the job comes to its end. -/
def Job.Finishes (job : Job ω) : Prop := ∀ b, (job.execute b).1 ≠ .unfinished

/-- The clock shows of a larger world what another one shows of a part of it. -/
structure Clock.Mirrors (part : τ → ω) (clock' : Clock τ) (clock : Clock ω) : Prop where
  now_eq : ∀ t, clock.now (part t) = clock'.now t
  isCancelled_eq : ∀ t, clock.isCancelled (part t) = clock'.isCancelled t
  sleep_eq : ∀ span t,
    clock.sleep span (part t) = ((clock'.sleep span t).1, part (clock'.sleep span t).2)

namespace Scheduler

/-- The scheduler after so many cycles, however they ended. -/
def cycled (clock : Clock ω) (n : Nat) (s : Scheduler ω) : Scheduler ω :=
  (fun s => (runCycle clock s).2)^[n] s

/-- A cycle more. -/
theorem cycled_succ (clock : Clock ω) (n : Nat) (s : Scheduler ω) :
    cycled clock (n + 1) s = (runCycle clock (cycled clock n s)).2 :=
  Function.iterate_succ_apply' ..

section Keeps

variable {I : Book ω → Prop} {jobs : List (Job ω)} {s : Scheduler ω}

/-- A pass changes the book as it does, and else only what is recorded. -/
theorem runJob_left (clock : Clock ω) (job : Job ω) (s : Scheduler ω) :
    (runJob clock job s).2.book = (job.execute s.book).2 ∧ (runJob clock job s).2.jobs = s.jobs ∧
      (runJob clock job s).2.cycles = s.cycles := by
  rcases hpass : job.execute s.book with ⟨_ | e | _, book⟩
  · simp [runJob, hpass]
  · by_cases habort : e.abortsPassOnly <;> simp [runJob, hpass, habort]
  · simp [runJob, hpass]

/-- What every pass keeps is kept by all of them. -/
theorem runJobs_left (clock : Clock ω) {J : Scheduler ω → Prop}
    (hjobs : ∀ job ∈ jobs, ∀ s, J s → J (runJob clock job s).2) (hs : J s) :
    J (runJobs clock jobs s).2 := by
  suffices h : (runJobs clock jobs).Ends (fun _ => J) (fun _ => J) s from h.left
  induction jobs generalizing s with
  | nil => exact hs
  | cons job rest ih =>
    rw [runJobs, Call.ends_bind]
    refine (Call.ends_of_left (hjobs job List.mem_cons_self s hs)).imp fun _ s' hs' => ?_
    rw [Call.ends_bind]
    exact ih (fun j hj => hjobs j (List.mem_cons_of_mem _ hj)) hs'

/-- What every pass keeps of the book is kept by all of them. -/
theorem runJobs_keeps (clock : Clock ω) (hjobs : ∀ job ∈ jobs, ∀ b, I b → I (job.execute b).2)
    (hs : I s.book) :
    I (runJobs clock jobs s).2.book ∧ (runJobs clock jobs s).2.jobs = s.jobs := by
  refine runJobs_left clock (J := fun s' => I s'.book ∧ s'.jobs = s.jobs) ?_ ⟨hs, rfl⟩
  intro job hjob s' hs'
  obtain ⟨hbook, hlist, -⟩ := runJob_left clock job s'
  rw [hbook, hlist]
  exact ⟨hjobs job hjob _ hs'.1, hs'.2⟩

/-- Passes are not what is counted. -/
theorem runJobs_cycles (clock : Clock ω) (jobs : List (Job ω)) (s : Scheduler ω) :
    (runJobs clock jobs s).2.cycles = s.cycles :=
  runJobs_left clock (J := fun s' => s'.cycles = s.cycles)
    (fun job _ s' hs' => (runJob_left clock job s').2.2.trans hs') rfl

/-- A cycle leaves what its passes leave, and counts itself if it ends well. -/
theorem runCycle_left (clock : Clock ω) (s : Scheduler ω) :
    (runCycle clock s).2.book = (runJobs clock s.jobs s).2.book ∧
      (runCycle clock s).2.jobs = (runJobs clock s.jobs s).2.jobs := by
  rcases hrun : runJobs clock s.jobs s with ⟨_ | _ | _, s'⟩ <;> simp [runCycle, hrun]

/-- What every pass keeps is kept by a cycle. -/
theorem runCycle_keeps (clock : Clock ω) (hjobs : ∀ job ∈ s.jobs, ∀ b, I b → I (job.execute b).2)
    (hs : I s.book) : I (runCycle clock s).2.book ∧ (runCycle clock s).2.jobs = s.jobs := by
  obtain ⟨hbook, hlist⟩ := runCycle_left clock s
  rw [hbook, hlist]
  exact runJobs_keeps clock hjobs hs

/-- The pipelines stay as they are. -/
theorem runCycle_jobs (clock : Clock ω) (s : Scheduler ω) : (runCycle clock s).2.jobs = s.jobs :=
  (runCycle_keeps (I := fun _ => True) clock (fun _ _ _ _ => trivial) trivial).2

/-- What every pass keeps is kept by any number of cycles. -/
theorem cycled_keeps (clock : Clock ω) (hjobs : ∀ job ∈ jobs, ∀ b, I b → I (job.execute b).2)
    (n : Nat) (hs : I s.book) (hlist : s.jobs = jobs) :
    I (cycled clock n s).book ∧ (cycled clock n s).jobs = jobs := by
  subst hlist
  induction n with
  | zero => exact ⟨hs, rfl⟩
  | succ n ih =>
    rw [cycled_succ]
    have hcycle := runCycle_keeps clock (s := cycled clock n s) (ih.2 ▸ hjobs) ih.1
    exact ⟨hcycle.1, hcycle.2.trans ih.2⟩

/-- When every pass comes to its end, every cycle does. -/
theorem runCycle_finishes (clock : Clock ω) (hjobs : ∀ job ∈ s.jobs, job.Finishes) :
    (runCycle clock s).1 ≠ .unfinished := by
  have hrun (jobs : List (Job ω)) (h : ∀ job ∈ jobs, job.Finishes) (s : Scheduler ω) :
      (runJobs clock jobs).Ends (fun _ _ => True) (fun e _ => e ≠ none) s := by
    induction jobs generalizing s with
    | nil => trivial
    | cons job rest ih =>
      have hrest := ih fun j hj => h j (List.mem_cons_of_mem _ hj)
      have hjob : (runJob clock job).Ends (fun _ _ => True) (fun e _ => e ≠ none) s := by
        have hpass := h job List.mem_cons_self s.book
        rcases hexecute : job.execute s.book with ⟨_ | e | _, after⟩ <;> rw [hexecute] at hpass
        · simp [Call.Ends, runJob, hexecute]
        · by_cases habort : e.abortsPassOnly <;> simp [Call.Ends, runJob, hexecute, habort]
        · exact absurd rfl hpass
      rw [runJobs, Call.ends_bind]
      refine hjob.imp fun _ s' _ => ?_
      rw [Call.ends_bind]
      exact (hrest s').imp fun _ _ => id
  have hends := hrun s.jobs hjobs s
  unfold runCycle
  rcases hcycle : runJobs clock s.jobs s with ⟨_ | _ | _, s'⟩
  · simp
  · simp
  · exact absurd rfl (hends.of_unfinished hcycle)

end Keeps

section Mirrors

variable {clock' : Clock τ} {clock : Clock ω} {jobs : List (Job ω)} {s : Scheduler τ}

/-- The scheduler of these jobs in the part of the world. -/
def onPart (part : τ → ω) (jobs : List (Job ω)) (s : Scheduler τ) : Scheduler ω :=
  ⟨jobs, s.book.onPart part, s.registry, s.cycles⟩

theorem mirrors_runJob (hclock : clock'.Mirrors part clock) {job' : Job τ} {job : Job ω}
    (hjob : job'.Mirrors part job) :
    Call.Mirrors (onPart part jobs) (runJob clock' job') (runJob clock job) := by
  intro s
  have hpass := hjob.execute s.book
  have hbook : (onPart part jobs s).book = s.book.onPart part := rfl
  rcases hrun : job'.execute s.book with ⟨_ | e | _, book⟩ <;> rw [hrun] at hpass <;>
    simp only [runJob, hbook, hpass, hrun, hjob.name_eq]
  · simp only [onPart, Book.onPart, hclock.now_eq]
  · split <;> simp only [onPart, Book.onPart, hclock.now_eq]
  · rfl

theorem mirrors_runJobs (hclock : clock'.Mirrors part clock) {rest' : List (Job τ)}
    {rest : List (Job ω)} (hrest : List.Forall₂ (Job.Mirrors part) rest' rest) :
    Call.Mirrors (onPart part jobs) (runJobs clock' rest') (runJobs clock rest) := by
  induction hrest with
  | nil => exact .pure _
  | cons hjob _ ih => exact (mirrors_runJob hclock hjob).bind fun _ => ih.bind fun _ => .pure _

/-- A cycle goes as the cycle of the jobs that its own jobs mirror. -/
theorem onPart_runCycle (hclock : clock'.Mirrors part clock)
    (hjobs : List.Forall₂ (Job.Mirrors part) s.jobs jobs) :
    runCycle clock (onPart part jobs s) =
      ((runCycle clock' s).1, onPart part jobs (runCycle clock' s).2) := by
  have hrun : runJobs clock jobs (onPart part jobs s) =
      ((runJobs clock' s.jobs s).1, onPart part jobs (runJobs clock' s.jobs s).2) :=
    mirrors_runJobs hclock hjobs s
  have hlist : (onPart part jobs s).jobs = jobs := rfl
  simp only [runCycle, hlist, hrun]
  rcases runJobs clock' s.jobs s with ⟨_ | _ | _, s'⟩ <;> rfl

/-- So do any number of cycles. -/
theorem onPart_cycled (hclock : clock'.Mirrors part clock)
    (hjobs : List.Forall₂ (Job.Mirrors part) s.jobs jobs) (n : Nat) :
    cycled clock n (onPart part jobs s) = onPart part jobs (cycled clock' n s) := by
  induction n with
  | zero => rfl
  | succ n ih =>
    have hlist : (cycled clock' n s).jobs = s.jobs :=
      (cycled_keeps (I := fun _ => True) clock' (fun _ _ _ _ => trivial) n trivial rfl).2
    rw [cycled_succ, cycled_succ, ih, onPart_runCycle hclock (hlist ▸ hjobs)]

/-- So does a cycle with the pause behind it. -/
theorem onPart_turn (hclock : clock'.Mirrors part clock)
    (hjobs : List.Forall₂ (Job.Mirrors part) s.jobs jobs) (pause : Span) :
    turn clock pause (onPart part jobs s) =
      ((turn clock' pause s).1, onPart part jobs (turn clock' pause s).2) ∧
    (turn clock' pause s).2.jobs = s.jobs := by
  have hcycle := onPart_runCycle hclock hjobs
  have hlist := runCycle_jobs clock' s
  have hnow (s : Scheduler τ) : clock.isCancelled (onPart part jobs s).book.world =
      clock'.isCancelled s.book.world := hclock.isCancelled_eq _
  have hsleep (s : Scheduler τ) : clock.sleep pause (onPart part jobs s).book.world =
      ((clock'.sleep pause s.book.world).1, part (clock'.sleep pause s.book.world).2) :=
    hclock.sleep_eq ..
  rcases hrun : runCycle clock' s with ⟨_ | _ | _, s'⟩ <;> rw [hrun] at hcycle hlist <;>
    simp only [turn, hnow, hcycle, hrun, hsleep] <;> split
  · exact ⟨rfl, rfl⟩
  · split <;> exact ⟨rfl, hlist⟩
  · exact ⟨rfl, rfl⟩
  · exact ⟨rfl, hlist⟩
  · exact ⟨rfl, rfl⟩
  · exact ⟨rfl, hlist⟩

/-- So does a run. -/
theorem onPart_run (hclock : clock'.Mirrors part clock)
    (hjobs : List.Forall₂ (Job.Mirrors part) s.jobs jobs) (pause : Span) (allowance : Nat) :
    run clock pause allowance (onPart part jobs s) =
      ((run clock' pause allowance s).1, onPart part jobs (run clock' pause allowance s).2) := by
  unfold run
  induction allowance generalizing s with
  | zero => rfl
  | succ allowance ih =>
    obtain ⟨hturn, hlist⟩ := onPart_turn hclock hjobs pause
    rcases hrun : turn clock' pause s with ⟨(_ | _) | _ | _, s'⟩ <;> rw [hrun] at hturn hlist <;>
      simp only [Call.untilSome, hturn, hrun]
    exact ih (hlist ▸ hjobs)

end Mirrors

section Register

/-- Jobs are added behind those that are there, with their streams and their names made known. -/
theorem foldl_register (jobs : List (Job ω)) (s : Scheduler ω) : jobs.foldl register s =
    ⟨s.jobs ++ jobs, s.book.register (jobs.flatMap Job.streams),
      jobs.foldl (fun r job => r.register job.name) s.registry, s.cycles⟩ := by
  induction jobs generalizing s with
  | nil => simp [Book.register]
  | cons job rest ih =>
    rw [List.foldl_cons, ih]
    simp [register, Book.register, List.foldl_append]

/-- A scheduler of some jobs before its first cycle. -/
def ofJobs (jobs : List (Job ω)) (book : Book ω) : Scheduler ω := jobs.foldl register (ofBook book)

theorem ofJobs_eq (jobs : List (Job ω)) (book : Book ω) : ofJobs jobs book =
    ⟨jobs, book.register (jobs.flatMap Job.streams),
      jobs.foldl (fun r job => r.register job.name) .empty, 0⟩ :=
  foldl_register jobs (ofBook book)

/-- A scheduler is started on what is loaded, with nothing done yet. -/
theorem start?_eq (store : Store ω) (jobs : List (Job ω)) {world : ω} {m : CursorMap}
    (hload : store.load world = .ok m) :
    start? store jobs world = .ok ⟨jobs, (Book.mk m world).register (jobs.flatMap Job.streams),
      jobs.foldl (fun r job => r.register job.name) .empty, 0⟩ := by
  have hstart : start? store jobs world =
      (Book.open? store world).bind fun book => .ok (jobs.foldl register (ofBook book)) := rfl
  rw [hstart, Book.open?_of_load hload, Except.bind, foldl_register]
  rfl

end Register

end Scheduler

end CatalogSync
