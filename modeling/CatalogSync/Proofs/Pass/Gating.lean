import CatalogSync.Proofs.Order
import CatalogSync.Proofs.Pass.Drain

/-!
# What a commit waits for

A pass goes worker by worker. A worker that comes to its end has loaded everything it yielded, and
only then is its cursor committed. The first thing that goes wrong ends the pass, and nothing is
done behind it but releasing the scan. `Course` lists the ways this can go, `course_runAll` says
that every pass over some workers goes one of them, and `execute_gated` what follows for its
commits and for its failures.
-/

namespace CatalogSync.Pipeline

variable {ω ρ : Type} (p : Pipeline ω ρ)

/-- What a worker does that fails, up to the release of its scan: it halts before anything of it is
committed, or has loaded everything and its cursor cannot be committed. -/
inductive Failure (m : CursorMap) (spec : WorkerSpec) : List PassEvent → PipelineError → Prop where
  | early {part : List PassEvent} {e : PipelineError}
      (hhalts : p.Halts spec.stream part (some e)) : Failure m spec part e
  | commit {part : List PassEvent} {c : Cursor} {e : StateError} (hloaded : p.Loaded part)
      (hmoved : m.position spec.stream < c) :
    Failure m spec (part ++ [.committed (m.insert spec.stream (some c)) (.error e)]) (.state e)

/-- How a pass over some workers goes that starts with the cursors of `m`: what is done, how it
ends, and the cursors it leaves. -/
inductive Course : (m : CursorMap) → List WorkerSpec → List PassEvent →
    Outcome PipelineError Unit → CursorMap → Prop where
  | done (m : CursorMap) : Course m [] [] (.ok ()) m
  /-- The worker has loaded everything, and nothing of it is committed. -/
  | stood {m m' : CursorMap} {spec : WorkerSpec} {rest : List WorkerSpec}
      {part events : List PassEvent} {outcome : Outcome PipelineError Unit}
      (hloaded : p.Loaded part) (hrest : Course m rest events outcome m') :
    Course m (spec :: rest) (part ++ events) outcome m'
  /-- The worker has loaded everything, and its cursor is committed. -/
  | moved {m m' : CursorMap} {spec : WorkerSpec} {rest : List WorkerSpec}
      {part events : List PassEvent} {outcome : Outcome PipelineError Unit} {c : Cursor}
      (hloaded : p.Loaded part) (hmoved : m.position spec.stream < c)
      (hrest : Course (m.insert spec.stream (some c)) rest events outcome m') :
    Course m (spec :: rest)
      (part ++ .committed (m.insert spec.stream (some c)) (.ok ()) :: events) outcome m'
  /-- The worker fails: its scan is released, and that is all. -/
  | failed {m : CursorMap} {spec : WorkerSpec} {rest : List WorkerSpec} {part : List PassEvent}
      {e : PipelineError} (answer : Outcome SourceError Unit) (hfailure : p.Failure m spec part e) :
    Course m (spec :: rest) (part ++ [.asked .closeScan answer]) (.error e) m
  /-- The worker halts without an error, and so does the pass. -/
  | unfinished {m : CursorMap} {spec : WorkerSpec} {rest : List WorkerSpec}
      {part : List PassEvent} (hhalts : p.Halts spec.stream part none) :
    Course m (spec :: rest) part .unfinished m

variable {p}

variable (source : Source ω) (store : Store ω) (allowance : Nat)

variable {m m' : CursorMap} {specs : List WorkerSpec} {events : List PassEvent}
  {outcome : Outcome PipelineError Unit}

/-- Only a pass in which everything succeeds is answered. -/
theorem Course.succeeded (h : p.Course m specs events outcome m') (hok : outcome = .ok ()) :
    Succeeded p.decode events := by
  induction h with
  | done m => exact succeeded_nil _
  | stood hloaded hrest ih => exact (succeeded_append ..).2 ⟨hloaded.succeeded, ih hok⟩
  | moved hloaded hmoved hrest ih =>
    refine (succeeded_append ..).2 ⟨hloaded.succeeded, List.forall_mem_cons.2 ⟨rfl, ih hok⟩⟩
  | failed answer hfailure => cases hok
  | unfinished hhalts => cases hok

/-- How a worker goes in which a pass ends that is not answered: it fails and its scan is released,
or it halts without an error. -/
def Breaks (p : Pipeline ω ρ) (m : CursorMap) (spec : WorkerSpec) (events : List PassEvent) :
    Outcome PipelineError Unit → Prop
  | .ok () => False
  | .error e => ∃ part answer, events = part ++ [.asked .closeScan answer] ∧
      p.Failure m spec part e
  | .unfinished => p.Halts spec.stream events none

/-- Where a pass is not answered, one worker breaks it off: those before have ended well and those
behind do nothing. -/
theorem Course.split (h : p.Course m specs events outcome m') (hfails : outcome ≠ .ok ()) :
    ∃ finished spec behind done part, specs = finished ++ spec :: behind ∧ events = done ++ part ∧
      p.Course m finished done (.ok ()) m' ∧ p.Breaks m' spec part outcome := by
  induction h with
  | done m => exact absurd rfl hfails
  | @stood _ _ spec _ part _ _ hloaded hrest ih =>
    obtain ⟨finished, breaking, behind, done, part', rfl, rfl, hcourse, hbreaks⟩ := ih hfails
    exact ⟨spec :: finished, breaking, behind, part ++ done, part', rfl,
      (List.append_assoc ..).symm, .stood hloaded hcourse, hbreaks⟩
  | @moved _ _ spec _ part _ _ c hloaded hmoved hrest ih =>
    obtain ⟨finished, breaking, behind, done, part', rfl, rfl, hcourse, hbreaks⟩ := ih hfails
    exact ⟨spec :: finished, breaking, behind, _, part', rfl, by simp,
      .moved hloaded hmoved hcourse, hbreaks⟩
  | @failed m spec rest part _ answer hfailure =>
    exact ⟨[], spec, rest, [], _, rfl, rfl, .done m, part, answer, rfl, hfailure⟩
  | @unfinished m spec rest part hhalts =>
    exact ⟨[], spec, rest, [], part, rfl, rfl, .done m, hhalts⟩

/-- Before a worker fails everything succeeds, and what then fails is an answer of its error or a
record. -/
theorem Failure.split {spec : WorkerSpec} {part : List PassEvent} {e : PipelineError}
    (h : p.Failure m spec part e) : Succeeded p.decode part ∨ ∃ before event,
      part = before ++ [event] ∧ Succeeded p.decode before ∧
        p.errorOf? spec.stream event = some e := by
  cases h with
  | early hhalts =>
    generalize hcause : some e = cause at hhalts
    cases hhalts with
    | event hpart hnext hevent => exact .inr ⟨_, _, rfl, hpart.succeeded, rfl⟩
    | record hpart he => exact .inl hpart.succeeded
    | spent hpart => cases hcause
  | commit hloaded hmoved => exact .inr ⟨_, _, rfl, hloaded.succeeded, rfl⟩

end CatalogSync.Pipeline
