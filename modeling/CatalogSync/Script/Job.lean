import CatalogSync.Schedule.Scheduler
import CatalogSync.Script.Clock

/-!
# Scripted jobs

Jobs whose checks and passes end as a script says, to try out the scheduler without pipelines.
-/

namespace CatalogSync

/-- What one pass does. -/
structure ScriptedPass where
  /-- Request the shutdown first. -/
  cancels : Bool
  /-- Move the first stream to a cursor; that may fail. -/
  advance : Option Cursor
  result : Except PipelineError PassReport

/-- The checks and passes to come, each used up by one call; later ones succeed. -/
structure JobScript where
  preChecks : List (Option PipelineError)
  passes : List ScriptedPass

namespace JobScript

/-- The outcome of the next check. -/
def nextCheck (s : JobScript) : Except PipelineError Unit × JobScript :=
  (match s.preChecks.head?.join with
    | some e => .error e
    | none => .ok (), { s with preChecks := s.preChecks.tail })

/-- A pass that does nothing. -/
def idlePass : ScriptedPass := ⟨false, none, .ok .zero⟩

def nextPass (s : JobScript) : ScriptedPass × JobScript :=
  (s.passes.head?.getD idlePass, { s with passes := s.passes.tail })

end JobScript

/-- A job whose script lives in the world, with a clock and a store. -/
structure ScriptedJob (ω : Type) where
  name : String
  streams : List String
  script : ω → JobScript
  setScript : JobScript → ω → ω
  cancel : ω → ω
  store : Store ω

namespace ScriptedJob

variable {ω : Type} (j : ScriptedJob ω)

def preCheck : Call PipelineError (Book ω) Unit := fun b =>
  let (result, script) := (j.script b.world).nextCheck
  (.ofExcept result, { b with world := j.setScript script b.world })

/-- Move the first stream of the job. -/
def advance (cursor : Option Cursor) (b : Book ω) : Except StateError Bool × Book ω :=
  match cursor with
  | some cursor => b.advance j.store (j.streams.head?.getD "") cursor
  | none => (.ok false, b)

def execute : Call PipelineError (Book ω) PassReport := fun b =>
  let (pass, script) := (j.script b.world).nextPass
  let world := j.setScript script b.world
  let world := if pass.cancels then j.cancel world else world
  match j.advance pass.advance { b with world } with
  | (.error e, b) => (.error (.state e), b)
  | (.ok _, b) => (.ofExcept pass.result, b)

def job : Job ω := ⟨j.name, j.streams, j.preCheck, j.execute⟩

end ScriptedJob

end CatalogSync
