import CatalogSync.NameMap
import CatalogSync.Pass.Report

/-!
# Status of the pipelines

How the last pass of every pipeline went, and how many passes it has had.
-/

namespace CatalogSync

/-- How a pass went. -/
inductive PassResult where
  | success
  | failed (message : String)
  deriving DecidableEq, Repr

/-- What is known of a pipeline's passes. -/
structure PipelineStatus where
  pipeline : String
  /-- When the last pass ended, in milliseconds. -/
  lastRun : Option Nat
  /-- How long the last pass took, in milliseconds. -/
  lastDuration : Option Nat
  lastResult : Option PassResult
  /-- Documents that the last pass with a report has loaded. -/
  lastLoaded : Nat
  runCount : Nat
  errorCount : Nat
  deriving DecidableEq, Repr

/-- A pipeline that has not run. -/
def PipelineStatus.ofName (pipeline : String) : PipelineStatus :=
  ⟨pipeline, none, none, none, 0, 0, 0⟩

/-- A pass that has ended. -/
structure FinishedPass where
  result : PassResult
  /-- When it ended, in milliseconds. -/
  finished : Nat
  /-- How long it took, in milliseconds. -/
  duration : Nat
  report : Option PassReport

def PipelineStatus.record (s : PipelineStatus) (pass : FinishedPass) : PipelineStatus where
  pipeline := s.pipeline
  lastRun := some pass.finished
  lastDuration := some pass.duration
  lastResult := some pass.result
  lastLoaded := match pass.report with
    | some report => report.loaded
    | none => s.lastLoaded
  runCount := s.runCount + 1
  errorCount := match pass.result with
    | .success => s.errorCount
    | .failed _ => s.errorCount + 1

/-- The status of every registered pipeline. -/
structure StatusRegistry where
  statuses : NameMap PipelineStatus

namespace StatusRegistry

def empty : StatusRegistry := ⟨.empty⟩

/-- Make a pipeline known; what was known of it is forgotten. -/
def register (r : StatusRegistry) (pipeline : String) : StatusRegistry :=
  ⟨r.statuses.insert pipeline (.ofName pipeline)⟩

/-- Record a pass; one of a pipeline that is not known is ignored. -/
def record (r : StatusRegistry) (pipeline : String) (pass : FinishedPass) : StatusRegistry :=
  ⟨r.statuses.modify pipeline (·.record pass)⟩

def get? (r : StatusRegistry) (pipeline : String) : Option PipelineStatus :=
  r.statuses.get? pipeline

def isRegistered (r : StatusRegistry) (pipeline : String) : Bool := r.statuses.contains pipeline

/-- Every status, by the names of the pipelines. -/
def all (r : StatusRegistry) : List PipelineStatus := r.statuses.values

end StatusRegistry

end CatalogSync
