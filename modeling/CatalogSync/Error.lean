import CatalogSync.Cursor.Basic

/-!
# What can go wrong

The causes of failure of each part, their texts, and how they are answered: a transient error may
go away when the call is repeated, and an error that only aborts its pass leaves the window to the
next cycle. Everything else ends the run.
-/

namespace CatalogSync

/-- Failures of a change source. -/
inductive SourceError where
  /-- The connection could not be opened or was lost. -/
  | connection (detail : String)
  /-- The database refused a statement. -/
  | query (detail : String)
  /-- A row or an aggregate is not shaped as expected. -/
  | data (detail : String)
  deriving DecidableEq, Repr

namespace SourceError

def message : SourceError → String
  | connection m => s!"Connection error: {m}"
  | query m => s!"Query error: {m}"
  | data m => s!"Data error: {m}"

def isTransient : SourceError → Bool
  | connection _ => true
  | _ => false

end SourceError

/-- Failures of a bulk loader. -/
inductive LoadError where
  /-- The request was not answered. -/
  | connection (detail : String)
  | http (status : Nat) (body : String)
  /-- The answer could not be understood. -/
  | response (detail : String)
  | serialization (detail : String)
  | missingIndex (index : String)
  deriving DecidableEq, Repr

namespace LoadError

def message : LoadError → String
  | connection m => s!"Connection error: {m}"
  | http status body => s!"HTTP error {status}: {body}"
  | response m => s!"Response error: {m}"
  | serialization m => s!"Serialization error: {m}"
  | missingIndex index => s!"Index '{index}' does not exist"

/-- The statuses of a server that is overloaded or not there for the moment. -/
def isTransientStatus (status : Nat) : Bool :=
  status = 429 || status = 502 || status = 503 || status = 504

def isTransient : LoadError → Bool
  | connection _ => true
  | http status _ => isTransientStatus status
  | _ => false

end LoadError

/-- Failures of the cursor store and of the cursor book. -/
inductive StateError where
  | io (detail : String)
  | serialization (detail : String)
  /-- A cursor may not move back. -/
  | regression (stream : String) (current proposed : Cursor)
  | poisoned
  deriving DecidableEq

namespace StateError

def message : StateError → String
  | io m => s!"IO error: {m}"
  | serialization m => s!"Serialization error: {m}"
  | regression stream current proposed =>
    s!"Cursor for stream '{stream}' would regress from {current.display} to {proposed.display}"
  | poisoned => "Cursor store lock poisoned"

/-- The texts of what lies beneath the error, outermost first. -/
def causes : StateError → List String
  | io m => [m]
  | _ => []

end StateError

/-- Failures that end a pass. -/
inductive PipelineError where
  | source (cause : SourceError)
  | load (cause : LoadError)
  | state (cause : StateError)
  /-- The index accepted another number of documents than were sent. -/
  | verification (pipeline stream : String) (sent accepted : Nat)
  | transform (detail : String)
  deriving DecidableEq

namespace PipelineError

def message : PipelineError → String
  | source e => s!"Source error: {e.message}"
  | load e => s!"Load error: {e.message}"
  | state e => s!"State error: {e.message}"
  | verification pipeline stream sent accepted =>
    s!"Batch verification failed in pipeline '{pipeline}' for stream '{stream}': " ++
      s!"sent {sent}, accepted {accepted}"
  | transform m => s!"Transform error: {m}"

def isTransient : PipelineError → Bool
  | source e => e.isTransient
  | load e => e.isTransient
  | _ => false

/-- Whether the failure is confined to the window of this pass. -/
def abortsPassOnly : PipelineError → Bool
  | verification .. => true
  | transform _ => true
  | source (.data _) => true
  | _ => false

/-- The texts of what lies beneath the error, outermost first. -/
def causes : PipelineError → List String
  | source e => [e.message]
  | load e => [e.message]
  | state e => e.message :: e.causes
  | _ => []

end PipelineError

/-- Failures that end the schedule. -/
inductive SchedulerError where
  | preCheck (pipeline : String) (cause : PipelineError)
  | pipeline (name : String) (cause : PipelineError)
  deriving DecidableEq

namespace SchedulerError

def cause : SchedulerError → PipelineError
  | preCheck _ e => e
  | pipeline _ e => e

/-- The pipeline that failed. -/
def failed : SchedulerError → String
  | preCheck name _ => name
  | pipeline name _ => name

def message : SchedulerError → String
  | preCheck name e => s!"Pre-check failed for pipeline '{name}': {e.message}"
  | pipeline name e => s!"Pipeline '{name}' failed: {e.message}"

/-- The texts of what lies beneath the error, outermost first. -/
def causes (e : SchedulerError) : List String := e.cause.message :: e.cause.causes

end SchedulerError

end CatalogSync
