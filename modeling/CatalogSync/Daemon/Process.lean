import CatalogSync.Cursor.CursorMap
import CatalogSync.Daemon.CommandLine
import CatalogSync.Daemon.Pipelines
import CatalogSync.Json.Printer
import CatalogSync.Settings.Files

/-!
# What a process does

A process is started with settings and a command. It runs cycles until the shutdown or only one,
checks that everything is there, or shows the cursors. It runs nothing before the source and every
index have answered. What goes wrong is reported with everything that lies beneath it.
-/

namespace CatalogSync

/-- What ends a process. -/
inductive ProcessError where
  | settings (cause : SettingsError)
  | openCursors (cause : StateError)
  | preCheck (cause : SchedulerError)
  | cycle (cause : SchedulerError)
  | schedule (cause : SchedulerError)
  | readCursors (cause : StateError)

namespace ProcessError

def message : ProcessError → String
  | settings _ => "Failed to load configuration"
  | openCursors _ => "Failed to open cursor file"
  | preCheck _ => "Pre-check failed"
  | cycle _ => "Cycle failed"
  | schedule _ => "Scheduler stopped on error"
  | readCursors _ => "Failed to read cursor file"

/-- The texts of what lies beneath the error, outermost first. -/
def causes : ProcessError → List String
  | settings e => [e.message]
  | openCursors e => e.message :: e.causes
  | readCursors e => e.message :: e.causes
  | preCheck e => e.message :: e.causes
  | cycle e => e.message :: e.causes
  | schedule e => e.message :: e.causes

/-- A number in five columns. -/
def column (n : Nat) : String :=
  let digits := Nat.toDigits 10 n
  String.ofList (List.replicate (5 - digits.length) ' ' ++ digits)

/-- Causes line by line; they are numbered if there are several. -/
def causeLines (causes : List String) : List String :=
  match causes with
  | [cause] => ["    " ++ cause]
  | causes => causes.zipIdx.map fun (cause, n) => column n ++ ": " ++ cause

/-- What a person is told. -/
def report (e : ProcessError) : String :=
  "\n".intercalate (["Error: " ++ e.message, "", "Caused by:"] ++ causeLines e.causes) ++ "\n"

end ProcessError

/-- What a process can reach. -/
structure Surroundings (ω : Type) where
  /-- The source at an address. -/
  source : (address : String) → Policy Float → Source ω
  client : Http.Client ω
  /-- The store in a file. -/
  store : (path : String) → Store ω
  clock : Clock ω

namespace Surroundings

variable {ω α : Type} (o : Surroundings ω) (dirs : UserDirs) (s : Settings) (allowance : Nat)

/-- The store of the process. -/
def cursorStore : Store ω := o.store (s.cursorFilePath dirs)

/-- The jobs of the process. -/
def jobs : List (Job ω) :=
  (CatalogPipelines.ofSettings s s.retry.policy o.client allowance).jobs
    (o.source s.source.dsn s.retry.policy) (o.cursorStore dirs s) allowance

/-- A call on the scheduler of the process, which starts from the stored cursors. -/
def scheduling (c : Call ProcessError (Scheduler ω) α) : Call ProcessError ω α := fun w =>
  match Scheduler.start? (o.cursorStore dirs s) (o.jobs dirs s allowance) w with
  | .error e => (.error (.openCursors e), w)
  | .ok scheduler =>
    let (outcome, scheduler) := c scheduler
    (outcome, scheduler.book.world)

/-- See whether everything is there. -/
def preCheck : Call ProcessError (Scheduler ω) Unit :=
  (Scheduler.preCheck o.clock s.startupPolicy allowance).mapError .preCheck

/-- Run cycles until the shutdown, or one cycle. -/
def run (once : Bool) : Call ProcessError (Scheduler ω) Unit := do
  o.preCheck s allowance
  if once then
    let _ ← (Scheduler.runCycle o.clock).mapError .cycle
  else (Scheduler.run o.clock s.scheduler.interval allowance).mapError .schedule

/-- What a check tells. -/
def readyText : Call ProcessError (Scheduler ω) String := fun scheduler =>
  let names := scheduler.jobs.map Job.name
  (.ok ("All pipelines ready: " ++ ", ".intercalate names ++ "\n"), scheduler)

/-- Carry out a command. The answer is what is printed. -/
def execute (command : Command) : Call ProcessError ω String :=
  match command with
  | .run once =>
    o.scheduling dirs s allowance do
      o.run s allowance once
      return ""
  | .check =>
    o.scheduling dirs s allowance do
      o.preCheck s allowance
      readyText
  | .cursors => fun w =>
    match (o.cursorStore dirs s).load w with
    | .ok m => (.ok (m.toJson.indented ++ "\n"), w)
    | .error e => (.error (.readCursors e), w)

/-- Load the settings and carry out a command. -/
def start (sources : SettingsSources) (command : Command) : Call ProcessError ω String := fun w =>
  match sources.load dirs with
  | .error e => (.error (.settings e), w)
  | .ok s => o.execute dirs s allowance command w

end Surroundings

end CatalogSync
