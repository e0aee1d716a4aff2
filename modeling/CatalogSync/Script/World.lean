import CatalogSync.Daemon.Process
import CatalogSync.Script.Clock
import CatalogSync.Script.Database
import CatalogSync.Script.Job
import CatalogSync.Script.Loader
import CatalogSync.Script.Server
import CatalogSync.Script.Source
import CatalogSync.Source.Relational
import CatalogSync.Store.CursorFile

/-!
# A scripted world

Everything that pipelines and processes reach, as scripted parts of one world, with a note of every
call that is made on a source, a loader or a job.
-/

namespace CatalogSync

inductive WorldCall where
  | source (c : SourceCall)
  | load (c : LoadCall)
  | preCheck (job : String)
  | execute (job : String)

structure ScriptedWorld where
  source : ScriptedSource
  loaders : List ScriptedLoader
  jobs : List JobScript
  store : MemoryStore
  clock : ScriptedClock
  server : ScriptedServer
  database : ScriptedDatabase
  /-- The client of the database. -/
  client : DatabaseClient
  files : FileSystem
  /-- The calls so far, the last first. -/
  calls : List WorldCall

namespace ScriptedWorld

/-- A world in which nothing has happened. -/
def start (source : SourceScript) (loaders : List ScriptedLoader) (jobs : List JobScript)
    (store : MemoryStore) (server : ScriptedServer) (database : ScriptedDatabase) :
    ScriptedWorld where
  source := .ofScript source
  loaders := loaders
  jobs := jobs
  store := store
  clock := .start
  server := server
  database := database
  client := .fresh
  files := .empty
  calls := []

/-- Change the script of the source; its faults count from the start if that is wanted. -/
def changeSource (f : SourceScript → SourceScript) (recount : Bool) (w : ScriptedWorld) :
    ScriptedWorld :=
  let counts := if recount then [] else w.source.counts
  { w with source := { w.source with script := f w.source.script, counts } }

/-- Change the script of the database; its faults count from the start if that is wanted. -/
def changeDatabase (f : DatabaseScript → DatabaseScript) (recount : Bool) (w : ScriptedWorld) :
    ScriptedWorld :=
  let counts := if recount then [] else w.database.counts
  { w with database := { w.database with script := f w.database.script, counts } }

def note (c : WorldCall) (w : ScriptedWorld) : ScriptedWorld := { w with calls := c :: w.calls }

/-- The calls noted so far, in order, and the world with no note of them. -/
def takeCalls (w : ScriptedWorld) : List WorldCall × ScriptedWorld :=
  (w.calls.reverse, { w with calls := [] })

def takeRequests (w : ScriptedWorld) : List ServerRequest × ScriptedWorld :=
  let (requests, server) := w.server.takeRequests
  (requests, { w with server })

def takeEvents (w : ScriptedWorld) : List DatabaseEvent × ScriptedWorld :=
  let (events, database) := w.database.takeEvents
  (events, { w with database })

/-- Have the shutdown requested after some time. -/
def cancelAfter (span : Span) (w : ScriptedWorld) : ScriptedWorld :=
  { w with clock := w.clock.cancelAfter span }

/-- Request the shutdown. -/
def cancel (w : ScriptedWorld) : ScriptedWorld := { w with clock := w.clock.cancel }

def scriptedSource : Source ScriptedWorld :=
  (ScriptedSource.source.within source fun source w => { w with source }).noting
    fun c => note (.source c)

/-- The scripted loader with a number; `start` is what it is at the start. -/
def scriptedLoader (n : Nat) (start : ScriptedLoader) : Loader ScriptedWorld :=
  (start.loader.within (fun w => (w.loaders[n]?).getD start) fun l w =>
    { w with loaders := w.loaders.set n l }).noting fun c => note (.load c)

/-- The scripted job with a number. -/
def scriptedJob (n : Nat) (name : String) (streams : List String) (store : Store ScriptedWorld) :
    Job ScriptedWorld :=
  let job := ScriptedJob.job {
    name, streams, store, cancel
    script := fun w => (w.jobs[n]?).getD ⟨[], []⟩
    setScript := fun s w => { w with jobs := w.jobs.set n s } }
  { job with
    preCheck := fun b => job.preCheck { b with world := note (.preCheck name) b.world }
    execute := fun b => job.execute { b with world := note (.execute name) b.world } }

def memoryStore : Store ScriptedWorld :=
  MemoryStore.store.within store fun store w => { w with store }

def fileStore (path : Path) : Store ScriptedWorld :=
  (CursorFile.store path).within files fun files w => { w with files }

def scriptedClock : CatalogSync.Clock ScriptedWorld :=
  ScriptedClock.clock.within clock fun clock w => { w with clock }

def webClient : Http.Client ScriptedWorld :=
  ScriptedServer.client.within server fun server w => { w with server }

def scriptedDatabase : Database ScriptedWorld :=
  ScriptedDatabase.database.within database fun database w => { w with database }

/-- A source in the scripted database. -/
def relationalSource {φ : Type} [Growth φ] (address : String) (policy : Policy φ)
    (allowance : Nat) : Source ScriptedWorld :=
  (RelationalSource.source ⟨address, policy⟩ scriptedDatabase allowance).within
    (fun w => ⟨w.client, w⟩) fun s _ => { s.world with client := s.client }

/-- A clock that stands still and is cancelled once a statement has come so often. -/
def signalledClock (statement : String) (nth : Nat) : CatalogSync.Clock ScriptedWorld :=
  let signalled (w : ScriptedWorld) : Bool := nth ≤ (w.database.counts.lookup statement).getD 0
  ⟨fun _ => 0, signalled, fun _ w => (signalled w, w), fun _ w => w⟩

/-- What a process in a home directory reaches. -/
def surroundings (home : String) (clock : CatalogSync.Clock ScriptedWorld) (allowance : Nat) :
    Surroundings ScriptedWorld where
  source address policy := relationalSource address policy allowance
  client := webClient
  store path := fileStore (Path.ofText (if path = "" then "" else joinPath home path))
  clock := clock

end ScriptedWorld

end CatalogSync
