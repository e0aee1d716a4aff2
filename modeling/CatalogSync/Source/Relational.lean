import CatalogSync.Database.Basic
import CatalogSync.Retry.Run
import CatalogSync.Source.PageFill

/-!
# The source in a database

A change source that scans the catalog's database. A scan lives in a transaction, so that all of its
pages and its probe read one snapshot. When the connection is lost, the next call makes a new one;
a scan is then declared again from the last row that was handed out, and a probe, whose snapshot is
gone, answers nothing.
-/

namespace CatalogSync

/-- The open scan of a client. -/
structure OpenScan where
  selection : Selection
  start : Timestamp
  /-- The latest change of a root that a related scan returns. -/
  root : Option Timestamp
  /-- The last row handed out. -/
  last : Option ChangeRow
  /-- Whether the scan's cursor was declared over the connection that is in use. -/
  isDeclared : Bool
  deriving DecidableEq

/-- A client of a database. -/
structure DatabaseClient where
  hasConnection : Bool
  scan : Option OpenScan
  deriving DecidableEq

namespace DatabaseClient

/-- A client that has not asked for anything. -/
def fresh : DatabaseClient := ⟨false, none⟩

/-- The client with or without a connection in place of the one before, over which nothing was
declared. -/
def reconnected (c : DatabaseClient) (hasConnection : Bool) : DatabaseClient :=
  ⟨hasConnection, c.scan.map fun scan => { scan with isDeclared := false }⟩

end DatabaseClient

/-- A client and the world of its database. -/
structure Session (ω : Type) where
  client : DatabaseClient
  world : ω

namespace ScanRow

/-- The error of a column that holds no value. -/
def missing (column : Nat) : SourceError := .data s!"scan row: error deserializing column {column}"

def changeRow (r : ScanRow) : Except SourceError ChangeRow :=
  match r.rootId, r.timestamp, r.id with
  | none, _, _ => .error (missing 0)
  | _, none, _ => .error (missing 1)
  | _, _, none => .error (missing 2)
  | some rootId, some timestamp, some id => .ok ⟨rootId, timestamp, id⟩

end ScanRow

namespace LatestRow

def missing (column : Nat) : SourceError :=
  .data s!"probe row: error deserializing column {column}"

def cursor (r : LatestRow) : Except SourceError Cursor :=
  match r.timestamp, r.id with
  | none, _ => .error (missing 0)
  | _, none => .error (missing 1)
  | some timestamp, some id => .ok (.ofRow timestamp id)

end LatestRow

/-- The aggregates of some rows. -/
def enrichedDocuments (rows : List (Option Json)) : Except SourceError (List Json) :=
  rows.mapM fun
    | some document => .ok document
    | none => .error (.data "enrichment row: error deserializing column 0")

/-- The error of a statement that answers another number of rows than it has to. -/
def unexpectedRows : SourceError := .query "query returned an unexpected number of rows"

/-- The cursor of the latest row, if there is a row. -/
def latestCursor : List LatestRow → Except SourceError (Option Cursor)
  | [] => .ok none
  | [row] => row.cursor.map some
  | _ => .error unexpectedRows

def noOpenScan : SourceError := .query "no scan is open"

/-- A source in a database. -/
structure RelationalSource (φ : Type) where
  address : String
  policy : Policy φ

namespace RelationalSource

variable {φ ω α : Type} (r : RelationalSource φ) (db : Database ω)

def client? : Call SourceError (Session ω) DatabaseClient := fun s => (.ok s.client, s)

/-- Change the open scan. -/
def updateScan (f : OpenScan → OpenScan) : Call SourceError (Session ω) Unit := fun s =>
  (.ok (), { s with client := { s.client with scan := s.client.scan.map f } })

/-- A call on the world of the database. -/
def outside (c : Call Refusal ω α) : Call SourceError (Session ω) α :=
  (c.mapError Refusal.toSourceError).within Session.world fun world s => { s with world }

/-- Put a new connection in place of the one before. -/
def reconnect : Call SourceError (Session ω) Unit := fun s =>
  (.ok (), { s with client := s.client.reconnected true })

/-- Open a connection. -/
def connect (endpoints : List Endpoint) : Call SourceError (Session ω) Unit := do
  outside (db.connectAny .unreachable endpoints)
  reconnect

/-- Make sure that there is a connection that is not known to be gone. -/
def ensureConnection : Call SourceError (Session ω) Unit := fun s =>
  if s.client.hasConnection && !db.isClosed s.world then (.ok (), s)
  else
    match DatabaseAddress.resolve r.address with
    | .error e => (.error e.toSourceError, s)
    | .ok endpoints => connect db endpoints s

/-- Give up the connection. -/
def dropConnection (s : Session ω) : Session ω :=
  ⟨s.client.reconnected false, db.disconnect s.world⟩

/-- The call, and the connection given up if the failure may go away. -/
def dropping (c : Call SourceError (Session ω) α) : Call SourceError (Session ω) α := fun s =>
  match c s with
  | (.error e, s) => (.error e, if e.isTransient then dropConnection db s else s)
  | ended => ended

/-- Send a statement over the connection, which has to be there. -/
def run (s : Statement) : Call SourceError (Session ω) s.Answer := outside (db.run s)

/-- Send a statement over a connection. -/
def ask (s : Statement) : Call SourceError (Session ω) s.Answer := do
  r.ensureConnection db
  run db s

/-- The call with its failure passed over. -/
def ignoring (c : Call SourceError (Session ω) Unit) : Call SourceError (Session ω) Unit := fun s =>
  match c s with
  | (.error _, s) => (.ok (), s)
  | ended => ended

/-- The statement that declares a scan from where it stands. -/
def declaration (scan : OpenScan) : Statement :=
  .declare scan.selection ((scan.last.map ChangeRow.timestamp).getD scan.start)
    (if scan.selection.isRelated then scan.root else none)

/-- Declare the cursor of a scan. -/
def runDeclaration (scan : OpenScan) : Call SourceError (Session ω) Unit := fun s =>
  match db.run (declaration scan) s.world with
  | (.ok _, world) => (.ok (), { s with world })
  | (.error e, world) => (do
    ignoring (run db .rollback)
    Call.fail e.toSourceError) { s with world }
  | (.unfinished, world) => (.unfinished, { s with world })

/-- Begin a transaction and declare the cursor of a scan in it. -/
def declare (scan : OpenScan) : Call SourceError (Session ω) Unit := do
  r.ensureConnection db
  run db .beginTransaction
  runDeclaration db scan
  updateScan fun scan => { scan with isDeclared := true }

/-- Fetch until the page is full or the scan drained. -/
def fill : (allowance : Nat) → PageFill → Call SourceError (Session ω) (List ChangeRow)
  | 0, _ => Call.unfinished
  | allowance + 1, page =>
    match page.want? with
    | none => pure page.rows
    | some want => do
      let rows : List ScanRow ← r.ask db (.fetch want)
      fill allowance (page.take want (← Call.ofExcept (rows.mapM ScanRow.changeRow)))

/-- The next page of the open scan, in one attempt. -/
def fetchOnce (allowance count : Nat) : Call SourceError (Session ω) (List ChangeRow) := do
  match (← client?).scan with
  | none => Call.fail noOpenScan
  | some scan =>
    if !scan.isDeclared then r.declare db scan
    let rows ← r.fill db allowance (.start count scan.last)
    updateScan fun scan => { scan with last := rows.getLast? <|> scan.last }
    return rows

/-- The latest row of a table, in one attempt. An open scan whose snapshot is not there answers
nothing. -/
def probeOnce (entity : Entity) : Call SourceError (Session ω) (Option Cursor) := do
  if (← client?).scan.any (!·.isDeclared) then return none
  Call.ofExcept (latestCursor (← r.ask db (.probe entity)))

/-- The aggregates found under the ids, in one attempt. -/
def enrichOnce (aggregate : Aggregate) (ids : List String) :
    Call SourceError (Session ω) (List Json) := do
  Call.ofExcept (enrichedDocuments (← r.ask db (.enrich aggregate ids)))

/-- Repeat an attempt under the policy, over a new connection after a loss. The notices and pauses
of the loop leave no trace in a session, and are dropped. -/
def retrying [Growth φ] (operation : String) (allowance : Nat)
    (attempt : Call SourceError (Session ω) α) : Call SourceError (Session ω) α :=
  r.policy.retry operation allowance (dropping db attempt)

/-- End the transaction of a declared scan. What is lost here is only read, so nothing of it can
fail. -/
def endScan : Call SourceError (Session ω) Unit := fun s =>
  match run db .close s with
  | (.ok _, s) => ignoring (run db .commit) s
  | (.error _, s) => ignoring (run db .rollback) s
  | (.unfinished, s) => (.unfinished, s)

/-- Release the open scan. -/
def closeScan : Call SourceError (Session ω) Unit := fun s =>
  let released := { s with client := { s.client with scan := none } }
  if s.client.scan.any OpenScan.isDeclared && s.client.hasConnection && !db.isClosed s.world then
    endScan db released
  else (.ok (), released)

/-- Hold a scan as the open one. -/
def holdScan (scan : OpenScan) : Call SourceError (Session ω) Unit := fun s =>
  (.ok (), { s with client := { s.client with scan := some scan } })

/-- Open a scan. Nothing is sent before its first page is asked for. -/
def openScan (selection : Selection) (start : Cursor) (root : Option Cursor) :
    Call SourceError (Session ω) Unit := do
  closeScan db
  if Query.hasScan selection then
    holdScan ⟨selection, start.timestamp, root.map Cursor.timestamp, none, false⟩
  else Call.fail (.query s!"no scan defined for {selection.display}")

/-- Whether the database is there; this is not tried again. -/
def ping : Call SourceError (Session ω) Unit := do
  let rows : List Unit ← r.ask db .ping
  if rows.length = 1 then return () else Call.fail unexpectedRows

/-- The source. -/
def source [Growth φ] (allowance : Nat) : Source (Session ω) where
  ask
    | .openScan selection start root => openScan db selection start root
    | .fetch count => r.retrying db "postgres fetch" allowance (r.fetchOnce db allowance count)
    | .closeScan => closeScan db
    | .probe entity => r.retrying db "postgres probe" allowance (r.probeOnce db entity)
    | .enrich aggregate ids =>
      if ids = [] then pure ([] : List Json)
      else r.retrying db "postgres enrich" allowance (r.enrichOnce db aggregate ids)
    | .ping => dropping db (r.ping db)

end RelationalSource

end CatalogSync
