import CatalogSync.Catalog.Entity
import CatalogSync.Json.Basic
import CatalogSync.Source.Query
import CatalogSync.Timestamp.Basic

/-!
# Statements

What a change source says to a database, and the rows that come back. A scan is a cursor of the
database: it is declared once inside a transaction and fetched from in pieces. In every row that
comes back a value may be NULL.
-/

namespace CatalogSync

inductive Statement where
  /-- Whether the database is there. -/
  | ping
  | beginTransaction
  /-- Declare the scan's cursor. A related scan also takes the latest change of a root. -/
  | declare (selection : Selection) (start : Timestamp) (root : Option Timestamp)
  | fetch (count : Nat)
  | probe (entity : Entity)
  | enrich (aggregate : Aggregate) (ids : List String)
  /-- Close the scan's cursor. -/
  | close
  | commit
  | rollback
  deriving DecidableEq

/-- A row of a change stream as the database gives it. -/
structure ScanRow where
  rootId : Option String
  timestamp : Option Timestamp
  id : Option String
  deriving DecidableEq

/-- The latest row of a table as the database gives it. -/
structure LatestRow where
  timestamp : Option Timestamp
  id : Option String
  deriving DecidableEq

namespace Statement

/-- The name of the scan's cursor in the database. -/
def cursorName : String := "etl_scan"

/-- The text that is sent. -/
def text : Statement → String
  | ping => "SELECT 1"
  | beginTransaction => "BEGIN TRANSACTION ISOLATION LEVEL REPEATABLE READ"
  | declare selection .. => s!"DECLARE {cursorName} NO SCROLL CURSOR FOR {Query.scan selection}"
  | fetch count => s!"FETCH {count} FROM {cursorName}"
  | probe entity => Query.probe entity
  | enrich aggregate _ => Query.enrich aggregate
  | close => s!"CLOSE {cursorName}"
  | commit => "COMMIT"
  | rollback => "ROLLBACK"

/-- What comes back: rows where the statement asks for some. -/
@[reducible] def Answer : Statement → Type
  | ping => List Unit
  | fetch _ => List ScanRow
  | probe _ => List LatestRow
  | enrich .. => List (Option Json)
  | _ => Unit

end Statement

end CatalogSync
