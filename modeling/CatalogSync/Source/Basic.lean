import CatalogSync.Call
import CatalogSync.Catalog.Entity
import CatalogSync.Error

/-!
# Change sources

A source is asked for six things: to open a scan of a change stream, for its next rows, to release
it, for the greatest row of a table, for aggregates by id, and whether it is there. At most one
scan is open, and opening another releases it.
-/

namespace CatalogSync

/-- A row of a change stream. -/
structure ChangeRow where
  /-- The aggregate that the change touches. -/
  rootId : String
  timestamp : Timestamp
  /-- The changed row itself. -/
  id : String
  deriving DecidableEq, Inhabited

/-- The cursor of a stream handled up to this row. -/
def ChangeRow.cursor (r : ChangeRow) : Cursor := .ofRow r.timestamp r.id

/-- What a source can be asked. -/
inductive SourceCall where
  /-- Start a scan of the rows at or after a cursor's timestamp. A related scan leaves out the roots
  changed after the timestamp of the root cursor, if there is one. -/
  | openScan (selection : Selection) (start : Cursor) (root : Option Cursor)
  /-- The next rows of the open scan, as many as are left at most. -/
  | fetch (count : Nat)
  /-- Release the open scan, if there is one. -/
  | closeScan
  /-- The greatest row of a table, as the open scan sees the table. -/
  | probe (entity : Entity)
  /-- The aggregates found under the ids. -/
  | enrich (aggregate : Aggregate) (ids : List String)
  /-- Whether the source is there. -/
  | ping
  deriving DecidableEq

/-- What answers a question. -/
@[reducible] def SourceCall.Answer : SourceCall → Type
  | openScan .. => Unit
  | fetch _ => List ChangeRow
  | closeScan => Unit
  | probe _ => Option Cursor
  | enrich .. => List Json
  | ping => Unit

/-- A source that lives in a world `ω`. -/
structure Source (ω : Type) where
  ask : (c : SourceCall) → Call SourceError ω c.Answer

namespace Source

variable {σ ω : Type}

/-- A source that is a part of the world. -/
def within (s : Source σ) (get : ω → σ) (set : σ → ω → ω) : Source ω :=
  ⟨fun c => (s.ask c).within get set⟩

/-- The source with every call noted before it is made. -/
def noting (s : Source ω) (note : SourceCall → ω → ω) : Source ω :=
  ⟨fun c w => s.ask c (note c w)⟩

end Source

end CatalogSync
