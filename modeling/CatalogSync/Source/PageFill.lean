import CatalogSync.Source.Basic

/-!
# Filling pages

A scan whose connection was lost starts again at the timestamp of the last row that was handed out,
so that it repeats some rows. They are dropped, and the page is topped up from behind them: a page
is short only when the scan has nothing more.
-/

namespace CatalogSync

namespace ChangeRow

/-- The order of a scan: by timestamp, then by id, then by root. -/
def order (a b : ChangeRow) : Ordering :=
  (compare a.timestamp b.timestamp).then ((compare a.id b.id).then (compare a.rootId b.rootId))

/-- Whether a row comes no later in a scan than the last one handed out. -/
def isHandedOut (last : Option ChangeRow) (r : ChangeRow) : Bool :=
  last.any fun last => order r last != .gt

end ChangeRow

/-- A page that is being put together. -/
structure PageFill where
  /-- How many rows the page is to have. -/
  size : Nat
  /-- The last row of the page before. -/
  last : Option ChangeRow
  rows : List ChangeRow
  /-- Whether the scan has nothing more. -/
  isDrained : Bool

namespace PageFill

def start (size : Nat) (last : Option ChangeRow) : PageFill := ⟨size, last, [], false⟩

/-- How many rows to fetch next; none once the page is full or the scan drained. -/
def want? (p : PageFill) : Option Nat :=
  if p.isDrained || p.size ≤ p.rows.length then none else some (p.size - p.rows.length)

/-- Take the rows that came when so many were wanted. -/
def take (p : PageFill) (want : Nat) (rows : List ChangeRow) : PageFill :=
  { p with
    isDrained := p.isDrained || rows.length < want
    rows := p.rows ++ rows.filter (!·.isHandedOut p.last) }

end PageFill

end CatalogSync
