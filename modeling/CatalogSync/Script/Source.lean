import CatalogSync.Source.Basic

/-!
# Scripted sources

A source that answers from a script, to try out workers and pipelines without a database. Scans
hand out listed rows, and chosen calls fail.
-/

namespace CatalogSync

/-- What a call of a source is named by. -/
def SourceCall.name : SourceCall → String
  | openScan .. => "open"
  | fetch _ => "fetch"
  | closeScan => "close"
  | probe _ => "probe"
  | enrich .. => "enrich"
  | ping => "ping"

/-- A row of a scripted scan, and when its root was changed. -/
structure ScriptedRow where
  row : ChangeRow
  rootModified : Option Timestamp

/-- Calls of one name that fail: the `nth` and those after it, `times` in all. -/
structure CallFault where
  call : String
  nth : Nat
  times : Nat
  error : SourceError

def CallFault.hits (f : CallFault) (call : String) (n : Nat) : Bool :=
  f.call = call && f.nth ≤ n && n < f.nth + f.times

/-- What a scripted source answers. -/
structure SourceScript where
  rows : Selection → List ScriptedRow
  document? : Aggregate → String → Option Json
  greatest : Entity → Option Cursor
  /-- Whether a scan leaves out rows before its start and roots after its bound. -/
  filters : Bool
  /-- The most rows of one answer. -/
  fetchCap : Option Nat
  faults : List CallFault

/-- The script of a source that holds nothing. -/
def SourceScript.empty : SourceScript :=
  ⟨fun _ => [], fun _ _ => none, fun _ => none, true, none, []⟩

/-- A scripted source at work. -/
structure ScriptedSource where
  script : SourceScript
  /-- How often each call was made. -/
  counts : List (String × Nat)
  /-- The rows left in the open scan. -/
  scan : Option (List ChangeRow)

namespace ScriptedSource

def ofScript (script : SourceScript) : ScriptedSource := ⟨script, [], none⟩

/-- Whether a scan that filters holds a row. -/
def keeps (start : Cursor) (root : Option Cursor) (r : ScriptedRow) : Bool :=
  compare start.timestamp r.row.timestamp != .gt &&
    match root, r.rootModified with
    | some root, some modified => compare modified root.timestamp != .gt
    | _, _ => true

def scanOf (script : SourceScript) (selection : Selection) (start : Cursor)
    (root : Option Cursor) : List ChangeRow :=
  let rows := script.rows selection
  (if script.filters then rows.filter (keeps start root) else rows).map ScriptedRow.row

/-- The answer to a call that does not fail. -/
def answer (s : ScriptedSource) : (c : SourceCall) → Except SourceError c.Answer × ScriptedSource
  | .openScan selection start root =>
    (.ok (), { s with scan := some (scanOf s.script selection start root) })
  | .fetch count =>
    match s.scan with
    | none => (.error (.query "no scan is open"), s)
    | some rows =>
      let n := min count (s.script.fetchCap.getD count)
      (.ok (rows.take n), { s with scan := some (rows.drop n) })
  | .closeScan => (.ok (), { s with scan := none })
  | .probe entity => (.ok (s.script.greatest entity), s)
  | .enrich aggregate ids => (.ok (ids.filterMap (s.script.document? aggregate)), s)
  | .ping => (.ok (), s)

/-- The source of a script. A call that a fault hits fails before anything else happens. -/
def source : Source ScriptedSource where
  ask c s :=
    let n := (s.counts.lookup c.name).getD 0 + 1
    let s := { s with counts := (c.name, n) :: s.counts.filter (·.1 ≠ c.name) }
    match s.script.faults.find? (·.hits c.name n) with
    | some fault => (.error fault.error, s)
    | none =>
      let (result, s) := s.answer c
      (Outcome.ofExcept result, s)

end ScriptedSource

end CatalogSync
