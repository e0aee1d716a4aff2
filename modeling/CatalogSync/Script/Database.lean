import CatalogSync.Database.Basic

/-!
# Scripted databases

A database that answers from a script, to try out the relational source. It keeps the cursor of
its one connection, and chosen statements are refused, lost with the connection, or answered with
no rows.
-/

namespace CatalogSync

/-- What a statement is named by. -/
def Statement.name : Statement → String
  | ping => "PING"
  | beginTransaction => "BEGIN"
  | declare .. => "DECLARE"
  | fetch _ => "FETCH"
  | probe _ => "PROBE"
  | enrich .. => "ENRICH"
  | close => "CLOSE"
  | commit => "COMMIT"
  | rollback => "ROLLBACK"

/-- The answer that holds no rows. -/
def Statement.noRows : (s : Statement) → s.Answer
  | ping => ([] : List Unit)
  | fetch _ => ([] : List ScanRow)
  | probe _ => ([] : List LatestRow)
  | enrich .. => ([] : List (Option Json))
  | beginTransaction => ()
  | declare .. => ()
  | close => ()
  | commit => ()
  | rollback => ()

inductive StatementFaultKind where
  /-- The connection is closed without an answer. -/
  | drops
  | refuses (code : String)
  | empties

/-- Statements of one name that go wrong: the `nth` and those after it, `times` in all. -/
structure StatementFault where
  statement : String
  nth : Nat
  times : Nat
  kind : StatementFaultKind

def StatementFault.hits (f : StatementFault) (statement : String) (n : Nat) : Bool :=
  f.statement = statement && f.nth ≤ n && n < f.nth + f.times

/-- A row of a scripted scan, and when its root was changed. -/
structure ScriptedScanRow where
  row : ScanRow
  rootModified : Option Timestamp

structure DatabaseScript where
  rows : Selection → List ScriptedScanRow
  /-- The document found under an id, which may be NULL. -/
  document? : Aggregate → String → Option (Option Json)
  latest? : Entity → Option LatestRow
  faults : List StatementFault

/-- The script of a database that holds nothing. -/
def DatabaseScript.empty : DatabaseScript := ⟨fun _ => [], fun _ _ => none, fun _ => none, []⟩

/-- What a database sees of its clients. -/
inductive DatabaseEvent where
  | connection
  | statement (s : Statement)

def DatabaseEvent.name : DatabaseEvent → String
  | connection => "CONNECT"
  | statement s => s.name

/-- A scripted database at work. -/
structure ScriptedDatabase where
  endpoint : Endpoint
  isListening : Bool
  script : DatabaseScript
  /-- How often each statement came. -/
  counts : List (String × Nat)
  isConnected : Bool
  /-- The rows left in the declared cursor. -/
  cursor : Option (List ScanRow)
  /-- What came and is still to be looked at, the last first. -/
  events : List DatabaseEvent

namespace ScriptedDatabase

/-- A database that nobody is connected to. -/
def ofScript (isListening : Bool) (script : DatabaseScript) : ScriptedDatabase :=
  ⟨⟨"127.0.0.1", 5432⟩, isListening, script, [], false, none, []⟩

/-- The address of the database. -/
def address (d : ScriptedDatabase) : String :=
  s!"postgres://etl@{d.endpoint.host}:{d.endpoint.port}/movies"

/-- What came, in order, and the database with none of it. -/
def takeEvents (d : ScriptedDatabase) : List DatabaseEvent × ScriptedDatabase :=
  (d.events.reverse, { d with events := [] })

/-- The database without its connection. -/
def hungUp (d : ScriptedDatabase) : ScriptedDatabase :=
  { d with isConnected := false, cursor := none }

/-- Whether a declared cursor holds a row. -/
def keeps (start : Timestamp) (root : Option Timestamp) (r : ScriptedScanRow) : Bool :=
  r.row.timestamp.all (compare start · != .gt) &&
    match root, r.rootModified with
    | some root, some modified => compare modified root != .gt
    | _, _ => true

/-- The error of a cursor that is not declared. -/
def noCursor : Refusal := .sqlError "34000"

/-- The answer to a statement that nothing goes wrong with. -/
def answer (d : ScriptedDatabase) : (s : Statement) → Except Refusal s.Answer × ScriptedDatabase
  | .ping => (.ok [()], d)
  | .beginTransaction => (.ok (), { d with cursor := none })
  | .declare selection start root =>
    let rows := ((d.script.rows selection).filter (keeps start root)).map ScriptedScanRow.row
    (.ok (), { d with cursor := some rows })
  | .fetch count =>
    match d.cursor with
    | some rows => (.ok (rows.take count), { d with cursor := some (rows.drop count) })
    | none => (.error noCursor, d)
  | .probe entity => (.ok (d.script.latest? entity).toList, d)
  | .enrich aggregate ids => (.ok (ids.filterMap (d.script.document? aggregate)), d)
  | .close => (if d.cursor.isSome then .ok () else .error noCursor, { d with cursor := none })
  | .commit => (.ok (), { d with cursor := none })
  | .rollback => (.ok (), { d with cursor := none })

/-- Take note of what came, and see what goes wrong with it. -/
def receive (d : ScriptedDatabase) (e : DatabaseEvent) :
    Option StatementFaultKind × ScriptedDatabase :=
  let n := (d.counts.lookup e.name).getD 0 + 1
  ((d.script.faults.find? (·.hits e.name n)).map StatementFault.kind,
    { d with
      counts := (e.name, n) :: d.counts.filter (·.1 ≠ e.name)
      events := e :: d.events })

def connect (e : Endpoint) : Call Refusal ScriptedDatabase Unit := fun d =>
  if d.isListening && e = d.endpoint then
    match d.hungUp.receive .connection with
    | (some .drops, d) => (.error .lost, d)
    | (some (.refuses code), d) => (.error (.sqlError code), d)
    | (_, d) => (.ok (), { d with isConnected := true })
  else (.error .unreachable, d)

def run (s : Statement) : Call Refusal ScriptedDatabase s.Answer := fun d =>
  if d.isConnected then
    match d.receive (.statement s) with
    | (some .drops, d) => (.error .lost, d.hungUp)
    | (some (.refuses code), d) => (.error (.sqlError code), d)
    | (some .empties, d) => (.ok s.noRows, d)
    | (none, d) =>
      let (result, d) := d.answer s
      (Outcome.ofExcept result, d)
  else (.error .lost, d)

/-- The database as its client sees it. -/
def database : Database ScriptedDatabase := ⟨connect, (!·.isConnected), hungUp, run⟩

end ScriptedDatabase

end CatalogSync
