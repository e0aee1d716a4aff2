import CatalogSync.Proofs.Session.Contract
import CatalogSync.Proofs.Sync.Replica

/-!
# A database that keeps its promises

A server answers from the tables themselves: a cursor is the sorted list of the rows that they hold
for it when it is declared, and a probe reads the tables as they were then. Its catalog goes through
given states, and every statement meets its fate.
-/

namespace CatalogSync

/-- What becomes of the connection when a statement comes. -/
inductive Fate where
  | answered
  /-- The connection is lost without an answer. -/
  | dropped
  /-- The connection is lost after the answer. -/
  | last
  deriving DecidableEq

/-- A database server with one client. -/
structure Server where
  /-- The state that the catalog is in. -/
  moment : Nat
  /-- How far the catalog has moved on by each statement to come. -/
  moves : List Nat
  fates : List Fate
  isConnected : Bool
  /-- The snapshot of the declared cursor, and the rows left in it. -/
  cursor : Option (Catalog × List ChangeRow)

namespace Server

/-- A server that nobody is connected to. -/
def start (moves : List Nat) (fates : List Fate) : Server := ⟨0, moves, fates, false, none⟩

/-- The server as the next statement finds it. -/
def next (w : Server) : Server :=
  { w with
    moment := w.moment + w.moves.headD 0
    moves := w.moves.tail
    fates := w.fates.tail }

/-- The server with or without its connection. -/
def connectedIf (w : Server) (isConnected : Bool) : Server := { w with isConnected }

variable (states : Nat → Catalog)

/-- The tables that are read: those of the snapshot, or else the present ones. -/
def tables (w : Server) : Catalog :=
  match w.cursor with
  | some (snapshot, _) => snapshot
  | none => states w.moment

/-- The row as it is sent. -/
def sentRow (row : ChangeRow) : ScanRow := ⟨some row.rootId, some row.timestamp, some row.id⟩

def sentLatest (greatest : Cursor) : LatestRow := ⟨some greatest.timestamp, greatest.id⟩

/-- What the tables answer. -/
def answer : (s : Statement) → Server → Except Refusal s.Answer × Server
  | .ping, w => (.ok [()], w)
  | .beginTransaction, w => (.ok (), w)
  | .declare selection start root, w =>
    let rows := (states w.moment).scanRows selection ⟨start, none⟩ (root.map (⟨·, none⟩))
    (.ok (), { w with cursor := some (states w.moment, rows) })
  | .fetch count, w =>
    match w.cursor with
    | some (snapshot, rows) =>
      (.ok ((rows.take count).map sentRow), { w with cursor := some (snapshot, rows.drop count) })
    | none => (.error (.sqlError "34000"), w)
  | .probe entity, w => (.ok (((w.tables states).greatest? entity).map sentLatest).toList, w)
  | .enrich _ ids, w => (.ok ((ids.filterMap (w.tables states).filmDocument).map some), w)
  | .close, w => (.ok (), { w with cursor := none })
  | .commit, w => (.ok (), { w with cursor := none })
  | .rollback, w => (.ok (), { w with cursor := none })

def run (s : Statement) : Call Refusal Server s.Answer := fun w =>
  if w.isConnected ∧ w.fates.headD .answered ≠ .dropped then
    let (result, w') := answer states s w.next
    (Outcome.ofExcept result, w'.connectedIf (w.fates.headD .answered ≠ .last))
  else (.error .lost, w.next.connectedIf false)

/-- The server as its client sees it. -/
def database : Database Server where
  connect _ w := (.ok (), { w with isConnected := true, cursor := none })
  isClosed w := !w.isConnected
  disconnect w := w.connectedIf false
  run := run states

/-- What a declared cursor reads. -/
def snapshot (w : Server) : Option Catalog := w.cursor.map Prod.fst

/-- What reads leaves the snapshot. -/
theorem answer_snapshot {s : Statement} (hs : s.Reads) (w : Server) :
    (answer states s w).2.snapshot = w.snapshot := by
  cases hs with
  | fetch count =>
    unfold answer
    rcases hcursor : w.cursor with _ | ⟨snapshot, rows⟩ <;> simp [Server.snapshot, hcursor]
  | _ => rfl

/-- Nothing is refused but fetches from nowhere. -/
theorem answer_error {s : Statement} {w w' : Server} {e : Refusal}
    (h : answer states s w = (.error e, w')) : (∃ count, s = .fetch count) ∧ w.cursor = none := by
  cases s with
  | fetch count =>
    refine ⟨⟨count, rfl⟩, ?_⟩
    unfold answer at h
    rcases hcursor : w.cursor with _ | ⟨snapshot, rows⟩ <;> simp_all
  | _ => cases h

variable {states}

/-- A statement is answered as the tables answer it. -/
theorem run_eq_ok {s : Statement} {w w' : Server} {a : s.Answer}
    (h : run states s w = (.ok a, w')) :
    ∃ v, answer states s w.next = (.ok a, v) ∧ v.cursor = w'.cursor := by
  unfold run at h
  split at h
  · rcases hanswer : answer states s w.next with ⟨_ | a', v⟩ <;>
      simp only [hanswer, Outcome.ofExcept] at h <;> cases h
    exact ⟨v, rfl, rfl⟩
  · cases h

/-- It is refused as they refuse it, or lost. -/
theorem run_eq_error {s : Statement} {w w' : Server} {e : Refusal}
    (h : run states s w = (.error e, w')) :
    e = .lost ∨ (∃ count, s = .fetch count) ∧ w.cursor = none := by
  unfold run at h
  split at h
  · rcases hanswer : answer states s w.next with ⟨e' | _, v⟩ <;>
      simp only [hanswer, Outcome.ofExcept] at h <;> cases h
    exact .inr (answer_error states hanswer : _ ∧ w.next.cursor = none)
  · cases h
    exact .inl rfl

/-- The greatest row is read as it was sent. -/
theorem latestCursor_sentLatest {c : Catalog} {entity : Entity} :
    latestCursor ((c.greatest? entity).map sentLatest).toList = .ok (c.greatest? entity) := by
  have hgreatest := c.isGreatest_greatest? entity
  rcases h : c.greatest? entity with _ | g
  · rfl
  · rw [h] at hgreatest
    obtain ⟨⟨t, id, -, rfl⟩, -⟩ := hgreatest
    rfl

/-- The server reads beside a cursor what it read for the cursor. -/
theorem readsSnapshots_database : (database states).ReadsSnapshots snapshot where
  declare selection start root w w' h := by
    obtain ⟨v, hanswer, hcursor⟩ := run_eq_ok h
    cases hanswer
    exact ⟨_, congrArg (Option.map Prod.fst) hcursor.symm⟩
  read s hs c w a w' hw h := by
    obtain ⟨v, hanswer, hcursor⟩ := run_eq_ok h
    have hkept := answer_snapshot states hs w.next
    rw [hanswer] at hkept
    rw [snapshot, ← hcursor]
    exact hkept.trans hw
  refuse s hs c w e w' hw h hloss := by
    rcases run_eq_error h with rfl | ⟨-, hnone⟩
    · cases hloss
    · rw [snapshot, hnone] at hw
      cases hw
  connect _ _ _ _ _ _ h := by cases h
  probe entity c w rows w' hw h := by
    obtain ⟨v, hanswer, -⟩ := run_eq_ok h
    cases hanswer
    have htables : w.next.tables states = c := by
      obtain ⟨⟨snapshot, rows⟩, hcursor, rfl⟩ := Option.map_eq_some_iff.1 hw
      have hnext : w.next.cursor = some (snapshot, rows) := hcursor
      simp only [tables, hnext]
    rw [htables]
    exact ⟨_, latestCursor_sentLatest, c.isGreatest_greatest? entity⟩

/-- Rows are read as they were sent. -/
theorem changeRow_sentRow (rows : List ChangeRow) :
    List.mapM ScanRow.changeRow (rows.map sentRow) = .ok rows := by
  induction rows with
  | nil => rfl
  | cons row rest ih => simp [List.mapM_cons, ih, sentRow, ScanRow.changeRow]; rfl

/-- Nothing goes wrong with the server but lost connections and fetches from nowhere. -/
theorem onlyLoses_database : (database states).OnlyLoses fun w => w.cursor.isSome = true where
  declare selection start root w w' h := by
    obtain ⟨v, hanswer, hcursor⟩ := run_eq_ok h
    cases hanswer
    rw [← hcursor]
    rfl
  read s hs w a w' hw h := by
    obtain ⟨v, hanswer, hcursor⟩ := run_eq_ok h
    have hkept := answer_snapshot states hs w.next
    rw [hanswer] at hkept
    have hsome := congrArg Option.isSome hkept
    simp only [snapshot, Option.isSome_map] at hsome
    rw [← hcursor, hsome]
    exact hw
  refuse s w e w' h := by
    refine (run_eq_error h).imp ?_ ?_
    · rintro rfl
      rfl
    · rintro ⟨hfetch, hnone⟩
      exact ⟨hfetch, by simp [hnone]⟩
  connect _ _ _ _ h := by cases h
  fetch count w rows w' h := by
    have hrun : run states (.fetch count) w = (.ok rows, w') := h
    obtain ⟨v, hanswer, -⟩ := run_eq_ok hrun
    unfold answer at hanswer
    rcases hcursor : w.next.cursor with _ | ⟨snapshot, left⟩ <;>
      simp only [hcursor] at hanswer <;> cases hanswer
    exact ⟨_, changeRow_sentRow _⟩

/-- A client of the server, with so many attempts. -/
def client (maxAttempts : Option Nat) : RelationalSource Float :=
  ⟨"host=db", ⟨0, 2, 0, maxAttempts⟩⟩

/-- A second of the first minute, counted around. -/
def secondOf (n : Nat) : Timestamp where
  date := Timestamp.first.date
  second := n % 60
  nano := 0
  second_lt := by omega
  nano_lt := .inl (by decide)

end Server

end CatalogSync
