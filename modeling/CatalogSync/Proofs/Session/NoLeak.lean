import CatalogSync.Proofs.Pass.Closing
import CatalogSync.Proofs.Session.Releasing
import CatalogSync.Script.Database

/-!
# No transaction is leaked

After any questions to a source in a database, whatever became of their statements and connections,
no transaction was begun inside another and no cursor was declared beside another. Closing a scan
and opening one leave no transaction, and neither does a pass that is over. A server that refuses
statements by its session and by a list of faults shows a transaction that is aborted halfway.
-/

namespace CatalogSync

/-- The source was asked such questions as a part of the world. -/
theorem Source.asked_within {ω σ : Type} {source : Source σ} {get : ω → σ} {set : σ → ω → ω}
    (hset : ∀ s w, get (set s w) = s) (c : SourceCall) (w : ω) :
    source.Asked (fun _ => True) (get w) (get ((source.within get set).ask c w).2) :=
  ⟨c, trivial, (hset _ w).symm⟩

namespace RelationalSource

variable {φ ω : Type} [Growth φ]

/-- The source with every statement written down. -/
abbrev watched (r : RelationalSource φ) (db : Database ω) (state : ω → SessionState)
    (allowance : Nat) : Source (Session (Watched ω)) := r.source (db.watched state) allowance

/-- Begin with a client that was asked for nothing and has no session, and ask for anything, any
number of times. Every statement was sent properly. Closing a scan then succeeds and releases
everything; opening one leaves no transaction and no scan but the new one, or fails and releases
everything. A pass is nothing but more questions, and when it is over, everything is released,
unless it has no worker and was over before it began. -/
theorem releases_transactions (r : RelationalSource φ) {db : Database ω} {state : ω → SessionState}
    (hdb : db.Transacts state) (allowance : Nat) {w : ω} (hw : state w = .gone)
    {s : Session (Watched ω)}
    (hs : (r.watched db state allowance).Asks (fun _ => True) (.unasked w) s) :
    (∀ x ∈ s.world.sendings, x.IsProper) ∧
    (∃ t, (r.watched db state allowance).ask .closeScan s = (.ok (), t) ∧
      t.IsReleased state) ∧
    (∀ selection start root,
      ((r.watched db state allowance).ask (.openScan selection start root)).Ends
        (fun _ t => ¬(state t.world.world).HasTransaction ∧ t.client.scan =
          some ⟨selection, start.timestamp, root.map Cursor.timestamp, none, false⟩)
        (fun e t => e ≠ none ∧ t.IsReleased state) s) ∧
    ∀ (Ω ρ : Type) (get : Ω → Session (Watched ω)) (set : Session (Watched ω) → Ω → Ω)
      (p : Pipeline Ω ρ) (store : Store Ω) (steps : Nat) (b : Book Ω),
      (∀ t v, get (set t v) = t) → p.Spares store get → get b.world = s →
      (p.execute ((r.watched db state allowance).within get set) store steps).Ends
        (fun _ b' =>
          (r.watched db state allowance).Asks (fun _ => True) (.unasked w) (get b'.world) ∧
          ((get b'.world).IsReleased state ∨ p.workers = [] ∧ b' = b))
        (fun e b' =>
          (r.watched db state allowance).Asks (fun _ => True) (.unasked w) (get b'.world) ∧
          (e ≠ none → (get b'.world).IsReleased state)) b := by
  have htidy {t : Session (Watched ω)}
      (ht : (r.watched db state allowance).Asks (fun _ => True) (.unasked w) t) :
      t.IsTidy state := hdb.isTidy_of_asks ht (Session.isTidy_unasked hw)
  refine ⟨(htidy hs).sendings, ?_, fun selection start root => ?_, ?_⟩
  · obtain ⟨⟨⟩, t, hclose, -, ht⟩ := (hdb.ends_closeScan (htidy hs)).exists_ok
    exact ⟨t, hclose, ht⟩
  · exact (hdb.ends_openScan (htidy hs)).mono (fun _ _ ht => ht.2) fun _ _ ht => ⟨ht.1, ht.2.2⟩
  · rintro Ω ρ get set p store steps b hset hspares rfl
    have hcloses : p.Closes ((r.watched db state allowance).within get set) store
        (fun v => (r.watched db state allowance).Asks (fun _ => True) (.unasked w) (get v))
        (fun v => (get v).IsReleased state) := by
      refine ⟨fun c v hv => hv.tail (Source.asked_within hset c v), fun v hv => ?_,
        hspares.keeps _, hspares.keeps _⟩
      obtain ⟨⟨⟩, t, hclose, -, ht⟩ := (hdb.ends_closeScan (htidy hv)).exists_ok
      have hleft : get (((r.watched db state allowance).within get set).ask .closeScan v).2 =
          (closeScan (db.watched state) (get v)).2 := hset _ v
      rw [hleft, hclose]
      exact ht
    exact hcloses.ends_execute hs

end RelationalSource

/-- A server that keeps nothing but its session; some of the statements to come have faults. -/
structure FaultyServer where
  session : SessionState
  faults : List (Option Refusal)

namespace FaultyServer

/-- A server that nobody is connected to. -/
def start (faults : List (Option Refusal)) : FaultyServer := ⟨.gone, faults⟩

/-- Why the session refuses a statement, if it does. -/
def refusal? : SessionState → Statement → Option Refusal
  | .gone, _ => some .lost
  | .idle, .declare .. => some (.sqlError "25P01")
  | .idle, .fetch _ => some (.sqlError "34000")
  | .idle, .close => some (.sqlError "34000")
  | .idle, _ => none
  | .inTransaction .., .commit => none
  | .inTransaction .., .rollback => none
  | .inTransaction _ true, _ => some (.sqlError "25P02")
  | .inTransaction .., _ => none

def run (s : Statement) : Call Refusal FaultyServer s.Answer := fun w =>
  match w.faults.headD none <|> refusal? w.session s with
  | none => (.ok s.noRows, ⟨w.session.after s true, w.faults.tail⟩)
  | some .lost => (.error .lost, ⟨.gone, w.faults.tail⟩)
  | some e => (.error e, ⟨w.session.after s false, w.faults.tail⟩)

/-- The server as its client sees it. -/
def database : Database FaultyServer where
  connect _ w := (.ok (), { w with session := .idle })
  isClosed w := w.session = .gone
  disconnect w := { w with session := .gone }
  run := run

/-- The server keeps to what its answers promise of a session. -/
theorem transacts_database : database.Transacts session where
  connects _ _ _ h := by
    cases h
    exact .inl rfl
  unreached _ _ _ _ h := by cases h
  disconnects _ := rfl
  closed _ h := of_decide_eq_true h
  answered s w a w' h := by
    simp only [database, run] at h
    split at h <;> cases h
    exact .inl rfl
  refused s w e w' h := by
    simp only [database, run] at h
    split at h <;> cases h
    · exact .inr rfl
    · exact .inl rfl
  ends s w w' h := by
    simp only [database, run] at h
    split at h <;> cases h
  connectEnds _ _ _ h := by cases h

/-- A client of the server. -/
def client : RelationalSource Float := ⟨"host=db", ⟨0, 2, 0, none⟩⟩

abbrev filmSource : Source (Session (Watched FaultyServer)) := client.watched database session 9

/-- Films are to be fetched. The first fetch fails inside its transaction, and so does the second
declaration. -/
def filmsUnasked : Session (Watched FaultyServer) :=
  .unasked (start
    [none, none, some (.sqlError "57014"), none, none, none, some (.sqlError "42P01")])

/-- The first fetch has failed. -/
def halfway : Session (Watched FaultyServer) :=
  (filmSource.ask (.fetch 1)
    (filmSource.ask (.openScan (.root .filmWork) .initial none) filmsUnasked).2).2

/-- A pass that was given up in the middle of a scan has put questions to the source, no more. -/
theorem asks_halfway : filmSource.Asks (fun _ => True) filmsUnasked halfway :=
  .tail (.single ⟨_, trivial, rfl⟩) ⟨_, trivial, rfl⟩

/-- A pipeline over films that would load nothing. -/
def films : Pipeline (Session (Watched FaultyServer)) Json where
  name := "movies"
  aggregate := .filmWork
  workers := [.root "film_work" .filmWork]
  decode := .json
  transform _ := .error (.transform "")
  loader := ⟨"movies", 1, fun w => (.ok (), w), fun _ w => (.ok ⟨0, 0⟩, w)⟩
  pageSize := 1

/-- A store that keeps nothing. -/
def noStore : Store (Session (Watched FaultyServer)) :=
  ⟨fun _ => .ok .empty, fun _ w => (.ok (), w)⟩

/-- The pass that follows finds the aborted transaction, and fails itself. -/
def pass : Outcome PipelineError PassReport × Book (Session (Watched FaultyServer)) :=
  films.execute (filmSource.within id fun s _ => s) noStore 9 ⟨.empty, halfway⟩

/-- A scan is left open with an aborted transaction, and then released by a close, or by a pass that
fails over it. -/
theorem releases_aborted :
    (halfway.world.world.session = .inTransaction 1 true ∧
      halfway.client.scan.any OpenScan.isDeclared = true) ∧
    (∃ t, filmSource.ask .closeScan halfway = (.ok (), t) ∧ t.IsReleased session) ∧
    pass.1 = .error (.source (.query "db error")) ∧ pass.2.world.IsReleased session := by
  obtain ⟨-, hclose, -, hpass⟩ :=
    client.releases_transactions transacts_database 9 rfl asks_halfway
  have hends := hpass _ Json id (fun s _ => s) films noStore 9 ⟨.empty, halfway⟩ (fun _ _ => rfl)
    ⟨fun _ _ => rfl, fun _ _ => rfl⟩ rfl
  have herror : pass.1 = .error (.source (.query "db error")) := by decide +kernel
  refine ⟨by decide +kernel, hclose, herror, ?_⟩
  have hrun : pass = (.error (.source (.query "db error")), pass.2) := Prod.ext herror rfl
  exact (hends.of_error hrun).2 (Option.some_ne_none _)

end FaultyServer

end CatalogSync
