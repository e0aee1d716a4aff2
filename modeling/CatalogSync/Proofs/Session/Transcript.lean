import CatalogSync.Proofs.Call.Ends
import CatalogSync.Source.Relational

/-!
# Transcripts

What a source in a database is asked, what it hands out, and what passes between its client and the
database, line by line. The lines tell what the session in use is good for and where the open scan
stands; nothing else about the database is assumed.
-/

namespace CatalogSync

/-- Whether the connection is gone, or as good as gone, after the refusal. -/
def Refusal.isLoss (e : Refusal) : Bool := e.toSourceError.isTransient

namespace Statement

/-- The statement begins or ends a transaction or a cursor. -/
inductive Controls : Statement → Prop
  | beginTransaction : Controls beginTransaction
  | close : Controls close
  | commit : Controls commit
  | rollback : Controls rollback

/-- The statement reads within whatever transaction there is. -/
inductive Reads : Statement → Prop
  | ping : Reads ping
  | fetch (count : Nat) : Reads (fetch count)
  | probe (entity : Entity) : Reads (probe entity)
  | enrich (aggregate : Aggregate) (ids : List String) : Reads (enrich aggregate ids)

end Statement

namespace OpenScan

/-- The scan with no cursor declared for it. -/
def undeclared (scan : OpenScan) : OpenScan := { scan with isDeclared := false }

/-- The scan after a page was handed out. -/
def handing (scan : OpenScan) (page : List ChangeRow) : OpenScan :=
  { scan with last := page.getLast? <|> scan.last }

end OpenScan

/-- A line of a transcript. -/
inductive Exchange (ω : Type) where
  /-- The source is asked. -/
  | asked (c : SourceCall)
  /-- The source hands out a page. -/
  | handed (page : List ChangeRow)
  /-- The client makes a connection. -/
  | connected
  /-- The client sends a statement, which leaves a world behind. -/
  | sent (s : Statement) (outcome : Outcome Refusal Unit) (left : ω)

/-- The statement that was sent, if the line is one. -/
def Exchange.statement? {ω : Type} : Exchange ω → Option Statement
  | .sent s _ _ => some s
  | _ => none

/-- The lines of a transcript, the last one first. -/
abbrev Transcript (ω : Type) := List (Exchange ω)

/-- What a session is good for. -/
inductive SessionUse (ω : Type) where
  | nothing
  /-- A transaction was begun. -/
  | transaction
  /-- The cursor of the open scan was declared in the transaction, which left a world behind. -/
  | scan (left : ω)

variable {ω : Type}

namespace SessionUse

/-- The use of a session after a statement. A cursor counts only in the transaction that was begun
for it, and goes with the cursor, the transaction or the connection. -/
def afterSent (u : SessionUse ω) (left : ω) : Statement → Outcome Refusal Unit → SessionUse ω
  | .close, _ => nothing
  | .commit, _ => nothing
  | .rollback, _ => nothing
  | .beginTransaction, .ok _ => transaction
  | .declare .., .ok _ =>
    match u with
    | transaction => scan left
    | _ => nothing
  | _, .error e => if e.isLoss then nothing else u
  | _, _ => u

/-- The use of a session after a line. What was declared for an earlier scan is of no use to the
next one. -/
def after (u : SessionUse ω) : Exchange ω → SessionUse ω
  | .asked (.openScan ..) => nothing
  | .asked .closeScan => nothing
  | .asked _ => u
  | .handed _ => u
  | .connected => nothing
  | .sent s outcome left => u.afterSent left s outcome

end SessionUse

namespace Transcript

/-- What the session in use is good for. -/
def sessionUse : Transcript ω → SessionUse ω
  | [] => .nothing
  | e :: t => (sessionUse t).after e

/-- The scan that was asked for and not closed since, with the last row that was handed out. -/
def openScan? : Transcript ω → Option OpenScan
  | [] => none
  | .asked (.openScan selection start root) :: _ =>
    if Query.hasScan selection then
      some ⟨selection, start.timestamp, root.map Cursor.timestamp, none, false⟩
    else none
  | .asked .closeScan :: _ => none
  | .handed page :: t => (openScan? t).map (·.handing page)
  | _ :: t => openScan? t

/-- The cursor of the open scan is declared in the session. -/
def IsDeclared (t : Transcript ω) : Prop := ∃ left, sessionUse t = .scan left

instance (t : Transcript ω) : Decidable (IsDeclared t) :=
  match h : sessionUse t with
  | .scan left => isTrue ⟨left, h⟩
  | .nothing => isFalse (by simp [IsDeclared, h])
  | .transaction => isFalse (by simp [IsDeclared, h])

/-- The session is as new as the connection but for fetches: the client was found closed when the
first of them was due. -/
def isBare : Transcript ω → Bool
  | .connected :: _ => true
  | .sent (.fetch _) _ _ :: t => isBare t
  | _ => false

/-- The session of a new connection has no cursor. -/
theorem not_isDeclared_of_isBare {t : Transcript ω} (h : isBare t) : ¬IsDeclared t := by
  suffices sessionUse t = .nothing by simp [IsDeclared, this]
  induction t with
  | nil => cases h
  | cons e t ih =>
    cases e with
    | connected => rfl
    | sent s outcome left =>
      cases s with
      | fetch count =>
        rw [sessionUse, ih h]
        rcases outcome with _ | e | _
        · rfl
        · simp [SessionUse.after, SessionUse.afterSent]
        · rfl
      | _ => cases h
    | _ => cases h

/-- The line may be written after the others: a scan is declared in its own transaction from where
it stands, and rows and latest rows are asked for where it is declared. -/
def Admits (t : Transcript ω) : Exchange ω → Prop
  | .sent (.declare selection start root) _ _ => sessionUse t = .transaction ∧
    ∃ scan, openScan? t = some scan ∧
      RelationalSource.declaration scan = .declare selection start root
  | .sent (.fetch _) _ _ => isBare t ∨ IsDeclared t
  | .sent (.probe _) _ _ => openScan? t = none ∨ isBare t ∨ IsDeclared t
  | _ => True

/-- What holds before every sending of a statement holds before the last line, if it is one. -/
theorem before_of_statement? {t : Transcript ω} {s : Statement} {P : Transcript ω → Prop}
    (hall : ∀ outcome left before, .sent s outcome left :: before <:+ t → P before)
    (hlast : t.head?.bind Exchange.statement? = some s) : P t.tail := by
  rcases t with _ | ⟨_ | _ | _ | ⟨s', outcome, left⟩, t⟩ <;> cases hlast
  exact hall outcome left t (List.suffix_refl _)

/-- Every line was admitted by those before it. -/
def IsOrderly (t : Transcript ω) : Prop :=
  ∀ e before, e :: before <:+ t → Admits before e

/-- A transcript without lines is in order. -/
theorem isOrderly_nil : IsOrderly ([] : Transcript ω) := by
  intro e before h
  cases List.suffix_nil.1 h

/-- A transcript is in order if its last line was admitted and the others are in order. -/
theorem isOrderly_cons {e : Exchange ω} {t : Transcript ω} :
    IsOrderly (e :: t) ↔ Admits t e ∧ IsOrderly t := by
  constructor
  · intro h
    exact ⟨h e t (List.suffix_refl _), fun e' before h' => h e' before (h'.trans (t.suffix_cons e))⟩
  · rintro ⟨he, ht⟩ e' before h
    rcases List.suffix_cons_iff.1 h with h | h
    · obtain ⟨rfl, rfl⟩ := List.cons.inj h
      exact he
    · exact ht e' before h

/-- Anything may be asked at any time. -/
theorem IsOrderly.asked {t : Transcript ω} (h : IsOrderly t) (c : SourceCall) :
    IsOrderly (.asked c :: t) := isOrderly_cons.2 ⟨trivial, h⟩

end Transcript

/-- A world and the transcript of what happened in it. -/
structure Transcribed (ω : Type) where
  world : ω
  lines : Transcript ω

namespace Transcribed

def note (e : Exchange ω) (w : Transcribed ω) : Transcribed ω := { w with lines := e :: w.lines }

end Transcribed

/-- The database with everything written down that passes between it and its client. -/
def Database.transcribed (db : Database ω) : Database (Transcribed ω) where
  connect e w :=
    match db.connect e w.world with
    | (.ok _, world) => (.ok (), ⟨world, .connected :: w.lines⟩)
    | (failed, world) => (failed, { w with world })
  isClosed w := db.isClosed w.world
  disconnect w := { w with world := db.disconnect w.world }
  run s w :=
    let (outcome, world) := db.run s w.world
    (outcome, ⟨world, .sent s (outcome.map fun _ => ()) world :: w.lines⟩)

namespace RelationalSource

variable {φ : Type} [Growth φ] (r : RelationalSource φ) (db : Database ω)

/-- Write down a line. -/
def note (e : Exchange ω) : Call SourceError (Session (Transcribed ω)) Unit := fun s =>
  (.ok (), { s with world := s.world.note e })

/-- The source with everything written down. -/
def transcribed (allowance : Nat) : Source (Session (Transcribed ω)) where
  ask
    | .fetch count => do
      note (.asked (.fetch count))
      let page ← (r.source db.transcribed allowance).ask (.fetch count)
      note (.handed page)
      return page
    | c => do
      note (.asked c)
      (r.source db.transcribed allowance).ask c

end RelationalSource

/-- The worlds that calls lead to, one after the other, whatever their answers and errors. -/
inductive Source.Reaches {σ : Type} (source : Source σ) (start : σ) : σ → Prop
  | start : Reaches source start start
  | answered {c : SourceCall} {a : c.Answer} {s t : σ} (h : Reaches source start s)
    (hask : source.ask c s = (.ok a, t)) : Reaches source start t
  | failed {c : SourceCall} {e : SourceError} {s t : σ} (h : Reaches source start s)
    (hask : source.ask c s = (.error e, t)) : Reaches source start t

end CatalogSync
