import CatalogSync.Proofs.Session.Transcript

/-!
# The small steps of a client

A client is aligned with the transcript when its scan is the one that was asked for, and backed by
it when a scan that counts as declared is declared in the session, so that whatever ties the world
to the one that the declaration left still does. Statements that only read keep all this; a lost
connection keeps the first, and giving it up restores the second.
-/

namespace CatalogSync

open Transcript

variable {ω : Type}

/-- Something ties the world that a declaration leaves to every later one, as long as the session
is only read from. -/
structure Database.Sustains (db : Database ω) (ties : ω → ω → Prop) : Prop where
  declares : ∀ selection start root w w',
    db.run (.declare selection start root) w = (.ok (), w') → ties w' w'
  reads : ∀ s, s.Reads → ∀ left w a w', ties left w → db.run s w = (.ok a, w') → ties left w'
  /-- A refusal that leaves the connection also leaves the session. -/
  refuses : ∀ s, s.Reads → ∀ left w e w', ties left w → db.run s w = (.error e, w') →
    e.isLoss = false → ties left w'
  /-- What cannot be connected to leaves the session as it was. -/
  unreached : ∀ endpoint left w e w', ties left w → db.connect endpoint w = (.error e, w') →
    ties left w'

/-- Every session sustains what says nothing. -/
theorem Database.sustains_true (db : Database ω) : db.Sustains fun _ _ => True where
  declares _ _ _ _ _ _ := trivial
  reads _ _ _ _ _ _ _ _ := trivial
  refuses _ _ _ _ _ _ _ _ _ := trivial
  unreached _ _ _ _ _ _ _ := trivial

@[simp] theorem OpenScan.undeclared_undeclared (scan : OpenScan) :
    scan.undeclared.undeclared = scan.undeclared := rfl

namespace Transcript

variable {t : Transcript ω}

/-- No statement changes what scan was asked for. -/
@[simp] theorem openScan?_sent {s : Statement} {o : Outcome Refusal Unit} {left : ω} :
    openScan? (.sent s o left :: t) = openScan? t := rfl

/-- No new connection changes what scan was asked for. -/
@[simp] theorem openScan?_connected : openScan? (.connected :: t) = openScan? t := rfl

/-- A statement that reads leaves the session what it is. -/
theorem sessionUse_reads {s : Statement} (hs : s.Reads) {left : ω} :
    sessionUse (.sent s (.ok ()) left :: t) = sessionUse t := by
  cases hs <;> rfl

/-- So does one that is refused over a connection that stays. -/
theorem sessionUse_refused {s : Statement} (hs : s.Reads) {e : Refusal} (he : e.isLoss = false)
    {left : ω} : sessionUse (.sent s (.error e) left :: t) = sessionUse t := by
  cases hs <;> simp [sessionUse, SessionUse.after, SessionUse.afterSent, he]

end Transcript

namespace Session

/-- The session after a statement was sent. -/
def sent (s : Session (Transcribed ω)) (st : Statement) (o : Outcome Refusal Unit) (w : ω) :
    Session (Transcribed ω) :=
  { s with world := ⟨w, .sent st o w :: s.world.lines⟩ }

/-- The session after something was written down. -/
def noted (s : Session (Transcribed ω)) (e : Exchange ω) : Session (Transcribed ω) :=
  { s with world := s.world.note e }

/-- The client's scan is the one that the transcript has, which goes on from some past. -/
structure Aligned (past : Transcript ω) (scan : Option OpenScan) (s : Session (Transcribed ω)) :
    Prop where
  orderly : IsOrderly s.world.lines
  goesOn : past <:+ s.world.lines
  asked : openScan? s.world.lines = scan
  held : s.client.scan.map OpenScan.undeclared = scan

/-- A scan that counts as declared is declared in the session. -/
def Backed (ties : ω → ω → Prop) (s : Session (Transcribed ω)) : Prop :=
  ∀ scan ∈ s.client.scan, scan.isDeclared = true → s.client.hasConnection = true ∧
    ∃ left, sessionUse s.world.lines = .scan left ∧ ties left s.world.world

/-- The client is aligned with the transcript and backed by it. -/
structure Tied (past : Transcript ω) (ties : ω → ω → Prop) (scan : Option OpenScan)
    (s : Session (Transcribed ω)) : Prop extends Aligned past scan s where
  backed : Backed ties s

/-- How calls fail: the client is aligned, and backed if the connection stays, and the error is
excused or was met by fetching over a connection that was just made. -/
def Fails (past : Transcript ω) (ties : ω → ω → Prop) (excused : SourceError → Prop)
    (scan : Option OpenScan) : Option SourceError → Session (Transcribed ω) → Prop
  | none, s => IsOrderly s.world.lines
  | some e, s => Aligned past scan s ∧ (e.isTransient = false → Backed ties s) ∧
    (excused e ∨ isBare s.world.lines)

variable {past : Transcript ω} {ties : ω → ω → Prop} {excused : SourceError → Prop}
  {scan : Option OpenScan} {s : Session (Transcribed ω)} {db : Database ω}

@[simp] theorem sent_client {st : Statement} {o : Outcome Refusal Unit} {w : ω} :
    (s.sent st o w).client = s.client := rfl

@[simp] theorem sent_lines {st : Statement} {o : Outcome Refusal Unit} {w : ω} :
    (s.sent st o w).world.lines = .sent st o w :: s.world.lines := rfl

@[simp] theorem sent_world {st : Statement} {o : Outcome Refusal Unit} {w : ω} :
    (s.sent st o w).world.world = w := rfl

/-- The client holds a scan if there is one that was asked for. -/
theorem Aligned.holds_iff (h : Aligned past scan s) : s.client.scan ≠ none ↔ scan ≠ none := by
  rw [← h.held, ne_eq, ne_eq, Option.map_eq_none_iff]

/-- A statement that the transcript admits keeps the client aligned. -/
theorem Aligned.sent (h : Aligned past scan s) {st : Statement} {o : Outcome Refusal Unit} {w : ω}
    (hadmits : Admits s.world.lines (.sent st o w)) : Aligned past scan (s.sent st o w) where
  orderly := isOrderly_cons.2 ⟨hadmits, h.orderly⟩
  goesOn := h.goesOn.trans (List.suffix_cons _ _)
  asked := h.asked
  held := h.held

/-- Transactions may be begun and ended, and cursors closed, at any time. -/
theorem Aligned.controls (h : Aligned past scan s) {st : Statement} (hst : st.Controls)
    (o : Outcome Refusal Unit) (w : ω) : Aligned past scan (s.sent st o w) :=
  h.sent (by cases hst <;> trivial)

/-- A statement that reads keeps the session. -/
theorem Tied.reads (h : Tied past ties scan s) (hdb : db.Sustains ties) {st : Statement}
    (hst : st.Reads) {a : st.Answer} {w : ω} (hrun : db.run st s.world.world = (.ok a, w))
    (hadmits : Admits s.world.lines (.sent st (.ok ()) w)) :
    Tied past ties scan (s.sent st (.ok ()) w) where
  toAligned := h.toAligned.sent hadmits
  backed := by
    intro held hheld hdeclared
    obtain ⟨hconnection, left, huse, hties⟩ := h.backed held hheld hdeclared
    refine ⟨hconnection, left, ?_, hdb.reads st hst left _ a w hties hrun⟩
    rw [sent_lines, sessionUse_reads hst, huse]

/-- One that is refused keeps it as far as the connection stays. -/
theorem Tied.fails (h : Tied past ties scan s) (hdb : db.Sustains ties) {st : Statement}
    (hst : st.Reads) {e : Refusal} {w : ω} (hrun : db.run st s.world.world = (.error e, w))
    (hadmits : Admits s.world.lines (.sent st (.error e) w))
    (hexcused : excused e.toSourceError ∨ isBare (.sent st (.error e) w :: s.world.lines)) :
    Fails past ties excused scan (some e.toSourceError) (s.sent st (.error e) w) := by
  refine ⟨h.toAligned.sent hadmits, fun hloss => ?_, hexcused⟩
  intro held hheld hdeclared
  obtain ⟨hconnection, left, huse, hties⟩ := h.backed held hheld hdeclared
  refine ⟨hconnection, left, ?_, hdb.refuses st hst left _ e w hties hrun hloss⟩
  rw [sent_lines, sessionUse_refused hst hloss, huse]

/-- A question that leaves the scan as it is leaves the client tied. -/
theorem Tied.after_asked (h : Tied past ties scan s) {c : SourceCall}
    (hasked : openScan? (.asked c :: s.world.lines) = openScan? s.world.lines)
    (huse : sessionUse (.asked c :: s.world.lines) = sessionUse s.world.lines) :
    Tied past ties scan (s.noted (.asked c)) where
  orderly := h.orderly.asked c
  goesOn := h.goesOn.trans (List.suffix_cons _ _)
  asked := hasked.trans h.asked
  held := h.held
  backed := by
    intro held hheld hdeclared
    obtain ⟨hconnection, left, hscan, hties⟩ := h.backed held hheld hdeclared
    exact ⟨hconnection, left, huse.trans hscan, hties⟩

/-- The page that is handed out is the one that the client's scan now stands behind. -/
theorem Tied.handed (h : Tied past ties scan s) (page : List ChangeRow) :
    Tied past ties (scan.map (·.handing page))
      (noted { s with client := { s.client with scan := s.client.scan.map (·.handing page) } }
        (.handed page)) where
  orderly := isOrderly_cons.2 ⟨trivial, h.orderly⟩
  goesOn := h.goesOn.trans (List.suffix_cons _ _)
  asked := by
    rw [← h.asked]
    rfl
  held := by
    rw [← h.held, Option.map_map]
    exact Option.map_map _ _ _
  backed := by
    intro held hheld hdeclared
    obtain ⟨before, hbefore, rfl⟩ := Option.map_eq_some_iff.1 hheld
    exact h.backed before hbefore hdeclared

/-- No scan counts as declared over a new connection, or over none. -/
theorem reconnected_isDeclared {c : DatabaseClient} {hasConnection : Bool} {held : OpenScan}
    (h : held ∈ (c.reconnected hasConnection).scan) : held.isDeclared = false := by
  obtain ⟨scan, -, rfl⟩ := Option.map_eq_some_iff.1 h
  rfl

/-- A new connection leaves the scan but for its declaration. -/
theorem reconnected_undeclared (c : DatabaseClient) (hasConnection : Bool) :
    (c.reconnected hasConnection).scan.map OpenScan.undeclared =
      c.scan.map OpenScan.undeclared := by
  rw [DatabaseClient.reconnected, Option.map_map]
  rfl

/-- Giving up the connection leaves nothing that would have to be backed. -/
theorem Aligned.dropConnection (h : Aligned past scan s) :
    Tied past ties scan (RelationalSource.dropConnection db.transcribed s) where
  orderly := h.orderly
  goesOn := h.goesOn
  asked := h.asked
  held := (reconnected_undeclared s.client false).trans h.held
  backed := by
    intro held hheld hdeclared
    rw [reconnected_isDeclared hheld] at hdeclared
    cases hdeclared

/-- So does a new connection. -/
theorem Aligned.connected (h : Aligned past scan s) (w : ω) :
    Tied past ties scan ⟨s.client.reconnected true, ⟨w, .connected :: s.world.lines⟩⟩ where
  orderly := isOrderly_cons.2 ⟨trivial, h.orderly⟩
  goesOn := h.goesOn.trans (List.suffix_cons _ _)
  asked := h.asked
  held := (reconnected_undeclared s.client true).trans h.held
  backed := by
    intro held hheld hdeclared
    rw [reconnected_isDeclared hheld] at hdeclared
    cases hdeclared

end Session

end CatalogSync
