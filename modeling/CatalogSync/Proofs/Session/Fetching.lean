import CatalogSync.Proofs.Session.Server

/-!
# Fetching from a declared cursor

Rows are to be fetched where the cursor of the open scan is declared. After a lost connection it is
to be declared again from the last row that was handed out, so that a loss never ends in an error
that stays. The source looks at the scan before it looks at its connection. If it finds the
connection closed, it has already made up its mind that nothing is to be declared, and fetches over
a new connection, which has no cursor. In every other case rows are fetched where they should be.
-/

namespace CatalogSync

open Transcript

variable {φ ω : Type} [Growth φ]

namespace RelationalSource

/-- A fetch is sent in the transaction in which the cursor of the open scan is declared, exactly if
its session was not connected to for the sake of that fetch, and a cursor is declared from where the
scan stands. If the database only loses connections and all fetches are sent where they should be,
fetching fails only in passing, after the last attempt. -/
theorem fetches_where_declared (r : RelationalSource φ) (db : Database ω) (allowance : Nat) {w : ω}
    {s t : Session (Transcribed ω)} (hs : (r.transcribed db allowance).Reaches (.start w) s)
    {c : SourceCall} {o : Outcome SourceError c.Answer}
    (hask : (r.transcribed db allowance).ask c s = (o, t)) :
    (∀ count outcome left before,
      .sent (.fetch count) outcome left :: before <:+ t.world.lines →
      (IsDeclared before ↔ ¬isBare before)) ∧
    (∀ selection start root outcome left before,
      .sent (.declare selection start root) outcome left :: before <:+ t.world.lines →
      sessionUse before = .transaction ∧ ∃ scan, openScan? before = some scan ∧
        declaration scan = .declare selection start root) ∧
    ∀ hasCursor, db.OnlyLoses hasCursor →
      (∃ endpoints, DatabaseAddress.resolve r.address = .ok endpoints) → s.client.scan ≠ none →
      ∀ count e t, (r.transcribed db allowance).ask (.fetch count) s = (.error e, t) →
        e.isTransient = true ∧ r.policy.maxAttempts ≠ none ∨ isBare t.world.lines := by
  have horderly := isOrderly_of_reaches hs hask
  refine ⟨fun _ _ _ before h => ?_, fun _ _ _ _ _ before h => horderly _ before h, ?_⟩
  · refine ⟨fun hdeclared hbare => not_isDeclared_of_isBare hbare hdeclared, fun hbare => ?_⟩
    have hadmits : isBare before ∨ IsDeclared before := horderly _ before h
    exact hadmits.resolve_left hbare
  · intro hasCursor hdb haddress hscan count e t hask
    have htied := tied_of_reaches hdb.sustains hs
    have hopen := htied.holds_iff.1 hscan
    obtain ⟨⟨-, hexcused⟩, hlimit⟩ := (ends_fetch hdb.sustains (hdb.excuses haddress)
      (fun hnone => absurd hnone hopen) count htied).of_error hask
    exact hexcused.imp_left fun htransient => ⟨htransient, hlimit e rfl htransient⟩

end RelationalSource

namespace Server

/-- A catalog with a film and nothing else. -/
def filmAlone : Catalog where
  films := .ofList [("f", ⟨"Up", none, none, none, "movie", .first⟩)]
  named _ := ∅
  links _ := []

/-- A source over the film, with so many attempts to a call. -/
abbrev filmSource (maxAttempts : Option Nat) : Source (Session (Transcribed Server)) :=
  (client maxAttempts).transcribed (database fun _ => filmAlone) 9

/-- A scan of the film table has been opened; the statements to come meet their fates. -/
def filmsOpened (fates : List Fate) : Session (Transcribed Server) :=
  ((filmSource none).ask (.openScan (.root .filmWork) .initial none) (.start (start [] fates))).2

/-- Opening the scan sends nothing, so no statement meets its fate yet. -/
theorem reaches_filmsOpened (maxAttempts : Option Nat) (fates : List Fate) :
    (filmSource maxAttempts).Reaches (.start (start [] fates)) (filmsOpened fates) := by
  have hask : (filmSource maxAttempts).ask (.openScan (.root .filmWork) .initial none)
      (.start (start [] fates)) = (.ok (), filmsOpened fates) := rfl
  exact .answered .start hask

/-- The first fetch is lost. -/
def firstLost : Outcome SourceError (List ChangeRow) × Session (Transcribed Server) :=
  (filmSource none).ask (.fetch 1) (filmsOpened [.answered, .answered, .dropped])

/-- The first fetch is lost, and there is no other attempt. -/
def onlyLost : Outcome SourceError (List ChangeRow) × Session (Transcribed Server) :=
  (filmSource (some 1)).ask (.fetch 1) (filmsOpened [.answered, .answered, .dropped])

/-- After a loss the page comes from a cursor that was declared again. Where no attempt is left, the
loss is the error. -/
theorem declared_after_loss :
    (∃ t, firstLost = (.ok [⟨"f", .first, "f"⟩], t) ∧ IsDeclared t.world.lines.tail.tail) ∧
    ∃ e t, onlyLost = (.error e, t) ∧ e.isTransient = true ∧
      (client (some 1)).policy.maxAttempts ≠ none := by
  constructor
  · have hpage : firstLost.1 = .ok [⟨"f", .first, "f"⟩] := by decide +kernel
    have hfetch : firstLost.2.world.lines.tail.head?.bind Exchange.statement? =
        some (.fetch 1) := by decide +kernel
    have hbare : ¬isBare firstLost.2.world.lines.tail.tail := by decide +kernel
    rcases hask : firstLost with ⟨o, t⟩
    rw [hask] at hpage hfetch hbare
    cases hpage
    obtain ⟨hfetches, -⟩ := (client none).fetches_where_declared (database fun _ => filmAlone) 9
      (reaches_filmsOpened none _) hask
    have hbefore : IsDeclared t.world.lines.tail.tail ↔ ¬isBare t.world.lines.tail.tail :=
      before_of_statement? (P := fun before => IsDeclared before ↔ ¬isBare before)
        (fun outcome left before h => hfetches 1 outcome left before (h.trans (List.tail_suffix _)))
        hfetch
    exact ⟨t, rfl, hbefore.2 hbare⟩
  · have hfails : onlyLost.1 = .error (.connection "connection closed") := by decide +kernel
    have hbare : ¬isBare onlyLost.2.world.lines := by decide +kernel
    rcases hask : onlyLost with ⟨o, t⟩
    rw [hask] at hfails hbare
    cases hfails
    obtain ⟨-, -, hloses⟩ := (client (some 1)).fetches_where_declared
      (database fun _ => filmAlone) 9 (reaches_filmsOpened (some 1) _) hask
    exact ⟨_, t, rfl, (hloses _ onlyLoses_database ⟨_, rfl⟩ (by decide +kernel) 1 _ t hask)
      |>.resolve_right hbare⟩

/-- The connection is closed when the first page has been handed out. -/
def lostBetween : Outcome SourceError (List ChangeRow) × Session (Transcribed Server) :=
  (filmSource none).ask (.fetch 1) (filmsOpened [.answered, .answered, .last])

/-- The page after that. -/
def afterLoss : Outcome SourceError (List ChangeRow) × Session (Transcribed Server) :=
  (filmSource none).ask (.fetch 1) lostBetween.2

/-- The second page is fetched over a new connection, without a declaration, which ends in an error
that stays. -/
theorem not_declared_after_loss :
    (filmSource none).Reaches (.start (start [] [.answered, .answered, .last])) lostBetween.2 ∧
      lostBetween.2.client.scan ≠ none ∧ afterLoss.1 = .error (.query "db error") ∧
      afterLoss.2.world.lines.head?.bind Exchange.statement? = some (.fetch 1) ∧
      ¬IsDeclared afterLoss.2.world.lines.tail := by
  have hpage : lostBetween.1 = .ok [⟨"f", .first, "f"⟩] := by decide +kernel
  have hreaches : (filmSource none).Reaches (.start (start [] [.answered, .answered, .last]))
      lostBetween.2 := by
    rcases hask : lostBetween with ⟨o, t⟩
    rw [hask] at hpage
    cases hpage
    exact (reaches_filmsOpened none _).answered hask
  refine ⟨hreaches, ?_, ?_, ?_, ?_⟩ <;> decide +kernel

end Server

end CatalogSync
