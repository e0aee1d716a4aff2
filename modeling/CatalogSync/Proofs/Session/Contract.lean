import CatalogSync.Proofs.Catalog.Tables
import CatalogSync.Proofs.Session.Attempts

/-!
# What a client may rely on

A database reads snapshots if whatever a session reads beside a declared cursor comes from the
snapshot of the cursor. It only loses connections if nothing else ever goes wrong than that, except
for fetches where no cursor is declared. Both are said of the session that was last connected to,
which keeps its cursor even when the connection is lost.
-/

namespace CatalogSync

open Transcript

variable {φ ω : Type}

/-- A database that reads the snapshot of the cursor that is declared, if there is one. -/
structure Database.ReadsSnapshots (db : Database ω) (snapshot : ω → Option Catalog) : Prop where
  declare : ∀ selection start root w w', db.run (.declare selection start root) w = (.ok (), w') →
    ∃ c, snapshot w' = some c
  read : ∀ s, s.Reads → ∀ c w a w', snapshot w = some c → db.run s w = (.ok a, w') →
    snapshot w' = some c
  refuse : ∀ s, s.Reads → ∀ c w e w', snapshot w = some c → db.run s w = (.error e, w') →
    e.isLoss = false → snapshot w' = some c
  connect : ∀ endpoint c w e w', snapshot w = some c → db.connect endpoint w = (.error e, w') →
    snapshot w' = some c
  probe : ∀ entity c w rows w', snapshot w = some c → db.run (.probe entity) w = (.ok rows, w') →
    ∃ greatest, latestCursor rows = .ok greatest ∧ c.IsGreatest entity greatest

/-- A session is tied to the declaration of its cursor as long as both have one snapshot. -/
theorem Database.ReadsSnapshots.sustains {db : Database ω} {snapshot : ω → Option Catalog}
    (h : db.ReadsSnapshots snapshot) :
    db.Sustains fun left w => ∃ c, snapshot left = some c ∧ snapshot w = some c where
  declares selection start root w w' hrun := by
    obtain ⟨c, hc⟩ := h.declare selection start root w w' hrun
    exact ⟨c, hc, hc⟩
  reads s hs left w a w' := by
    rintro ⟨c, hleft, hw⟩ hrun
    exact ⟨c, hleft, h.read s hs c w a w' hw hrun⟩
  refuses s hs left w e w' := by
    rintro ⟨c, hleft, hw⟩ hrun hloss
    exact ⟨c, hleft, h.refuse s hs c w e w' hw hrun hloss⟩
  unreached endpoint left w e w' := by
    rintro ⟨c, hleft, hw⟩ hconnect
    exact ⟨c, hleft, h.connect endpoint c w e w' hw hconnect⟩

/-- A database that is there but for lost connections, and refuses to fetch where no cursor is
declared. -/
structure Database.OnlyLoses (db : Database ω) (hasCursor : ω → Prop) : Prop where
  declare : ∀ selection start root w w', db.run (.declare selection start root) w = (.ok (), w') →
    hasCursor w'
  read : ∀ s, s.Reads → ∀ w a w', hasCursor w → db.run s w = (.ok a, w') → hasCursor w'
  refuse : ∀ s w e w', db.run s w = (.error e, w') →
    e.isLoss = true ∨ (∃ count, s = .fetch count) ∧ ¬hasCursor w
  connect : ∀ endpoint w e w', db.connect endpoint w = (.error e, w') →
    e.isLoss = true ∧ (hasCursor w → hasCursor w')
  /-- No row lacks a value. -/
  fetch : ∀ count w rows w', db.run (.fetch count) w = (.ok rows, w') →
    ∃ page, List.mapM ScanRow.changeRow rows = .ok page

namespace Database.OnlyLoses

variable {db : Database ω} {hasCursor : ω → Prop}

/-- A session is tied to the declaration of its cursor as long as the cursor is there. -/
theorem sustains (h : db.OnlyLoses hasCursor) : db.Sustains fun _ w => hasCursor w where
  declares := h.declare
  reads s hs _ w a w' := h.read s hs w a w'
  refuses s _ _ w e w' hw hrun hloss := by
    rcases h.refuse s w e w' hrun with hlost | ⟨-, hnone⟩
    · rw [hloss] at hlost
      cases hlost
    · exact absurd hw hnone
  unreached endpoint _ w e w' hw hconnect := (h.connect endpoint w e w' hconnect).2 hw

/-- What fetching meets at an address that can be read is a lost connection. -/
theorem excuses (h : db.OnlyLoses hasCursor) {r : RelationalSource φ}
    (haddress : ∃ endpoints, DatabaseAddress.resolve r.address = .ok endpoints) :
    r.Excuses db (fun _ w => hasCursor w) fun e => e.isTransient = true where
  connecting e hcannot := by
    cases hcannot with
    | address hfault =>
      obtain ⟨endpoints, hendpoints⟩ := haddress
      cases hendpoints.symm.trans hfault
    | unreachable => rfl
    | refused hconnect => exact (h.connect _ _ _ _ hconnect).1
  refusing s w e w' hrun :=
    (h.refuse s w e w' hrun).imp_right fun ⟨hfetch, hnone⟩ => ⟨hfetch, fun _ => hnone⟩
  reading count w rows w' e hrun herror := by
    obtain ⟨page, hpage⟩ := h.fetch count w rows w' hrun
    cases hpage.symm.trans herror

end Database.OnlyLoses

end CatalogSync
