/-!
# Pass reports

What one pass did, in numbers.
-/

namespace CatalogSync

/-- What a pass did. -/
structure PassReport where
  /-- Records that the workers yielded. -/
  extracted : Nat
  /-- Documents that the index accepted. -/
  loaded : Nat
  /-- Batches that were written. -/
  batches : Nat
  /-- Streams whose cursor was committed. -/
  streamsCommitted : Nat
  deriving DecidableEq, Repr

namespace PassReport

def zero : PassReport := ⟨0, 0, 0, 0⟩

instance : Inhabited PassReport := ⟨zero⟩

protected def add (a b : PassReport) : PassReport :=
  ⟨a.extracted + b.extracted, a.loaded + b.loaded, a.batches + b.batches,
    a.streamsCommitted + b.streamsCommitted⟩

instance : Add PassReport := ⟨PassReport.add⟩

theorem add_eq (a b : PassReport) : a + b =
    ⟨a.extracted + b.extracted, a.loaded + b.loaded, a.batches + b.batches,
      a.streamsCommitted + b.streamsCommitted⟩ := rfl

theorem zero_add (report : PassReport) : zero + report = report := by
  simp only [add_eq, zero, Nat.zero_add]

theorem add_assoc (a b c : PassReport) : a + b + c = a + (b + c) := by
  simp only [add_eq, Nat.add_assoc]

/-- Whether anything was written or committed. -/
def hasUpdates (r : PassReport) : Bool := 0 < r.loaded || 0 < r.streamsCommitted

/-- A report tells of nothing new unless documents were loaded or cursors committed. -/
theorem hasUpdates_eq_false {r : PassReport} :
    r.hasUpdates = false ↔ r.loaded = 0 ∧ r.streamsCommitted = 0 := by
  simp [hasUpdates]

end PassReport

end CatalogSync
