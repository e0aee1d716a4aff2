import CatalogSync.Source.PageFill
import Mathlib.Order.Lattice

/-!
# The orders of a catalog

Days, timestamps, cursors and rows are compared part by part. Each of these comparisons is that of
a linear order, so that what is known of linear orders is known of them.
-/

namespace CatalogSync

theorem compare_swap {α : Type} [Ord α] [Std.TransOrd α] (a b : α) :
    compare b a = (compare a b).swap :=
  Std.OrientedCmp.eq_swap

/-- The linear order whose comparison is given. -/
@[reducible] def linearOrderOfOrd (α : Type) [Ord α] [Std.TransOrd α] [Std.LawfulEqOrd α]
    [DecidableEq α] : LinearOrder α where
  le a b := (compare a b).isLE
  lt a b := compare a b = .lt
  le_refl _ := Std.ReflCmp.isLE_rfl
  le_trans _ _ _ := Std.TransCmp.isLE_trans
  lt_iff_le_not_ge a b := by
    rw [compare_swap a b]
    cases compare a b <;> simp
  le_antisymm a b hab hba := by
    rw [compare_swap a b] at hba
    refine Std.compare_eq_iff_eq.1 ?_
    cases h : compare a b <;> simp_all
  le_total a b := by
    rw [compare_swap a b]
    cases compare a b <;> simp
  toDecidableLE a b := inferInstanceAs (Decidable ((compare a b).isLE = true))
  toDecidableEq := inferInstance
  toDecidableLT a b := inferInstanceAs (Decidable (compare a b = .lt))
  toOrd := inferInstance
  compare_eq_compareOfLessAndEq a b := by
    by_cases hlt : compare a b = .lt
    · exact hlt.trans (if_pos hlt).symm
    by_cases heq : a = b
    · exact (Std.compare_eq_iff_eq.2 heq).trans ((if_pos heq).symm.trans (if_neg hlt).symm)
    · have hgt : compare a b = .gt := by
        cases h : compare a b with
        | lt => exact absurd h hlt
        | eq => exact absurd (Std.compare_eq_iff_eq.1 h) heq
        | gt => rfl
      exact hgt.trans ((if_neg heq).symm.trans (if_neg hlt).symm)

theorem eq_of_then_eq {a b : Ordering} (h : a.then b = .eq) : a = .eq ∧ b = .eq := by
  cases a <;> simp_all [Ordering.then]

namespace Date

instance : Std.TransOrd Date :=
  inferInstanceAs (Std.TransCmp (compareLex (compareOn year)
    (compareLex (compareOn month) (compareOn day))))

instance : Std.LawfulEqOrd Date where
  eq_of_compare {a b} h := by
    obtain ⟨hyear, h⟩ := eq_of_then_eq h
    obtain ⟨hmonth, hday⟩ := eq_of_then_eq h
    cases a
    cases b
    simp_all

end Date

namespace Timestamp

instance : Std.TransOrd Timestamp :=
  inferInstanceAs (Std.TransCmp (compareLex (compareOn date)
    (compareLex (compareOn second) (compareOn nano))))

instance : Std.LawfulEqOrd Timestamp where
  eq_of_compare {a b} h := by
    obtain ⟨hdate, h⟩ := eq_of_then_eq h
    obtain ⟨hsecond, hnano⟩ := eq_of_then_eq h
    have hdate := Std.compare_eq_iff_eq.1 hdate
    cases a
    cases b
    simp_all

instance : LinearOrder Timestamp := linearOrderOfOrd Timestamp

end Timestamp

namespace Cursor

theorem compareIds_eq_compare (a b : Option String) : compareIds a b = compare a b := by
  cases a <;> cases b <;> rfl

theorem compare_eq (a b : Cursor) :
    compare a b = (compare a.timestamp b.timestamp).then (compare a.id b.id) := by
  rw [← compareIds_eq_compare]
  rfl

instance : Std.TransOrd Cursor := by
  have h : (compare : Cursor → Cursor → Ordering) =
      compareLex (compareOn timestamp) (compareOn id) := by
    funext a b
    exact compare_eq a b
  unfold Std.TransOrd
  rw [h]
  infer_instance

instance : Std.LawfulEqOrd Cursor where
  eq_of_compare {a b} h := by
    rw [compare_eq] at h
    obtain ⟨htimestamp, hid⟩ := eq_of_then_eq h
    have htimestamp := Std.compare_eq_iff_eq.1 htimestamp
    have hid := Std.compare_eq_iff_eq.1 hid
    cases a
    cases b
    simp_all

instance : LinearOrder Cursor := linearOrderOfOrd Cursor

/-- Cursors are ordered by timestamp and then by id. -/
theorem lt_iff (a b : Cursor) :
    a < b ↔ a.timestamp < b.timestamp ∨ a.timestamp = b.timestamp ∧ compare a.id b.id = .lt := by
  change compare a b = .lt ↔ compare a.timestamp b.timestamp = .lt ∨ _
  rw [compare_eq]
  cases h : compare a.timestamp b.timestamp with
  | lt => simp
  | eq => simp [Std.compare_eq_iff_eq.1 h]
  | gt =>
    have hne : a.timestamp ≠ b.timestamp := by
      intro heq
      rw [Std.compare_eq_iff_eq.2 heq] at h
      cases h
    simp [hne]

/-- A cursor is nowhere before its timestamp. -/
theorem timestamp_le {a b : Cursor} (h : a ≤ b) : a.timestamp ≤ b.timestamp := by
  rcases h.lt_or_eq with h | rfl
  · rcases (lt_iff a b).1 h with h | ⟨h, _⟩
    · exact h.le
    · exact h.le
  · exact le_refl _

/-- A row that is stamped anew stays ahead. -/
theorem lt_ofRow_of_le {a : Cursor} {t u : Timestamp} {id : String} (h : a < ofRow t id)
    (htu : t ≤ u) : a < ofRow u id := by
  rcases htu.lt_or_eq with hlt | rfl
  · exact h.trans ((lt_iff ..).2 (.inl hlt))
  · exact h

/-- The initial cursor stands before every row from the first timestamp on. -/
theorem initial_lt_ofRow {t : Timestamp} (ht : Timestamp.first ≤ t) (id : String) :
    initial < ofRow t id := by
  rw [lt_iff]
  rcases ht.lt_or_eq with h | h
  · exact .inl h
  · exact .inr ⟨h, rfl⟩

end Cursor

namespace ChangeRow

instance : Std.TransCmp order :=
  inferInstanceAs (Std.TransCmp (compareLex (compareOn timestamp)
    (compareLex (compareOn id) (compareOn rootId))))

instance : Ord ChangeRow := ⟨order⟩

instance : Std.TransOrd ChangeRow := inferInstanceAs (Std.TransCmp order)

instance : Std.LawfulEqOrd ChangeRow where
  eq_of_compare {a b} h := by
    obtain ⟨htimestamp, h⟩ := eq_of_then_eq h
    obtain ⟨hid, hrootId⟩ := eq_of_then_eq h
    have htimestamp := Std.compare_eq_iff_eq.1 htimestamp
    cases a
    cases b
    simp_all

/-- Rows are ordered as a scan lists them. -/
instance : LinearOrder ChangeRow := linearOrderOfOrd ChangeRow

theorem le_iff (a b : ChangeRow) : a ≤ b ↔ a.order b ≠ .gt := Ordering.isLE_iff_ne_gt

/-- A row is nowhere before its timestamp. -/
theorem timestamp_le {a b : ChangeRow} (h : a ≤ b) : a.timestamp ≤ b.timestamp := by
  refine Ordering.isLE_iff_ne_gt.2 fun hgt => (le_iff a b).1 h ?_
  rw [order, hgt]
  rfl

/-- The cursors of a scan do not go back. -/
theorem cursor_le {a b : ChangeRow} (h : a.order b ≠ .gt) : a.cursor ≤ b.cursor := by
  change (compare a.cursor b.cursor).isLE = true
  rw [Cursor.compare_eq]
  have hids : compare a.cursor.id b.cursor.id = compare a.id b.id := rfl
  have htimestamps : compare a.cursor.timestamp b.cursor.timestamp =
    compare a.timestamp b.timestamp := rfl
  rw [hids, htimestamps]
  rw [order] at h
  cases hstamp : compare a.timestamp b.timestamp with
  | lt => rfl
  | gt =>
    rw [hstamp] at h
    exact absurd rfl h
  | eq =>
    rw [hstamp] at h
    cases hid : compare a.id b.id with
    | lt => rfl
    | eq => rfl
    | gt =>
      rw [hid] at h
      exact absurd rfl h

instance : IsTrans ChangeRow fun a b => a.order b ≠ .gt where
  trans _ _ _ hab hbc := Ordering.isLE_iff_ne_gt.1 <| Std.TransCmp.isLE_trans
    (Ordering.isLE_iff_ne_gt.2 hab) (Ordering.isLE_iff_ne_gt.2 hbc)

instance : Std.Total fun a b : ChangeRow => a.order b ≠ .gt where
  total a b := by
    have hswap : order b a = (order a b).swap := Std.OrientedCmp.eq_swap
    rw [hswap]
    cases order a b <;> simp

end ChangeRow

end CatalogSync
