import CatalogSync.Proofs.Order
import Mathlib.Data.List.Basic
import Mathlib.Order.Basic

/-!
# Pages of a scan

A page is cut from what comes after the last row that was handed out, however often the scan had to
be started again. Pages of ordered rows, put end to end, leave out nothing but further copies of
the rows that they end with.
-/

namespace CatalogSync

namespace ChangeRow

/-- The rows that were not handed out when the last one was. -/
def after (last : Option ChangeRow) (rows : List ChangeRow) : List ChangeRow :=
  rows.filter (!·.isHandedOut last)

/-- What is not behind the last row that was handed out was handed out, too. -/
theorem isHandedOut_some {last r : ChangeRow} : r.isHandedOut (some last) = true ↔ r ≤ last := by
  simp [isHandedOut, le_iff]

@[simp] theorem isHandedOut_none {r : ChangeRow} : r.isHandedOut none = false := rfl

@[simp] theorem after_none (rows : List ChangeRow) : after none rows = rows := by
  simp [after]

@[simp] theorem after_nil (last : Option ChangeRow) : after last [] = [] := rfl

@[simp] theorem after_append (last : Option ChangeRow) (a b : List ChangeRow) :
    after last (a ++ b) = after last a ++ after last b := List.filter_append ..

theorem after_sublist (last : Option ChangeRow) (rows : List ChangeRow) :
    (after last rows).Sublist rows := List.filter_sublist

/-- What is left to hand out is behind that row. -/
theorem mem_after_some {last r : ChangeRow} {rows : List ChangeRow} :
    r ∈ after (some last) rows ↔ r ∈ rows ∧ last < r := by
  rw [after, List.mem_filter, Bool.not_eq_true', ← Bool.not_eq_true, isHandedOut_some, not_le]

/-- What was handed out stays so. -/
theorem after_after {last later : ChangeRow} (h : last ≤ later) (rows : List ChangeRow) :
    after (some later) (after (some last) rows) = after (some later) rows := by
  rw [after, after, List.filter_filter]
  refine List.filter_congr fun r _ => ?_
  rw [Bool.and_eq_left_iff_imp, Bool.not_eq_true', Bool.not_eq_true', ← Bool.not_eq_true,
    ← Bool.not_eq_true, isHandedOut_some, isHandedOut_some]
  exact fun hlater hlast => hlater (hlast.trans h)

/-- Nothing of ordered rows comes after their last one. -/
theorem after_getLast? {rows : List ChangeRow} (hsorted : rows.Pairwise (· ≤ ·)) {last : ChangeRow}
    (hlast : rows.getLast? = some last) : after (some last) rows = [] := by
  obtain ⟨front, rfl⟩ := List.getLast?_eq_some_iff.1 hlast
  refine List.filter_eq_nil_iff.2 fun r hr => ?_
  rw [Bool.not_eq_true', Bool.not_eq_false, isHandedOut_some]
  rcases List.mem_append.1 hr with hfront | hr
  · exact (List.pairwise_append.1 hsorted).2.2 r hfront last (List.mem_singleton_self last)
  · exact (List.mem_singleton.1 hr).le

/-- What comes after the last of ordered rows comes after all of them. -/
theorem after_getLast?_eq_filter {handed : List ChangeRow} (hsorted : handed.Pairwise (· ≤ ·))
    (rows : List ChangeRow) :
    after handed.getLast? rows = rows.filter fun row => ∀ r ∈ handed, r < row := by
  rcases hlast : handed.getLast? with _ | last
  · simp [List.getLast?_eq_none_iff.1 hlast]
  · refine List.filter_congr fun row _ => ?_
    rw [Bool.eq_iff_iff, Bool.not_eq_true', ← Bool.not_eq_true, isHandedOut_some, not_le,
      decide_eq_true_iff]
    constructor
    · intro hlt r hr
      have hnone := List.filter_eq_nil_iff.1 (after_getLast? hsorted hlast) r hr
      rw [Bool.not_eq_true', Bool.not_eq_false, isHandedOut_some] at hnone
      exact hnone.trans_lt hlt
    · exact fun hall => hall last (List.mem_of_getLast? hlast)

/-- Ordered rows are those that were handed out, followed by those that were not. -/
theorem handedOut_append_after {rows : List ChangeRow} (hsorted : rows.Pairwise (· ≤ ·))
    (last : ChangeRow) :
    rows.filter (·.isHandedOut (some last)) ++ after (some last) rows = rows := by
  induction rows with
  | nil => rfl
  | cons r rest ih =>
    obtain ⟨hfirst, hrest⟩ := List.pairwise_cons.1 hsorted
    by_cases hr : r.isHandedOut (some last)
    · have hafter : after (some last) (r :: rest) = after (some last) rest :=
        List.filter_cons_of_neg (by simpa using hr)
      rw [List.filter_cons_of_pos hr, hafter, List.cons_append, ih hrest]
    · have hnone : ∀ r' ∈ r :: rest, ¬r'.isHandedOut (some last) = true := by
        intro r' hr' hhanded
        rw [isHandedOut_some] at hr hhanded
        rcases List.mem_cons.1 hr' with rfl | hr'
        · exact hr hhanded
        · exact hr ((hfirst r' hr').trans hhanded)
      rw [List.filter_eq_nil_iff.2 hnone, List.nil_append, after, List.filter_eq_self]
      simpa using hnone

/-- What comes after a page comes after what is left behind it. -/
theorem after_page {rows page left : List ChangeRow} (hsorted : rows.Pairwise (· ≤ ·))
    {last : Option ChangeRow} (h : after last rows = page ++ after last left) :
    after (page.getLast?.or last) rows = after (page.getLast?.or last) left := by
  rcases hpage : page.getLast? with _ | later
  · rw [List.getLast?_eq_none_iff.1 hpage, List.nil_append] at h
    exact h
  · have hsub : page.Sublist rows :=
      (h ▸ List.sublist_append_left ..).trans (after_sublist last rows)
    have hnone := after_getLast? (hsorted.sublist hsub) hpage
    have hcut : after (some later) (after last rows) = after (some later) (after last left) := by
      rw [h, after_append, hnone, List.nil_append]
    cases last with
    | none => simpa using hcut
    | some last =>
      have hlater : later ∈ after (some last) rows := by
        rw [h]
        exact List.mem_append_left _ (List.mem_of_getLast? hpage)
      have hle := (mem_after_some.1 hlater).2.le
      simpa only [Option.some_or, after_after hle] using hcut

end ChangeRow

open ChangeRow

/-- Pages that are handed out one after the other, each cut to some size from what comes after the
pages before it. -/
inductive IsPaged (rows : List ChangeRow) : List (List ChangeRow) → Prop
  | nil : IsPaged rows []
  | snoc {pages : List (List ChangeRow)} (h : IsPaged rows pages) (size : Nat) :
    IsPaged rows (pages ++ [(after pages.flatten.getLast? rows).take size])

namespace IsPaged

variable {rows : List ChangeRow} {pages : List (List ChangeRow)}

/-- What comes after a page is its last row again or comes after that. -/
theorem eq_or_mem_after {rows page left : List ChangeRow} (hsorted : rows.Pairwise (· ≤ ·))
    {last : Option ChangeRow} {later : ChangeRow} (h : after last rows = page ++ left)
    (hlater : page.getLast? = some later) {r : ChangeRow} (hr : r ∈ left) :
    r = later ∨ r ∈ after (some later) rows := by
  have hpage : (page ++ left).Pairwise (· ≤ ·) := h ▸ hsorted.sublist (after_sublist last rows)
  have hmem : r ∈ after last rows := h ▸ List.mem_append_right _ hr
  rcases ((List.pairwise_append.1 hpage).2.2 _ (List.mem_of_getLast? hlater) _ hr).eq_or_lt
    with heq | hlt
  · exact .inl heq.symm
  · exact .inr (mem_after_some.2 ⟨List.mem_of_mem_filter hmem, hlt⟩)

/-- What was not handed out comes after all that was. -/
theorem mem_flatten_or_mem_after (h : IsPaged rows pages) (hsorted : rows.Pairwise (· ≤ ·))
    {r : ChangeRow} (hr : r ∈ rows) :
    r ∈ pages.flatten ∨ r ∈ after pages.flatten.getLast? rows := by
  induction h with
  | nil => exact .inr (by simpa using hr)
  | @snoc pages h size ih =>
    rw [List.flatten_concat, List.getLast?_append, List.mem_append]
    rcases ih with hhanded | hafter
    · exact .inl (.inl hhanded)
    · have hcut := (List.take_append_drop size (after pages.flatten.getLast? rows)).symm
      rcases hpage : ((after pages.flatten.getLast? rows).take size).getLast? with _ | later
      · exact .inr hafter
      · rw [hcut, List.mem_append] at hafter
        rcases hafter with hmem | hmem
        · exact .inl (.inr hmem)
        · rcases eq_or_mem_after hsorted hcut hpage hmem with rfl | hmem
          · exact .inl (.inr (List.mem_of_getLast? hpage))
          · exact .inr hmem

/-- The pages put end to end are rows in their order, none more often than it is there. -/
theorem flatten_sublist (h : IsPaged rows pages) (hsorted : rows.Pairwise (· ≤ ·)) :
    pages.flatten.Sublist rows := by
  induction h with
  | nil => exact List.nil_sublist _
  | @snoc pages h size ih =>
    rw [List.flatten_concat]
    have hpage := List.take_sublist size (after pages.flatten.getLast? rows)
    rcases hlast : pages.flatten.getLast? with _ | last
    · rw [List.getLast?_eq_none_iff.1 hlast, List.nil_append]
      exact (List.take_sublist ..).trans (after_sublist ..)
    · have hfront : pages.flatten.Sublist (rows.filter (·.isHandedOut (some last))) := by
        have hall : pages.flatten.filter (·.isHandedOut (some last)) = pages.flatten := by
          have hnone := List.filter_eq_nil_iff.1 (after_getLast? (hsorted.sublist ih) hlast)
          exact List.filter_eq_self.2 fun r hr => by simpa using hnone r hr
        exact hall ▸ ih.filter _
      rw [hlast] at hpage
      have hboth := hfront.append hpage
      rwa [handedOut_append_after hsorted] at hboth

/-- A row that no page ends with is handed out as often as it is there, or not yet. -/
theorem count_flatten (h : IsPaged rows pages) (hsorted : rows.Pairwise (· ≤ ·)) {r : ChangeRow}
    (hr : r ∈ pages.flatten) (hends : ∀ page ∈ pages, page.getLast? ≠ some r) :
    pages.flatten.count r = rows.count r := by
  induction h with
  | nil => simp at hr
  | @snoc pages h size ih =>
    have hcount := ((h.snoc size).flatten_sublist hsorted).count_le r
    rw [List.flatten_concat, List.count_append] at hcount ⊢
    rw [List.flatten_concat, List.mem_append] at hr
    by_cases hhanded : r ∈ pages.flatten
    · have hall := ih hhanded fun page hpage => hends page (List.mem_append_left _ hpage)
      omega
    · have hmem := hr.resolve_left hhanded
      have hcut := (List.take_append_drop size (after pages.flatten.getLast? rows)).symm
      obtain ⟨later, hlater⟩ := Option.ne_none_iff_exists'.1
        (mt List.getLast?_eq_none_iff.1 (List.ne_nil_of_mem hmem))
      have hne : r ≠ later := by
        rintro rfl
        exact hends _ (List.mem_append_right _ (List.mem_singleton_self _)) hlater
      have hle : r ≤ later := by
        have hsub := (List.take_sublist size _).trans (after_sublist pages.flatten.getLast? rows)
        have hnone := List.filter_eq_nil_iff.1 (after_getLast? (hsorted.sublist hsub) hlater)
        exact isHandedOut_some.1 (by simpa using hnone r hmem)
      have hleft : r ∉ (after pages.flatten.getLast? rows).drop size := fun hdrop => by
        rcases eq_or_mem_after hsorted hcut hlater hdrop with heq | hafter
        · exact hne heq
        · exact (mem_after_some.1 hafter).2.not_ge hle
      have hafter : (after pages.flatten.getLast? rows).count r = rows.count r :=
        List.count_filter (List.mem_filter.1 (List.mem_of_mem_take hmem)).2
      rw [hcut, List.count_append, List.count_eq_zero.2 hleft] at hafter
      rw [List.count_eq_zero.2 hhanded]
      omega

end IsPaged

namespace PageFill

/-- A page that is being filled from what a cursor has left: the two together are what comes after
the page before. -/
structure IsFilling (rows left : List ChangeRow) (p : PageFill) : Prop where
  split : after p.last rows = p.rows ++ after p.last left
  bound : p.rows.length ≤ p.size
  drained : p.isDrained = true → left = []

variable {p : PageFill} {rows left : List ChangeRow}

/-- A page that is begun anew fills up with what is behind the last row. -/
theorem isFilling_start {size : Nat} {last : Option ChangeRow}
    (h : after last left = after last rows) : (start size last).IsFilling rows left where
  split := by rw [start, List.nil_append, h]
  bound := Nat.zero_le _
  drained h := by cases h

/-- A page that is full or whose cursor is drained is the one that is due. -/
theorem IsFilling.rows_eq (h : p.IsFilling rows left) (hwant : p.want? = none) :
    p.rows = (after p.last rows).take p.size := by
  rw [h.split]
  by_cases hdrained : p.isDrained
  · rw [h.drained hdrained, after_nil, List.append_nil, List.take_of_length_le h.bound]
  · have hfull : p.size ≤ p.rows.length := by simpa [want?, hdrained] using hwant
    rw [List.take_append_of_le_length hfull, List.take_of_length_le h.bound]

/-- What is wanted is as much as the page lacks. -/
theorem want?_eq_some {want : Nat} (h : p.want? = some want) :
    p.isDrained = false ∧ 0 < want ∧ want = p.size - p.rows.length := by
  unfold want? at h
  split at h
  · cases h
  · next hnot =>
    cases h
    simp only [Bool.or_eq_true, decide_eq_true_eq, not_or, not_le] at hnot
    exact ⟨by simpa using hnot.1, by omega, rfl⟩

/-- A page takes what was wanted. -/
theorem IsFilling.take (h : p.IsFilling rows left) {want : Nat} (hwant : p.want? = some want) :
    (p.take want (left.take want)).IsFilling rows (left.drop want) := by
  obtain ⟨hdrained, -, hlack⟩ := want?_eq_some hwant
  refine ⟨?_, ?_, fun hshort => ?_⟩
  · change after p.last rows =
      (p.rows ++ after p.last (left.take want)) ++ after p.last (left.drop want)
    rw [List.append_assoc, ← after_append, List.take_append_drop, h.split]
  · change (p.rows ++ after p.last (left.take want)).length ≤ p.size
    have hsub := (after_sublist p.last (left.take want)).length_le
    have hbound := h.bound
    rw [List.length_append]
    rw [List.length_take] at hsub
    omega
  · have hlt : (left.take want).length < want := by simpa [PageFill.take, hdrained] using hshort
    rw [List.length_take] at hlt
    exact List.drop_eq_nil_of_le (by omega)

end PageFill

end CatalogSync
