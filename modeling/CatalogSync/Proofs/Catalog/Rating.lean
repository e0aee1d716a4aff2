import CatalogSync.Load.Batch
import CatalogSync.Proofs.Catalog.Cast
import CatalogSync.Proofs.Decimal.Overflow

/-!
# Ratings that stay numbers

A film is refused for a rating that is not finite, but the rating that its document stores is ten
times as large on the way. Where the product overflows, the film is accepted with an infinite
rating, and JSON has only null for it. So ratings stay numbers up to a tenth of the overflow
(`FilmRecord.ratesInNumbers_iff`), and a greater one is lost (`FilmRecord.transform_overflow`).
-/

namespace CatalogSync

open Decimal

/-- A rating is rounded to a number when ten times as much is below the overflow. -/
theorem isFinite_roundToTenth_iff {x : Float} {b : Binary} (hx : Binary.ofFloat? x = some b) :
    (roundToTenth x).isFinite = true ↔ 10 * b.magnitude < overflow := by
  have hten : Binary.ofFloat? 10 = some ⟨false, 5 * 2 ^ 50, -49⟩ := rfl
  have hmagnitude : Binary.magnitude ⟨false, 5 * 2 ^ 50, -49⟩ = 10 := by norm_num [Binary.magnitude]
  rw [roundToTenth, isFinite_div_ten, isFinite_roundHalfAway, isFinite_mul_iff hx hten, hmagnitude,
    mul_comm]

/-- What is no number is not rounded to one. -/
theorem isFinite_of_isFinite_roundToTenth {x : Float} (h : (roundToTenth x).isFinite = true) :
    x.isFinite = true := by
  rw [roundToTenth, isFinite_div_ten, isFinite_roundHalfAway] at h
  exact isFinite_of_isFinite_mul h

theorem documentRating?_eq_none_iff {rating : Option Float} :
    documentRating? rating = none ↔ ∃ x, rating = some x ∧ x.isFinite = false := by
  cases rating with
  | none => simp [documentRating?]
  | some x => simp [documentRating?]

namespace FilmRecord

/-- A film with an id is refused for its rating alone. -/
theorem transform_error_iff {r : FilmRecord} (hid : ¬ Text.IsBlank r.id) :
    (∃ e, r.transform = .error e) ↔ ∃ x, r.rating = some x ∧ x.isFinite = false := by
  rw [← documentRating?_eq_none_iff, transform, if_neg hid]
  cases documentRating? r.rating with
  | none => exact iff_of_true ⟨_, rfl⟩ rfl
  | some rating =>
    refine iff_of_false ?_ (Option.some_ne_none rating)
    rintro ⟨e, haccepted⟩
    cases haccepted

/-- An accepted film has no rating, which counts as zero, or a finite one, which is rounded. -/
theorem transform_rating {r : FilmRecord} {d : FilmDocument} (h : r.transform = .ok d) :
    (r.rating = none ∧ d.rating = 0) ∨
      ∃ x, r.rating = some x ∧ x.isFinite = true ∧ d.rating = roundToTenth x := by
  unfold transform at h
  split at h
  · cases h
  · split at h
    · cases h
    · next rating hrating =>
      cases h
      cases hx : r.rating with
      | none =>
        rw [hx] at hrating
        exact .inl ⟨rfl, documentRating?_eq_some hrating⟩
      | some x =>
        rw [hx] at hrating
        have hfinite : x.isFinite = true := by
          by_contra hinfinite
          rw [documentRating?, if_neg hinfinite] at hrating
          cases hrating
        exact .inr ⟨x, rfl, hfinite, documentRating?_eq_some hrating⟩

/-- A finite rating is accepted, and is stored rounded. -/
theorem transform_of_isFinite {r : FilmRecord} (hid : ¬ Text.IsBlank r.id) {x : Float}
    (hrating : r.rating = some x) (hx : x.isFinite = true) :
    ∃ d, r.transform = .ok d ∧ d.rating = roundToTenth x := by
  cases htransform : r.transform with
  | error e =>
    obtain ⟨y, hy, hinfinite⟩ := (transform_error_iff hid).1 ⟨e, htransform⟩
    rw [hrating] at hy
    cases hy
    rw [hx] at hinfinite
    cases hinfinite
  | ok d =>
    rcases transform_rating htransform with ⟨hmissing, -⟩ | ⟨y, hy, -, hstored⟩
    · rw [hrating] at hmissing
      cases hmissing
    · rw [hrating] at hy
      cases hy
      exact ⟨d, rfl, hstored⟩

end FilmRecord

namespace FilmDocument

/-- The entry that a buffer makes of the document has this under the name of the rating. -/
def EntryRates (d : FilmDocument) (rating : Json) : Prop :=
  ∀ b : BatchBuffer, ∃ batch b' entry, b.push d.toDocument = (.ok batch, b') ∧
    batch.getD [] ++ b'.pending = b.pending ++ [entry] ∧
    entry.source.member? "imdb_rating" = some rating

theorem entryRates (d : FilmDocument) : d.EntryRates (numberToJson d.rating) := by
  intro b
  cases hpush : b.push d.toDocument with
  | mk result b' =>
    cases result with
    | error e =>
      obtain ⟨detail, hdetail, -⟩ := BatchBuffer.push_eq_error hpush
      cases hdetail
    | ok batch =>
      obtain ⟨source, hsource, hentries⟩ := BatchBuffer.entries_push hpush
      cases hsource
      exact ⟨batch, b', _, rfl, hentries, d.member?_rating⟩

end FilmDocument

namespace FilmRecord

/-- A film is refused when its rounded rating is no number, and otherwise indexed with a number. -/
structure RatesInNumbers (r : FilmRecord) : Prop where
  refused : (∃ e, r.transform = .error e) ↔
    ∃ x, r.rating = some x ∧ (roundToTenth x).isFinite = false
  indexed : ∀ d, r.transform = .ok d →
    d.rating.isFinite = true ∧ ∃ x, x.isFinite = true ∧ d.EntryRates (.float x)

/-- A finite rating that is rounded to an infinity is accepted and lost. -/
theorem transform_lost {r : FilmRecord} (hid : ¬ Text.IsBlank r.id) {x : Float}
    (hrating : r.rating = some x) (hx : x.isFinite = true)
    (hrounded : (roundToTenth x).isFinite = false) :
    ∃ d, r.transform = .ok d ∧ d.rating.isFinite = false ∧ d.EntryRates .null := by
  obtain ⟨d, htransform, hstored⟩ := transform_of_isFinite hid hrating hx
  rw [← hstored] at hrounded
  have hentry := d.entryRates
  rw [FilmDocument.numberToJson, if_neg (by rw [hrounded]; decide)] at hentry
  exact ⟨d, htransform, hrounded, hentry⟩

/-- That happens from a tenth of the overflow on. -/
theorem transform_overflow {r : FilmRecord} (hid : ¬ Text.IsBlank r.id) {x : Float} {b : Binary}
    (hrating : r.rating = some x) (hb : Binary.ofFloat? x = some b)
    (hoverflow : overflow ≤ 10 * b.magnitude) :
    ∃ d, r.transform = .ok d ∧ d.rating.isFinite = false ∧ d.EntryRates .null := by
  have hx : x.isFinite = true := by
    rw [← Binary.isSome_ofFloat?, hb]
    rfl
  refine transform_lost hid hrating hx ?_
  rw [Bool.eq_false_iff, ne_eq, isFinite_roundToTenth_iff hb]
  exact hoverflow.not_gt

/-- A film with an id is rated in numbers as long as ten times its rating does not overflow. -/
theorem ratesInNumbers_iff {r : FilmRecord} (hid : ¬ Text.IsBlank r.id) :
    r.RatesInNumbers ↔
      ∀ x b, r.rating = some x → Binary.ofFloat? x = some b → 10 * b.magnitude < overflow := by
  constructor
  · intro hrates x b hrating hb
    by_contra hoverflow
    obtain ⟨d, htransform, hinfinite, -⟩ :=
      transform_overflow hid hrating hb (not_lt.1 hoverflow)
    rw [(hrates.indexed d htransform).1] at hinfinite
    cases hinfinite
  · intro hbound
    have hrounded (x : Float) (hrating : r.rating = some x) :
        (roundToTenth x).isFinite = x.isFinite := by
      rw [Bool.eq_iff_iff]
      refine ⟨isFinite_of_isFinite_roundToTenth, fun hx => ?_⟩
      obtain ⟨b, hb⟩ := Binary.exists_of_isFinite hx
      exact (isFinite_roundToTenth_iff hb).2 (hbound x b hrating hb)
    refine ⟨?_, fun d htransform => ?_⟩
    · rw [transform_error_iff hid]
      constructor
      · rintro ⟨x, hrating, hx⟩
        exact ⟨x, hrating, (hrounded x hrating).trans hx⟩
      · rintro ⟨x, hrating, hx⟩
        exact ⟨x, hrating, (hrounded x hrating).symm.trans hx⟩
    · have hfinite : d.rating.isFinite = true := by
        rcases transform_rating htransform with ⟨-, hstored⟩ | ⟨x, hrating, hx, hstored⟩
        · rw [hstored]
          rfl
        · rw [hstored]
          exact (hrounded x hrating).trans hx
      have hentry := d.entryRates
      rw [FilmDocument.numberToJson, if_pos hfinite] at hentry
      exact ⟨hfinite, d.rating, hfinite, hentry⟩

/-- A film that is known by its rating. -/
def ratedAt (x : Float) : FilmRecord := ⟨"f", "Up", none, some x, none, "movie", .first, [], [], []⟩

/-- The greatest rating that stays a number; ten times the next double overflows. -/
theorem ratedAt_greatest :
    ¬ Text.IsBlank (ratedAt 1.7976931348623157e307).id ∧
      (ratedAt 1.7976931348623157e307).RatesInNumbers := by
  have hid : ¬ Text.IsBlank (ratedAt 1.7976931348623157e307).id := by decide
  have hparts : Binary.ofFloat? 1.7976931348623157e307 = some ⟨false, 7205759403792793, 968⟩ := by
    decide +kernel
  refine ⟨hid, (ratesInNumbers_iff hid).2 fun x b hrating hb => ?_⟩
  obtain rfl := Option.some.inj hrating
  obtain rfl := Option.some.inj (hparts.symm.trans hb)
  have hpower : (2 : ℚ) ^ (970 : ℕ) = 4 * 2 ^ (968 : ℤ) := by
    rw [zpow_ofNat, pow_add 2 2 968]
    norm_num
  rw [overflow_eq, hpower, Binary.magnitude, ← mul_assoc, ← mul_assoc]
  exact mul_lt_mul_of_pos_right (by norm_num) (zpow_pos two_pos 968)

/-- A film is accepted with a rating that is finite, and that is infinite once it is rounded. -/
theorem ratedAt_overflow :
    ¬ Text.IsBlank (ratedAt 1e308).id ∧ ¬ (ratedAt 1e308).RatesInNumbers ∧
      ∃ d, (ratedAt 1e308).transform = .ok d ∧ d.EntryRates .null := by
  have hid : ¬ Text.IsBlank (ratedAt 1e308).id := by decide
  have hfinite : (1e308 : Float).isFinite = true := by decide +kernel
  have hrounded : (roundToTenth 1e308).isFinite = false := by decide +kernel
  obtain ⟨d, htransform, hinfinite, hentry⟩ := transform_lost hid rfl hfinite hrounded
  refine ⟨hid, fun hrates => ?_, d, htransform, hentry⟩
  rw [(hrates.indexed d htransform).1] at hinfinite
  cases hinfinite

end FilmRecord

end CatalogSync
