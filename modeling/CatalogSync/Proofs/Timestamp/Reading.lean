import CatalogSync.Timestamp.Printer
import CatalogSync.Timestamp.Reader
import Mathlib.Algebra.Ring.Nat
import Mathlib.Data.List.TakeWhile

/-!
# Timestamps are read back

The reader is more lenient than the printer, but of what the printer writes it makes the timestamp
that was written: in every year, with any fraction, and in a leap second.
-/

namespace CatalogSync.Timestamp

open Text (trimStart isBlank)

theorem isBlank_of_isDigit {c : Char} (h : c.isDigit = true) : isBlank c = false := by
  simp only [Char.isDigit, ge_iff_le, Bool.and_eq_true, decide_eq_true_eq,
    UInt32.le_iff_toNat_le] at h
  change 48 ≤ c.toNat ∧ c.toNat ≤ 57 at h
  simp [isBlank, Text.blankRanges]
  omega

theorem trimStart_cons {c : Char} (h : isBlank c = false) (cs : List Char) :
    trimStart (c :: cs) = c :: cs :=
  List.dropWhile_cons_of_neg (by simp [h])

/-- A mark where it is expected is read. -/
theorem readMark_cons {c : Char} (h : isBlank c = false) (cs : List Char) :
    readMark c (c :: cs) = some cs := by
  rw [readMark, trimStart_cons h]
  exact if_pos rfl

section

variable {width n : Nat}

theorem isDigit_of_mem_padded {c : Char} (h : c ∈ padded width n) : c.isDigit = true := by
  rcases List.mem_append.1 h with h | h
  · rw [List.eq_of_mem_replicate h]
    rfl
  · exact Nat.isDigit_of_mem_toDigits (by decide) (by decide) h

theorem digitsValue_padded : digitsValue (padded width n) = n := by
  have hzeros : ∀ k, digitsValue (List.replicate k '0') = 0 := fun k => by
    induction k with
    | zero => rfl
    | succ k ih => rw [List.replicate_succ']; simp_all [digitsValue]
  have hdigits : (Nat.toDigits 10 n).foldl (fun m d => 10 * m + (d.toNat - '0'.toNat)) 0 = n := by
    rw [← Nat.ofDigitChars_eq_foldl]
    exact Nat.ofDigitChars_toDigits (by decide) (by decide)
  rw [digitsValue, padded, List.foldl_append]
  exact (congrArg (fun m => List.foldl _ m _) (hzeros _)).trans hdigits

theorem width_le_length_padded : width ≤ (padded width n).length := by
  simp only [padded, List.length_append, List.length_replicate]
  omega

theorem length_padded (hwidth : 0 < width) (hn : n < 10 ^ width) :
    (padded width n).length = width := by
  have hlength : (Nat.toDigits 10 n).length ≤ width :=
    (Nat.length_toDigits_le_iff (by decide) hwidth).2 hn
  simp only [padded, List.length_append, List.length_replicate]
  omega

/-- The first digit of a number. -/
theorem exists_padded_eq_cons (hwidth : 0 < width) :
    ∃ d rest, padded width n = d :: rest ∧ d.isDigit = true := by
  have hlength : width ≤ (padded width n).length := width_le_length_padded
  rcases h : padded width n with _ | ⟨d, rest⟩
  · rw [h, List.length_nil] at hlength
    omega
  · exact ⟨d, rest, rfl, isDigit_of_mem_padded (h ▸ List.mem_cons_self)⟩

theorem isEmpty_padded (hwidth : 0 < width) : (padded width n).isEmpty = false := by
  obtain ⟨d, tail, h, -⟩ := exists_padded_eq_cons (n := n) hwidth
  rw [h]
  rfl

/-- No blanks stand before a number. -/
theorem trimStart_padded (hwidth : 0 < width) (rest : List Char) :
    trimStart (padded width n ++ rest) = padded width n ++ rest := by
  obtain ⟨d, tail, h, hd⟩ := exists_padded_eq_cons (n := n) hwidth
  rw [h, List.cons_append, trimStart_cons (isBlank_of_isDigit hd)]

/-- A number of so many digits is read. -/
theorem readDigits_padded (hwidth : 0 < width) (hn : n < 10 ^ width) (rest : List Char) :
    readDigits width (padded width n ++ rest) = some (n, rest) := by
  have htake : (padded width n ++ rest).take width = padded width n := by
    rw [List.take_append_of_le_length (length_padded hwidth hn).symm.le,
      List.take_of_length_le (length_padded hwidth hn).le]
  have hdigits : (padded width n).takeWhile Char.isDigit = padded width n :=
    List.takeWhile_eq_self_iff.2 fun _ => isDigit_of_mem_padded
  simp only [readDigits, trimStart_padded hwidth, htake, hdigits, isEmpty_padded hwidth,
    digitsValue_padded, List.drop_left, Bool.false_eq_true, if_false]

variable {c : Char}

/-- The digits of a number end where it does. -/
theorem takeWhile_padded (hc : c.isDigit = false) (rest : List Char) :
    (padded width n ++ c :: rest).takeWhile Char.isDigit = padded width n := by
  rw [List.takeWhile_append_of_pos fun _ => isDigit_of_mem_padded,
    List.takeWhile_cons_of_neg (by simp [hc]), List.append_nil]

theorem dropWhile_padded (hc : c.isDigit = false) (rest : List Char) :
    (padded width n ++ c :: rest).dropWhile Char.isDigit = c :: rest := by
  rw [List.dropWhile_append_of_pos fun _ => isDigit_of_mem_padded,
    List.dropWhile_cons_of_neg (by simp [hc])]

/-- A number of any length is read up to what is no digit. -/
theorem readAllDigits_padded (hwidth : 0 < width) (hc : c.isDigit = false) (rest : List Char) :
    readAllDigits (padded width n ++ c :: rest) = some (n, c :: rest) := by
  simp only [readAllDigits, takeWhile_padded hc, dropWhile_padded hc, isEmpty_padded hwidth,
    digitsValue_padded, Bool.false_eq_true, if_false]

/-- A fraction of up to nine digits is read in nanoseconds. -/
theorem readFraction_padded (hwidth : 0 < width) (hle : width ≤ 9) (hn : n < 10 ^ width)
    (hc : c.isDigit = false) (rest : List Char) :
    readFraction ('.' :: padded width n ++ c :: rest) = some (n * 10 ^ (9 - width), c :: rest) := by
  have hlength := length_padded hwidth hn
  have hkept : (padded width n).take 9 = padded width n := List.take_of_length_le (by omega)
  simp only [List.cons_append, readFraction, takeWhile_padded hc, dropWhile_padded hc,
    isEmpty_padded hwidth, hkept, hlength, digitsValue_padded, Bool.false_eq_true, if_false]
  rfl

end

/-- A year is read, with or without its sign. -/
theorem readYear_writeYear (year : Int) (rest : List Char) :
    readYear (writeYear year ++ '-' :: rest) = some (year, '-' :: rest) := by
  have hminus : isBlank '-' = false := by decide
  have hplus : isBlank '+' = false := by decide
  unfold writeYear
  split
  · next hyear =>
    have hread :
        readDigits 4 (padded 4 year.toNat ++ '-' :: rest) = some (year.toNat, '-' :: rest) :=
      readDigits_padded (by decide) (by omega) _
    obtain ⟨d, tail, h, hd⟩ := exists_padded_eq_cons (n := year.toNat) (Nat.zero_lt_succ 3)
    rw [readYear, trimStart_padded (by decide)]
    rw [h, List.cons_append] at hread ⊢
    split
    · next heq =>
      cases heq
      cases hd
    · next heq =>
      cases heq
      cases hd
    · rw [hread, Option.map_some]
      simp only [Int.toNat_of_nonneg hyear.1]
  · next hyear =>
    split
    · rw [List.cons_append, readYear, trimStart_cons hminus]
      simp only [readAllDigits_padded (Nat.zero_lt_succ 3) (c := '-') rfl, Option.map_some,
        Option.some.injEq, Prod.mk.injEq, and_true]
      omega
    · rw [List.cons_append, readYear, trimStart_cons hplus]
      simp only [readAllDigits_padded (Nat.zero_lt_succ 3) (c := '-') rfl, Option.map_some,
        Option.some.injEq, Prod.mk.injEq, and_true]
      omega

/-- A fraction is read, however many of its digits are written. -/
theorem readFraction_writeFraction {nano : Nat} (hnano : nano < 1000000000) (rest : List Char) :
    readFraction (writeFraction nano ++ 'Z' :: rest) = some (nano, 'Z' :: rest) := by
  have hzone : 'Z'.isDigit = false := rfl
  unfold writeFraction
  split
  · next hzero =>
    subst hzero
    rfl
  · split
    · next hmillis =>
      rw [readFraction_padded (by decide) (by decide) (by omega) hzone]
      simp only [Option.some.injEq, Prod.mk.injEq, and_true]
      omega
    · split
      · next hmicros =>
        rw [readFraction_padded (by decide) (by decide) (by omega) hzone]
        simp only [Option.some.injEq, Prod.mk.injEq, and_true]
        omega
      · rw [readFraction_padded (by decide) (by decide) hnano hzone]
        simp

/-- A day of the calendar is read. -/
theorem readDate_write (date : Date) (rest : List Char) :
    readDate (writeYear date.year ++ '-' :: (padded 2 date.month ++
      '-' :: (padded 2 date.day ++ rest))) = some (date, rest) := by
  have hmark : isBlank '-' = false := by decide
  have hmonth : date.month < 10 ^ 2 := by
    have hmem := date.month_mem
    omega
  have hday : date.day < 10 ^ 2 := by
    have hmem := date.day_mem
    have hmost : daysInMonth date.year date.month ≤ 31 := by
      unfold daysInMonth
      split
      · split <;> decide
      · split <;> decide
    omega
  simp only [readDate, readYear_writeYear, readMark_cons hmark,
    readDigits_padded Nat.two_pos hmonth, readDigits_padded Nat.two_pos hday,
    Date.of?_eq_some, Option.bind_eq_bind, Option.bind_some]

/-- A time of day is read, a leap second included. -/
theorem readTime_write (t : Timestamp) (rest : List Char) :
    readTime (padded 2 (t.second / 3600) ++ ':' :: (padded 2 (t.second / 60 % 60) ++
      ':' :: (padded 2 (t.second % 60 + t.nano / 1000000000) ++
        (writeFraction (t.nano % 1000000000) ++ 'Z' :: rest)))) =
      some (t.second, t.nano, 'Z' :: rest) := by
  have hmark : isBlank ':' = false := by decide
  have hsecond := t.second_lt
  have hnano := t.nano_lt
  have hhours : t.second / 3600 < 10 ^ 2 := by omega
  have hminutes : t.second / 60 % 60 < 10 ^ 2 := by omega
  have hseconds : t.second % 60 + t.nano / 1000000000 < 10 ^ 2 := by omega
  have hvalid : t.second / 3600 < 24 ∧ t.second / 60 % 60 < 60 ∧
      t.second % 60 + t.nano / 1000000000 ≤ 60 := by omega
  have hfraction : t.nano % 1000000000 < 1000000000 := Nat.mod_lt _ (by decide)
  simp only [readTime, readMark_cons hmark, readDigits_padded Nat.two_pos hhours,
    readDigits_padded Nat.two_pos hminutes, readDigits_padded Nat.two_pos hseconds,
    readFraction_writeFraction hfraction, Option.bind_eq_bind, Option.bind_some, if_pos hvalid,
    Option.some.injEq, Prod.mk.injEq, and_true]
  omega

/-- A timestamp is read back from its text. -/
theorem parse?_text (t : Timestamp) : parse? t.text = some t := by
  have hzone : readZone (trimStart ['Z']) = some (0, []) := rfl
  have hshift : shift? t.date t.second t.nano 0 = some t := by
    have hsecond := t.second_lt
    rw [shift?, if_neg (by omega), if_neg (by omega)]
    simpa using t.of?_eq_some
  have hdate := readDate_write t.date ('T' :: (padded 2 (t.second / 3600) ++
    ':' :: (padded 2 (t.second / 60 % 60) ++
      ':' :: (padded 2 (t.second % 60 + t.nano / 1000000000) ++
        (writeFraction (t.nano % 1000000000) ++ ['Z'])))))
  simp only [parse?, text, String.toList_ofList, read?, writeLocal, List.append_assoc,
    List.cons_append, hdate, readTime_write t [], readSeparator, hzone, Option.bind_eq_bind,
    Option.bind_some]
  exact (if_pos rfl).trans hshift

end CatalogSync.Timestamp
