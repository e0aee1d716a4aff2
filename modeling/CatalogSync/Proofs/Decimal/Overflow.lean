import CatalogSync.Proofs.Decimal.Parts

/-!
# When doubles overflow

A product or a quotient of doubles is rounded to 53 bits, and what is rounded is a double unless its
exponent is too large. So whether a product is finite is told by the exact product
(`isFinite_mul_iff`). A double that is divided by ten or rounded to a whole number is finite when it
was finite before.
-/

namespace CatalogSync.Decimal

open Float.Model Float.Model.UnpackedFloat

/-- A rounded number is finite, and its exponent is not too large for a double. -/
def Fits : UnpackedFloat → Prop
  | .notANumber => False
  | .infinity _ => False
  | .zero _ => True
  | .finite _ _ exponent _ => exponent ≤ 971

/-- What fits the format is finite. -/
theorem isFinite_of_fits {u : UnpackedFloat} (h : Fits u) : u.isFinite = true := by
  cases u with
  | notANumber => exact h.elim
  | infinity s => exact h.elim
  | zero s => rfl
  | finite s m e hm => rfl

/-- The bits of a double say by its exponent alone whether it is finite. -/
theorem isFinite_unpack_iff (bits : BitVec Format.binary64.numBits) :
    (UnpackedFloat.unpack .binary64 bits).isFinite = true ↔ unpackExponent bits ≠ -1#_ := by
  rw [UnpackedFloat.unpack]
  dsimp only
  split
  · next hmax =>
    refine iff_of_false ?_ (not_not.2 hmax)
    split <;> simp [UnpackedFloat.isFinite]
  · next hmax =>
    refine iff_of_true ?_ hmax
    split
    · split <;> rfl
    · rfl

/-- Something is packed as a finite double exactly if it fits. -/
theorem isFinite_pack_iff (u : UnpackedFloat) : (Float.Model.pack u).isFinite = true ↔ Fits u := by
  change (UnpackedFloat.unpack .binary64 (UnpackedFloat.pack .binary64 u)).isFinite = true ↔ _
  rw [isFinite_unpack_iff]
  cases u with
  | notANumber => simp [UnpackedFloat.pack, packedNaN, Fits]
  | infinity s => simp [UnpackedFloat.pack, packedInfinity, Fits]
  | zero s => simp [UnpackedFloat.pack, packedZero, Fits]
  | finite s m e hm =>
    have hbiased : e + Format.binary64.exponentBias +
        Format.binary64.mantissaBitsWithoutImplicit = e + 1075 := by
      change e + (1023 : ℕ) + (52 : ℕ) = _
      omega
    rw [UnpackedFloat.pack]
    simp only [hbiased, Fits]
    split
    · simp [packedInfinity]
      omega
    · split
      · simp [← BitVec.toNat_inj]
        omega
      · simp
        omega

/-- A finite double fits with the exponent that it has. -/
theorem fits_unpack_iff (x : Float) : Fits x.toModel.unpack ↔ x.isFinite = true := by
  refine ⟨isFinite_of_fits, fun hx => ?_⟩
  obtain ⟨b, hb⟩ := Binary.exists_of_isFinite hx
  rcases Binary.unpack_of_ofFloat? hb with ⟨-, s, hunpack⟩ | ⟨s, hm, hunpack⟩
  · rw [hunpack]
    trivial
  · rw [hunpack]
    exact (Binary.isDouble_of_ofFloat? hb).exponent_le

/-! ### Rounding to 53 bits -/

/-- A mantissa and the bit behind it, read as one number. -/
def halves (em : ExtendedMantissa) : ℕ := 2 * em.mantissa + em.roundBit.toNat

/-- The mantissa is half of the number with the bit behind it. -/
theorem mantissa_eq (em : ExtendedMantissa) : em.mantissa = halves em / 2 := by
  rcases em with ⟨m, r, s⟩
  cases r <;> simp [halves]
  omega

/-- Shifting to the right is dividing, the bit behind the mantissa included. -/
theorem halves_shiftRight (em : ExtendedMantissa) (n : ℕ) :
    halves (em >>> n) = halves em / 2 ^ n := by
  induction n with
  | zero => exact (Nat.div_one _).symm
  | succ n ih =>
    have hone : halves (em >>> n).shiftRightOne = halves (em >>> n) / 2 := by
      rcases em >>> n with ⟨m, r, s⟩
      rcases Nat.mod_two_eq_zero_or_one m with hm | hm <;> cases r <;>
        simp [halves, ExtendedMantissa.shiftRightOne, hm] <;> omega
    change halves (em >>> n).shiftRightOne = _
    rw [hone, ih, Nat.div_div_eq_div_mul, Nat.pow_succ]

/-- An exact mantissa has no bit behind it before it is shifted. -/
theorem halves_exact (m n : ℕ) :
    halves (ExtendedMantissa.ofMantissaAndAccuracy m .exact >>> n) = 2 * m / 2 ^ n :=
  halves_shiftRight _ n

/-- Behind a mantissa there is at most a half. -/
theorem halves_ofMantissaAndAccuracy_le (m : ℕ) (a : Accuracy) :
    halves (ExtendedMantissa.ofMantissaAndAccuracy m a) ≤ 2 * m + 1 := by
  cases a with
  | exact => exact Nat.le_succ _
  | inexact o => cases o <;> simp [halves, ExtendedMantissa.ofMantissaAndAccuracy]

/-- A mantissa reaches an even number when it is half below it or nearer: a tie goes up, as what is
next below is odd. -/
theorem roundedMantissa_lt_iff (em : ExtendedMantissa) (c : ℕ) :
    em.roundedMantissa < 2 * c ↔ halves em + 1 < 4 * c := by
  rcases em with ⟨m, r, s⟩
  cases r <;> cases s <;>
    simp [halves, ExtendedMantissa.roundedMantissa, ExtendedMantissa.accuracy,
      Accuracy.roundToNearestEven] <;> omega

/-- How far a mantissa is shifted to have 53 bits, or the least exponent. -/
def excess (m : ℕ) (e : ℤ) : ℕ := (max (m.log2 - 52 + e) (-1074) - e).toNat

/-- A number in the normal range is shifted to 53 bits. -/
theorem excess_of_le_log2 {m : ℕ} {e : ℤ} (hlog : 52 ≤ m.log2) (hnormal : -1022 ≤ m.log2 + e) :
    excess m e = m.log2 - 52 := by
  unfold excess
  omega

/-- Rounding begins with a shift by the excess. -/
theorem shiftToTargetExponent_eq (m : ℕ) (e : ℤ) (a : Accuracy) :
    shiftToTargetExponent .binary64 m e a =
      (ExtendedMantissa.ofMantissaAndAccuracy m a >>> excess m e, e + excess m e) := by
  have htarget : Format.binary64.targetExponent (totalExponent m e) =
      max (m.log2 - 52 + e) (-1074) := by
    change max ((m.log2 : ℤ) + 1 + e - (1 + 52 : ℕ)) (3 - 2 ^ 10 - (1 + 52 : ℕ)) = _
    omega
  unfold shiftToTargetExponent
  rw [htarget]
  rfl

/-- A mantissa that has grown too long in the rounding is shifted once more. -/
theorem fits_roundWithAccuracy_iff (s : Sign) (m : ℕ) (e : ℤ) (a : Accuracy) :
    Fits (roundWithAccuracy .binary64 s m e a) ↔
      let r := (ExtendedMantissa.ofMantissaAndAccuracy m a >>> excess m e).roundedMantissa
      r = 0 ∨ e + excess m e + (r.log2 - 52 : ℕ) ≤ 971 := by
  have hfirst : -1074 ≤ e + excess m e := by
    unfold excess
    omega
  rw [roundWithAccuracy, shiftToTargetExponent_eq]
  dsimp only
  generalize (ExtendedMantissa.ofMantissaAndAccuracy m a >>> excess m e).roundedMantissa = r
  generalize e + (excess m e : ℤ) = e' at hfirst ⊢
  have hexcess : excess r e' = r.log2 - 52 := by
    unfold excess
    omega
  have hmantissa :
      (ExtendedMantissa.ofMantissaAndAccuracy r .exact >>> (r.log2 - 52)).mantissa =
        r / 2 ^ (r.log2 - 52) := by
    rw [mantissa_eq, halves_exact, Nat.div_div_eq_div_mul, mul_comm _ 2,
      Nat.mul_div_mul_left _ _ Nat.two_pos]
  have hzero : r / 2 ^ (r.log2 - 52) = 0 ↔ r = 0 := by
    rw [Nat.div_eq_zero_iff_lt (Nat.two_pow_pos _)]
    constructor
    · intro hlt
      by_contra hr
      have hbit := Nat.log2_self_le hr
      have hpower := Nat.pow_le_pow_right Nat.two_pos (Nat.sub_le r.log2 52)
      omega
    · rintro rfl
      exact Nat.two_pow_pos _
  rw [shiftToTargetExponent_eq, hexcess]
  dsimp only
  split
  · next h =>
    rw [hmantissa, hzero] at h
    exact iff_of_true trivial (.inl h)
  · next h =>
    rw [hmantissa, hzero] at h
    simp only [Fits, h, false_or]

/-- A rounded mantissa has 54 bits at most. -/
theorem log2_roundedMantissa_le (m : ℕ) (e : ℤ) (a : Accuracy) :
    (ExtendedMantissa.ofMantissaAndAccuracy m a >>> excess m e).roundedMantissa.log2 ≤ 53 := by
  have hexcess : m.log2 - 52 ≤ excess m e := by
    unfold excess
    omega
  have hm : m < 2 ^ 53 * 2 ^ excess m e := by
    rw [← Nat.pow_add]
    exact Nat.lt_log2_self.trans_le (Nat.pow_le_pow_right Nat.two_pos (by omega))
  generalize excess m e = n at hm ⊢
  have hhalves : halves (ExtendedMantissa.ofMantissaAndAccuracy m a >>> n) < 2 ^ 54 := by
    rw [halves_shiftRight, Nat.div_lt_iff_lt_mul (Nat.two_pow_pos _)]
    have hle := halves_ofMantissaAndAccuracy_le m a
    omega
  have hrounded := (roundedMantissa_lt_iff
    (ExtendedMantissa.ofMantissaAndAccuracy m a >>> n) (2 ^ 53)).2 (by omega)
  generalize (ExtendedMantissa.ofMantissaAndAccuracy m a >>> n).roundedMantissa = r at hrounded ⊢
  by_cases hr : r = 0
  · rw [hr]
    decide
  · exact Nat.le_of_lt_succ ((Nat.log2_lt hr).2 hrounded)

/-- A number below `2 ^ 1023` fits, however it is rounded. -/
theorem fits_roundWithAccuracy {s : Sign} {m : ℕ} {e : ℤ} {a : Accuracy} (he : e ≤ 970)
    (hlog : m.log2 + e ≤ 1022) : Fits (roundWithAccuracy .binary64 s m e a) := by
  have hrounded := log2_roundedMantissa_le m e a
  have hexponent : e + excess m e ≤ 970 := by
    unfold excess
    omega
  rw [fits_roundWithAccuracy_iff]
  exact .inr (by omega)

/-! ### The overflow -/

/-- Halfway between the largest double and the next power of two. -/
def overflow : ℚ := 2 ^ 1024 - 2 ^ 970

/-- The overflow is an odd number of steps of half the size that the largest doubles have. -/
theorem overflow_eq : overflow = (2 ^ 54 - 1) * 2 ^ 970 := by
  have hpower : (2 : ℚ) ^ 1024 = 2 ^ 54 * 2 ^ 970 := pow_add 2 54 970
  rw [overflow, hpower, sub_mul, one_mul]

/-- The overflow lies above the greatest power of two that is a double. -/
theorem two_pow_lt_overflow : (2 : ℚ) ^ (1023 : ℤ) < overflow := by
  have hpower : (2 : ℚ) ^ (1023 : ℤ) = 2 ^ 53 * 2 ^ 970 := by
    rw [zpow_ofNat, ← pow_add]
  rw [hpower, overflow_eq]
  exact mul_lt_mul_of_pos_right (by norm_num) (pow_pos two_pos 970)

/-- The overflow lies below the next power of two. -/
theorem overflow_lt_two_pow : overflow < (2 : ℚ) ^ (1024 : ℤ) :=
  sub_lt_self _ (pow_pos two_pos 970)

theorem overflow_pos : 0 < overflow := (zpow_pos two_pos _).trans two_pow_lt_overflow

/-- The largest double lies below the overflow. -/
theorem Binary.IsDouble.magnitude_lt {b : Binary} (h : b.IsDouble) : b.magnitude < overflow := by
  have hmantissa : (b.mantissa : ℚ) ≤ 2 ^ 53 - 1 := by
    have hle : b.mantissa + 1 ≤ 2 ^ 53 := h.mantissa_lt
    rw [le_sub_iff_add_le]
    exact_mod_cast hle
  have hexponent : (2 : ℚ) ^ b.exponent ≤ 2 ^ (971 : ℤ) :=
    zpow_le_zpow_right₀ one_le_two h.exponent_le
  have hpower : (2 : ℚ) ^ (971 : ℤ) = 2 * 2 ^ 970 := by
    rw [zpow_ofNat, pow_succ']
  calc b.magnitude ≤ (2 ^ 53 - 1) * 2 ^ (971 : ℤ) :=
        mul_le_mul hmantissa hexponent (zpow_pos two_pos _).le (by norm_num)
    _ = (2 ^ 54 - 2) * 2 ^ 970 := by
        rw [hpower, ← mul_assoc]
        norm_num
    _ < overflow := by
        rw [overflow_eq]
        exact mul_lt_mul_of_pos_right (by norm_num) (pow_pos two_pos 970)

/-- With `2 ^ 1023` as the highest bit, a number fits unless its first 54 bits are all set. -/
theorem fits_roundWithAccuracy_top_iff {s : Sign} {m : ℕ} {e : ℤ} (hlog : 52 ≤ m.log2)
    (htop : m.log2 + e = 1023) :
    Fits (roundWithAccuracy .binary64 s m e .exact) ↔
      2 * m < (2 ^ 54 - 1) * 2 ^ (m.log2 - 52) := by
  have hexcess := excess_of_le_log2 hlog (by omega : -1022 ≤ m.log2 + e)
  have hexponent : e + (m.log2 - 52 : ℕ) = 971 := by omega
  have hbound := roundedMantissa_lt_iff
    (ExtendedMantissa.ofMantissaAndAccuracy m .exact >>> (m.log2 - 52)) (2 ^ 52)
  rw [halves_exact] at hbound
  rw [fits_roundWithAccuracy_iff, hexcess, hexponent,
    ← Nat.div_lt_iff_lt_mul (Nat.two_pow_pos _)]
  dsimp only
  generalize (ExtendedMantissa.ofMantissaAndAccuracy m .exact >>>
    (m.log2 - 52)).roundedMantissa = r at hbound ⊢
  have hlength : (r = 0 ∨ 971 + ((r.log2 - 52 : ℕ) : ℤ) ≤ 971) ↔ r < 2 ^ 53 := by
    by_cases hr : r = 0
    · exact iff_of_true (.inl hr) (by omega)
    · rw [← Nat.log2_lt hr]
      omega
  rw [hlength]
  omega

/-- With a higher bit, no number fits. -/
theorem not_fits_roundWithAccuracy {s : Sign} {m : ℕ} {e : ℤ} (hm : m ≠ 0) (hlog : 52 ≤ m.log2)
    (hlarge : 1023 < m.log2 + e) : ¬ Fits (roundWithAccuracy .binary64 s m e .exact) := by
  have hexcess := excess_of_le_log2 hlog (by omega : -1022 ≤ m.log2 + e)
  have hhalves : 4 ≤ 2 * m / 2 ^ (m.log2 - 52) := by
    rw [Nat.le_div_iff_mul_le (Nat.two_pow_pos _)]
    have hpower : 2 ^ m.log2 = 2 ^ 52 * 2 ^ (m.log2 - 52) := by
      rw [← Nat.pow_add, Nat.add_sub_cancel' hlog]
    have hbit := Nat.log2_self_le hm
    omega
  have hbound := roundedMantissa_lt_iff
    (ExtendedMantissa.ofMantissaAndAccuracy m .exact >>> (m.log2 - 52)) 1
  rw [halves_exact] at hbound
  rw [fits_roundWithAccuracy_iff, hexcess]
  rintro (hzero | hfits)
  · omega
  · omega

/-- An exact number is rounded to a double when it lies below the overflow. -/
theorem fits_roundWithAccuracy_exact_iff {s : Sign} {m : ℕ} {e : ℤ} (hm : m ≠ 0)
    (hbits : 52 ≤ m.log2 ∨ e ≤ -1074) :
    Fits (roundWithAccuracy .binary64 s m e .exact) ↔ (m : ℚ) * 2 ^ e < overflow := by
  have htwo : (0 : ℚ) < 2 ^ e := zpow_pos two_pos e
  have hlow : (2 : ℚ) ^ (m.log2 + e) ≤ m * 2 ^ e := by
    rw [zpow_add₀ two_ne_zero, zpow_natCast]
    exact mul_le_mul_of_nonneg_right (by exact_mod_cast Nat.log2_self_le hm) htwo.le
  have hhigh : (m : ℚ) * 2 ^ e < 2 ^ (m.log2 + 1 + e) := by
    rw [zpow_add₀ two_ne_zero, ← Nat.cast_succ, zpow_natCast]
    exact mul_lt_mul_of_pos_right (by exact_mod_cast Nat.lt_log2_self) htwo
  rcases lt_trichotomy (m.log2 + e) 1023 with hsmall | htop | hlarge
  · refine iff_of_true (fits_roundWithAccuracy (by omega) (by omega)) (hhigh.trans_le ?_)
    exact (zpow_le_zpow_right₀ one_le_two (by omega)).trans two_pow_lt_overflow.le
  · have hexponent : e = 970 + 1 - (m.log2 - 52 : ℕ) := by omega
    have hpower : (2 : ℚ) ^ e = 2 ^ 970 * 2 / 2 ^ (m.log2 - 52) := by
      rw [hexponent, zpow_sub₀ two_ne_zero, zpow_add₀ two_ne_zero, zpow_natCast, zpow_one,
        zpow_ofNat]
    have hscaled : (m : ℚ) * 2 ^ e = 2 * m / 2 ^ (m.log2 - 52) * 2 ^ 970 := by
      rw [hpower]
      generalize (2 : ℚ) ^ 970 = half
      ring
    have hcast : 2 * (m : ℚ) < (2 ^ 54 - 1) * 2 ^ (m.log2 - 52) ↔
        2 * m < (2 ^ 54 - 1) * 2 ^ (m.log2 - 52) := by
      norm_num
      exact_mod_cast Iff.rfl
    rw [fits_roundWithAccuracy_top_iff (by omega) htop, hscaled, overflow_eq,
      mul_lt_mul_iff_of_pos_right (pow_pos two_pos 970), div_lt_iff₀ (pow_pos two_pos _), hcast]
  · have habove : overflow < m * 2 ^ e :=
      overflow_lt_two_pow.trans_le ((zpow_le_zpow_right₀ one_le_two (by omega)).trans hlow)
    exact iff_of_false (not_fits_roundWithAccuracy hm (by omega) hlarge) habove.not_gt

/-! ### Arithmetic -/

/-- A product of doubles is finite when the exact product lies below the overflow. -/
theorem isFinite_mul_iff {x y : Float} {a b : Binary} (hx : Binary.ofFloat? x = some a)
    (hy : Binary.ofFloat? y = some b) :
    (x * y).isFinite = true ↔ a.magnitude * b.magnitude < overflow := by
  change (Float.Model.pack
    (UnpackedFloat.mul .binary64 x.toModel.unpack y.toModel.unpack)).isFinite = true ↔ _
  rw [isFinite_pack_iff]
  rcases Binary.unpack_of_ofFloat? hx with ⟨hzero, s, hux⟩ | ⟨s, hm, hux⟩
  · rw [hux, Binary.magnitude_eq_zero hzero, zero_mul]
    refine iff_of_true ?_ overflow_pos
    rcases Binary.unpack_of_ofFloat? hy with ⟨-, t, huy⟩ | ⟨t, hn, huy⟩ <;>
      rw [huy] <;> trivial
  · rcases Binary.unpack_of_ofFloat? hy with ⟨hzero, t, huy⟩ | ⟨t, hn, huy⟩
    · rw [hux, huy, Binary.magnitude_eq_zero hzero, mul_zero]
      exact iff_of_true trivial overflow_pos
    · have hne := (Nat.mul_pos hm hn).ne'
      have hbits := (Binary.isDouble_of_ofFloat? hx).bits_mul (Binary.isDouble_of_ofFloat? hy) hne
      rw [hux, huy, Binary.magnitude_mul]
      exact fits_roundWithAccuracy_exact_iff hne hbits

/-- What is not finite is not made so by a factor. -/
theorem isFinite_of_isFinite_mul {x y : Float} (h : (x * y).isFinite = true) :
    x.isFinite = true := by
  change (Float.Model.pack
    (UnpackedFloat.mul .binary64 x.toModel.unpack y.toModel.unpack)).isFinite = true at h
  rw [isFinite_pack_iff] at h
  change x.toModel.unpack.isFinite = true
  generalize x.toModel.unpack = u at h ⊢
  generalize y.toModel.unpack = v at h
  cases u with
  | notANumber => exact h.elim
  | infinity s => cases v <;> exact h.elim
  | zero s => rfl
  | finite s m e hm => rfl

/-- A double stays finite when it is multiplied by one. -/
theorem isFinite_mul_one {x : Float} (h : x.isFinite = true) : (x * 1).isFinite = true := by
  obtain ⟨b, hb⟩ := Binary.exists_of_isFinite h
  have hone : Binary.ofFloat? 1 = some ⟨false, 2 ^ 52, -52⟩ := rfl
  have hmagnitude : Binary.magnitude ⟨false, 2 ^ 52, -52⟩ = 1 := by norm_num [Binary.magnitude]
  rw [isFinite_mul_iff hb hone, hmagnitude, mul_one]
  exact (Binary.isDouble_of_ofFloat? hb).magnitude_lt

/-- The sign does not matter to what is finite. -/
theorem isFinite_neg (x : Float) : (-x).isFinite = x.isFinite := by
  rw [Bool.eq_iff_iff, ← fits_unpack_iff x]
  change (Float.Model.pack x.toModel.unpack.neg).isFinite = true ↔ _
  rw [isFinite_pack_iff]
  cases x.toModel.unpack <;> rfl

/-- A quotient is shorter than the shifted mantissa by the bits of the divisor. -/
theorem log2_shiftLeft_div_le (m n : ℕ) {d k : ℕ} (hd : 2 ^ k ≤ d) :
    (m <<< n / d).log2 ≤ m.log2 + n - k := by
  by_cases hzero : m <<< n / d = 0
  · rw [hzero]
    exact Nat.zero_le _
  · refine Nat.le_of_lt_succ ((Nat.log2_lt hzero).2 (Nat.div_lt_of_lt_mul ?_))
    calc m <<< n = m * 2 ^ n := Nat.shiftLeft_eq m n
      _ < 2 ^ (m.log2 + 1) * 2 ^ n :=
        Nat.mul_lt_mul_of_pos_right Nat.lt_log2_self (Nat.two_pow_pos n)
      _ = 2 ^ (m.log2 + 1 + n) := (Nat.pow_add 2 _ n).symm
      _ ≤ 2 ^ (k + (m.log2 + n - k + 1)) := Nat.pow_le_pow_right Nat.two_pos (by omega)
      _ = 2 ^ k * 2 ^ (m.log2 + n - k + 1) := Nat.pow_add 2 k _
      _ ≤ d * 2 ^ (m.log2 + n - k + 1) := Nat.mul_le_mul_right _ hd

/-- The highest bit of a tenth is lower, so it is far below the overflow. -/
theorem fits_div_ten {s : Sign} {m : ℕ} {e : ℤ} (hm : 0 < m) (hmantissa : m < 2 ^ 53)
    (hexponent : e ≤ 971) :
    Fits (UnpackedFloat.div .binary64 (.finite s m e hm)
      (.finite .positive (5 * 2 ^ 50) (-49) (by decide))) := by
  have hlog : m.log2 < 53 := (Nat.log2_lt hm.ne').2 hmantissa
  have hten : (5 * 2 ^ 50).log2 = 52 := by decide +kernel
  have htarget : Format.binary64.targetExponent
      (totalExponent m e - totalExponent (5 * 2 ^ 50) (-49)) =
        max (m.log2 + e - 56) (-1074) := by
    rw [totalExponent, totalExponent, hten]
    change max ((m.log2 : ℤ) + 1 + e - ((52 : ℕ) + 1 + -49) - (1 + 52 : ℕ))
      (3 - 2 ^ 10 - (1 + 52 : ℕ)) = _
    omega
  rw [UnpackedFloat.div, divCore, htarget]
  dsimp only
  generalize hplace : min (e - -49) (max (m.log2 + e - 56 : ℤ) (-1074)) = place
  have hquotient := log2_shiftLeft_div_le m (e - -49 - place).toNat
    (by decide : 2 ^ 52 ≤ 5 * 2 ^ 50)
  exact fits_roundWithAccuracy (by omega) (by omega)

/-- A double divided by ten is finite when it was. -/
theorem isFinite_div_ten (x : Float) : (x / 10).isFinite = x.isFinite := by
  have hten : (10 : Float).toModel.unpack = .finite .positive (5 * 2 ^ 50) (-49) (by decide) := rfl
  rw [Bool.eq_iff_iff]
  change (Float.Model.pack
    (UnpackedFloat.div .binary64 x.toModel.unpack (10 : Float).toModel.unpack)).isFinite = true ↔ _
  rw [isFinite_pack_iff, hten]
  constructor
  · change _ → x.toModel.unpack.isFinite = true
    cases x.toModel.unpack with
    | notANumber => exact False.elim
    | infinity s => exact False.elim
    | zero s => exact fun _ => rfl
    | finite s m e hm => exact fun _ => rfl
  · intro hx
    obtain ⟨b, hb⟩ := Binary.exists_of_isFinite hx
    rcases Binary.unpack_of_ofFloat? hb with ⟨-, s, hunpack⟩ | ⟨s, hm, hunpack⟩
    · rw [hunpack]
      trivial
    · have hdouble := Binary.isDouble_of_ofFloat? hb
      rw [hunpack]
      exact fits_div_ten hm hdouble.mantissa_lt hdouble.exponent_le

/-! ### Whole numbers -/

/-- A whole number of 64 bits becomes a finite double. -/
theorem isFinite_toFloat (n : UInt64) : n.toFloat.isFinite = true := by
  change (Float.Model.pack
    (UnpackedFloat.normalize .binary64 (n.toNat : ℤ) 0 .positive)).isFinite = true
  rw [isFinite_pack_iff, UnpackedFloat.normalize]
  split
  · next hneg => exact absurd (Int.compare_eq_lt.1 hneg) (by omega)
  · trivial
  · rw [Int.toNat_natCast, UnpackedFloat.round, decreaseExponent]
    dsimp only
    generalize (0 - Format.binary64.targetExponent (totalExponent n.toNat 0)).toNat = places
    have hbits : n.toNat.log2 ≤ 64 := by
      by_cases hzero : n.toNat = 0
      · rw [hzero]
        decide
      · exact ((Nat.log2_lt hzero).2 n.toNat_lt).le
    have hshifted := log2_shiftLeft_div_le n.toNat places (Nat.pow_zero 2).le
    rw [Nat.div_one] at hshifted
    exact fits_roundWithAccuracy (by omega) (by omega)

/-- A whole number of at most 53 bits is finite. -/
theorem isFinite_ofNat {n : ℕ} (h : n < 2 ^ 53) : (Float.ofNat n).isFinite = true := by
  have hfloat : Float.ofNat n = n.toUInt64.toFloat * 1 := by
    change Float.ofScientific n false 0 = _
    rw [Float.ofScientific, dif_pos ⟨h, Nat.zero_le 22⟩]
    rfl
  rw [hfloat]
  exact isFinite_mul_one (isFinite_toFloat _)

/-- A double rounded to a whole number is finite when it was. -/
theorem isFinite_roundHalfAway (x : Float) : (roundHalfAway x).isFinite = x.isFinite := by
  cases hx : Binary.ofFloat? x with
  | none => rw [roundHalfAway, hx]
  | some b =>
    have hfinite : x.isFinite = true := by
      rw [← Binary.isSome_ofFloat?, hx]
      rfl
    rw [hfinite, roundHalfAway, hx]
    dsimp only
    split
    · exact hfinite
    · next hexponent =>
      have hwhole : (b.mantissa + Nat.pow 2 ((-b.exponent).toNat - 1)) /
          Nat.pow 2 (-b.exponent).toNat < 2 ^ 53 := by
        obtain ⟨places, hplaces⟩ :=
          Nat.exists_eq_succ_of_ne_zero (by omega : (-b.exponent).toNat ≠ 0)
        rw [hplaces, Nat.succ_sub_one]
        refine Nat.div_lt_of_lt_mul ?_
        change b.mantissa + 2 ^ places < 2 ^ places * 2 * 2 ^ 53
        have hmantissa := (Binary.isDouble_of_ofFloat? hx).mantissa_lt
        have hpower := Nat.two_pow_pos places
        omega
      split
      · rw [isFinite_neg]
        exact isFinite_ofNat hwhole
      · exact isFinite_ofNat hwhole

end CatalogSync.Decimal
