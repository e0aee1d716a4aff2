import CatalogSync.Decimal.Binary
import Mathlib

/-!
# The parts of a double

The arithmetic of doubles takes them apart, too. The parts that are read off the bits of a double
are those that it computes with (`Binary.ofFloat?_eq`), so what is known of the bits is known of
what is multiplied and divided.
-/

namespace CatalogSync.Decimal

open Float.Model Float.Model.UnpackedFloat

namespace Binary

/-- The parts of a number as the arithmetic of doubles has them. -/
def ofUnpacked? : UnpackedFloat → Option Binary
  | .notANumber => none
  | .infinity _ => none
  | .zero sign => some ⟨sign == .negative, 0, -1074⟩
  | .finite sign mantissa exponent _ => some ⟨sign == .negative, mantissa, exponent⟩

end Binary

theorem toNat_unpackMantissa (bits : BitVec 64) :
    (@unpackMantissa .binary64 bits).toNat = bits.toNat % Nat.pow 2 52 := by
  simp [unpackMantissa_def]

theorem toNat_unpackExponent (bits : BitVec 64) :
    (@unpackExponent .binary64 bits).toNat = bits.toNat / Nat.pow 2 52 % 2048 := by
  simp [unpackExponent_def, Nat.shiftRight_eq_div_pow]

theorem toNat_unpackSign (bits : BitVec 64) :
    (@unpackSign .binary64 bits).toNat = bits.toNat / Nat.pow 2 63 := by
  have hlt : bits.toNat < 2 ^ 64 := bits.isLt
  simp [unpackSign_def, Nat.shiftRight_eq_div_pow]
  omega

theorem ofBitVec_beq_negative (b : BitVec 1) :
    (Sign.ofBitVec b == .negative) = decide (b.toNat = 1) := by
  revert b
  decide

namespace Binary

/-- The parts are the same, whether they are read off the bits or computed with. -/
theorem ofFloat?_eq (x : Float) : ofFloat? x = ofUnpacked? x.toModel.unpack := by
  have hbits : x.toBits.toNat = x.toModel.toBits.toBitVec.toNat := rfl
  unfold ofFloat? Float.Model.unpack UnpackedFloat.unpack
  rw [hbits]
  generalize x.toModel.toBits.toBitVec = bits
  have hsign := ofBitVec_beq_negative (@unpackSign .binary64 bits)
  rw [toNat_unpackSign] at hsign
  dsimp only
  rw [← toNat_unpackMantissa bits, ← toNat_unpackExponent bits]
  split
  · next hmax =>
    rw [if_pos (BitVec.eq_of_toNat_eq hmax)]
    split <;> rfl
  · next hzero =>
    have hexponent : @unpackExponent .binary64 bits = 0#11 := BitVec.eq_of_toNat_eq hzero
    rw [if_neg (by rw [hexponent]; decide), if_pos hexponent]
    split
    · next hmantissa =>
      simp only [ofUnpacked?, hsign, hmantissa]
      rfl
    · simp only [ofUnpacked?, hsign, hzero]
      rfl
  · next hmax hzero =>
    have himplicit : (1#1 ++ @unpackMantissa .binary64 bits).toNat =
        (@unpackMantissa .binary64 bits).toNat + Nat.pow 2 52 := by
      rw [BitVec.toNat_append, ← Nat.shiftLeft_add_eq_or_of_lt (BitVec.isLt _), Nat.add_comm]
      rfl
    rw [if_neg (fun h => hmax (by rw [h]; rfl)), if_neg (fun h => hzero (by rw [h]; rfl))]
    simp only [ofUnpacked?, hsign, himplicit]
    rfl

/-- The finite doubles are those that have parts. -/
theorem isSome_ofFloat? (x : Float) : (ofFloat? x).isSome = x.isFinite := by
  rw [ofFloat?_eq]
  change _ = x.toModel.unpack.isFinite
  cases x.toModel.unpack <;> rfl

theorem exists_of_isFinite {x : Float} (h : x.isFinite = true) : ∃ b, ofFloat? x = some b :=
  Option.isSome_iff_exists.1 ((isSome_ofFloat? x).trans h)

/-- A finite double is a zero, or it is computed with by its parts. -/
theorem unpack_of_ofFloat? {x : Float} {b : Binary} (h : ofFloat? x = some b) :
    (b.mantissa = 0 ∧ ∃ s, x.toModel.unpack = .zero s) ∨
      ∃ s hm, x.toModel.unpack = .finite s b.mantissa b.exponent hm := by
  rw [ofFloat?_eq] at h
  generalize x.toModel.unpack = u at h ⊢
  cases u with
  | notANumber => cases h
  | infinity s => cases h
  | zero s =>
    cases h
    exact .inl ⟨rfl, s, rfl⟩
  | finite s m e hm =>
    cases h
    exact .inr ⟨s, hm, rfl⟩

/-- A mantissa has 53 bits, or fewer at the least exponent. -/
structure IsDouble (b : Binary) : Prop where
  mantissa_lt : b.mantissa < 2 ^ 53
  exponent_le : b.exponent ≤ 971
  bits : 2 ^ 52 ≤ b.mantissa ∨ b.exponent = -1074

theorem isDouble_of_ofFloat? {x : Float} {b : Binary} (h : ofFloat? x = some b) : b.IsDouble := by
  have hfraction : x.toBits.toNat % Nat.pow 2 52 < 2 ^ 52 := Nat.mod_lt _ (by decide)
  have himplicit : Nat.pow 2 52 = 2 ^ 52 := rfl
  unfold ofFloat? at h
  dsimp only at h
  split at h
  · cases h
  · cases h
    exact ⟨hfraction.trans (by decide), (by decide : (-1074 : ℤ) ≤ 971), .inr rfl⟩
  · next hmax _ =>
    have hexponent : x.toBits.toNat / Nat.pow 2 52 % 2048 < 2048 := Nat.mod_lt _ (by decide)
    have hne : x.toBits.toNat / Nat.pow 2 52 % 2048 ≠ 2047 := hmax
    cases h
    refine ⟨?_, ?_, .inl (Nat.le_add_left _ _)⟩
    · dsimp only
      omega
    · dsimp only
      omega

/-- A product of two mantissas has 53 bits as well, or it has a lesser exponent. -/
theorem IsDouble.bits_mul {a b : Binary} (ha : a.IsDouble) (hb : b.IsDouble)
    (hne : a.mantissa * b.mantissa ≠ 0) :
    52 ≤ (a.mantissa * b.mantissa).log2 ∨ a.exponent + b.exponent ≤ -1074 := by
  rw [Nat.le_log2 hne]
  obtain ⟨hane, hbne⟩ := Nat.mul_ne_zero_iff.1 hne
  rcases ha.bits with ha | ha
  · exact .inl (ha.trans (Nat.le_mul_of_pos_right _ (Nat.pos_of_ne_zero hbne)))
  · rcases hb.bits with hb | hb
    · exact .inl (hb.trans (Nat.le_mul_of_pos_left _ (Nat.pos_of_ne_zero hane)))
    · exact .inr (by omega)

/-- The number without its sign. -/
def magnitude (b : Binary) : ℚ := b.mantissa * 2 ^ b.exponent

theorem magnitude_eq_zero {b : Binary} (h : b.mantissa = 0) : b.magnitude = 0 := by
  rw [magnitude, h, Nat.cast_zero, zero_mul]

theorem magnitude_mul (a b : Binary) :
    a.magnitude * b.magnitude =
      ((a.mantissa * b.mantissa : ℕ) : ℚ) * 2 ^ (a.exponent + b.exponent) := by
  rw [Nat.cast_mul, zpow_add₀ two_ne_zero]
  exact mul_mul_mul_comm _ _ _ _

end Binary

end CatalogSync.Decimal
