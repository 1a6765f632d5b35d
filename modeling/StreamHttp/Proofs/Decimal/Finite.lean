import Mathlib
import StreamHttp.Decimal.Literal

/-!
Decimal literals have finite values. A quotient that is rounded to the nearest value keeps within 53
bits, so its parts make the bits of a finite value or of infinity, and infinity is no value of a
literal.
-/

namespace StreamHttp

namespace Binary64

open Float.Model (Format UnpackedFloat)
open Float.Model.UnpackedFloat

def Bounded (bits : UInt64) : Prop := @unpackExponent Format.binary64 bits.toBitVec ≠ -1#11

theorem finite_iff {value : Float} : value.isFinite = true ↔ Bounded value.toBits := by
  change (unpack Format.binary64 value.toBits.toBitVec).isFinite = true ↔ Bounded value.toBits
  unfold unpack Bounded
  dsimp only
  split
  next all =>
    split
    · exact iff_of_false Bool.false_ne_true (not_not_intro all)
    · exact iff_of_false Bool.false_ne_true (not_not_intro all)
  next some =>
    split
    · split
      · exact iff_of_true rfl some
      · exact iff_of_true rfl some
    · exact iff_of_true rfl some

theorem pack_unpack_bounded {bits : UInt64} (bounded : Bounded bits) :
    (unpack Format.binary64 bits.toBitVec).pack Format.binary64 = bits.toBitVec := by
  have ordinary : @isNaNBits Format.binary64 bits.toBitVec = false :=
    decide_eq_false fun nan => bounded nan.1
  rw [pack_unpack, ordinary, if_neg Bool.false_ne_true]

theorem to_bits_of_bits {bits : UInt64} (bounded : Bounded bits) :
    (Float.ofBits bits).toBits = bits := by
  refine UInt64.toBitVec_inj.1 ?_
  exact pack_unpack_bounded bounded

theorem finite_of_bits {bits : UInt64} (bounded : Bounded bits) :
    (Float.ofBits bits).isFinite = true := by
  rw [finite_iff, to_bits_of_bits bounded]
  exact bounded

theorem finite_neg {value : Float} (finite : value.isFinite = true) : (-value).isFinite = true := by
  rw [finite_iff] at *
  let bits : BitVec Format.binary64.numBits := value.toBits.toBitVec
  let flipped : BitVec Format.binary64.numBits :=
    packComponents Format.binary64 (-Sign.ofBitVec (unpackSign bits)) (unpackExponent bits)
      (unpackMantissa bits)
  have bounded : Bounded ⟨flipped⟩ := by
    unfold Bounded
    rw [unpackExponent_packComponents]
    exact finite
  have unpacked : unpack Format.binary64 flipped = (unpack Format.binary64 bits).neg := by
    unfold unpack
    simp only [flipped, unpackExponent_packComponents, unpackMantissa_packComponents,
      unpackSign_packComponents, Sign.ofBitVec_toBitVec]
    split
    next all => exact absurd all finite
    next =>
      split
      · split <;> rfl
      · rfl
  have same : (-value).toBits = ⟨flipped⟩ := by
    refine UInt64.toBitVec_inj.1 ?_
    change (unpack Format.binary64 bits).neg.pack Format.binary64 = flipped
    rw [← unpacked]
    exact pack_unpack_bounded bounded
  rw [same]
  exact bounded

theorem bounded_of_lt {bits : Nat} (small : bits < 2047 * twoTo 52) : Bounded (UInt64.ofNat bits) := by
  intro all
  have field := congrArg BitVec.toNat all
  rw [unpackExponent_def] at field
  simp [twoTo, BitVec.extractLsb'_toNat, Nat.shiftRight_eq_div_pow] at field small
  omega

/-- The quotient is below a power of two, in units of another. -/
def Below (numerator denominator count : Nat) (unit : Int) : Prop :=
  scaleUp numerator (-unit) < scaleUp denominator unit * twoTo count

variable {numerator denominator count : Nat} {unit : Int}

theorem two_to_succ (exponent : Nat) : twoTo (exponent + 1) = 2 * twoTo exponent :=
  Nat.pow_succ'

theorem two_to_add (exponent other : Nat) : twoTo (exponent + other) = twoTo exponent * twoTo other :=
  Nat.pow_add 2 exponent other

theorem below_half (below : Below numerator denominator count unit) :
    Below numerator denominator (count + 1) (unit - 1) := by
  unfold Below scaleUp at *
  rw [two_to_succ]
  rcases Int.lt_or_le 0 unit with pos | nonpos
  · have left : (-(unit - 1)).toNat = (-unit).toNat := by omega
    have right : unit.toNat = (unit - 1).toNat + 1 := by omega
    rw [right, two_to_succ] at below
    rw [left]
    nlinarith
  · have left : (-(unit - 1)).toNat = (-unit).toNat + 1 := by omega
    have right : (unit - 1).toNat = unit.toNat := by omega
    rw [left, right, two_to_succ]
    nlinarith

theorem below_next (below : Below numerator denominator count unit) :
    Below numerator denominator count (unit + 1) := by
  unfold Below scaleUp at *
  rcases Int.lt_or_le unit 0 with neg | nonneg
  · have left : (-unit).toNat = (-(unit + 1)).toNat + 1 := by omega
    have right : (unit + 1).toNat = unit.toNat := by omega
    rw [left, two_to_succ] at below
    rw [right]
    refine lt_of_le_of_lt (Nat.mul_le_mul_left numerator ?_) below
    omega
  · have left : (-(unit + 1)).toNat = (-unit).toNat := by omega
    have right : (unit + 1).toNat = unit.toNat + 1 := by omega
    rw [left, right, two_to_succ]
    refine below.trans_le ?_
    nlinarith [Nat.zero_le (denominator * twoTo unit.toNat * twoTo count)]

theorem below_of_le (below : Below numerator denominator count unit) {other : Int}
    (larger : unit ≤ other) : Below numerator denominator count other := by
  induction other, larger using Int.leInduction with
  | base => exact below
  | succ other _ induction => exact below_next induction

theorem below_log (positive : 0 < denominator) :
    Below numerator denominator (count + 1) ((numerator.log2 : Int) - denominator.log2 - count) := by
  have above : numerator < twoTo (numerator.log2 + 1) := Nat.lt_log2_self
  have under : twoTo denominator.log2 ≤ denominator := Nat.log2_self_le positive.ne'
  unfold Below scaleUp
  generalize shift : (numerator.log2 : Int) - denominator.log2 - count = unit
  have exponents : numerator.log2 + 1 + (-unit).toNat =
      denominator.log2 + unit.toNat + (count + 1) := by omega
  calc numerator * twoTo (-unit).toNat
      < twoTo (numerator.log2 + 1) * twoTo (-unit).toNat :=
        Nat.mul_lt_mul_of_pos_right above (Nat.two_pow_pos _)
    _ = twoTo denominator.log2 * twoTo unit.toNat * twoTo (count + 1) := by
        rw [← two_to_add, exponents, two_to_add, two_to_add]
    _ ≤ denominator * twoTo unit.toNat * twoTo (count + 1) :=
        Nat.mul_le_mul_right _ (Nat.mul_le_mul_right _ under)

/-- What is below a power of two is not rounded beyond it. -/
theorem round_div_le (below : Below numerator denominator count unit) :
    roundDiv (scaleUp numerator (-unit)) (scaleUp denominator unit) ≤ twoTo count := by
  refine (round_div_bounds _ _).2.trans ?_
  exact Nat.div_lt_of_lt_mul below

/-- A significand of 53 bits and a unit make the bits of a finite value, or of infinity. -/
theorem assembled_bits {significand : Nat} {unit : Int} (normal : significand < twoTo 53)
    (least : -1074 ≤ unit) :
    ∃ bits ≤ 2047 * twoTo 52,
      (if unit > 971 then Float.ofBits (UInt64.ofNat (2047 * twoTo 52))
      else if significand < twoTo 52 then Float.ofBits (UInt64.ofNat significand)
      else Float.ofBits (UInt64.ofNat ((unit + 1075).toNat * twoTo 52 + (significand - twoTo 52)))) =
        Float.ofBits (UInt64.ofNat bits) := by
  have double : twoTo 53 = 2 * twoTo 52 := two_to_succ 52
  split
  · exact ⟨_, le_refl _, rfl⟩
  next high =>
    split
    next subnormal => exact ⟨significand, by omega, rfl⟩
    next =>
      refine ⟨_, ?_, rfl⟩
      have field : (unit + 1075).toNat + 1 ≤ 2047 := by omega
      have whole := Nat.mul_le_mul_right (twoTo 52) field
      rw [Nat.add_mul] at whole
      omega

theorem nearest_bits (positive : 0 < denominator) :
    ∃ bits ≤ 2047 * twoTo 52, nearest numerator denominator = Float.ofBits (UInt64.ofNat bits) := by
  unfold nearest
  split
  · exact ⟨0, Nat.zero_le _, rfl⟩
  · extract_lets guess lowered unit significand
    have below : Below numerator denominator 53 lowered := by
      unfold lowered
      split
      next small => exact below_half small
      next => exact below_log positive
    have least : -1074 ≤ unit := by
      unfold unit
      split
      · exact le_refl _
      · omega
    have below : Below numerator denominator 53 unit := by
      unfold unit
      split
      next small => exact below_of_le below small.le
      next => exact below
    have bounded : significand ≤ twoTo 53 := round_div_le below
    clear_value significand unit
    by_cases carried : significand = twoTo 53
    · rw [if_pos (beq_iff_eq.2 carried)]
      exact assembled_bits (Nat.pow_lt_pow_right (by omega) (by omega)) (by omega)
    · rw [if_neg (by simpa using carried)]
      exact assembled_bits (lt_of_le_of_ne bounded carried) least

theorem of_decimal_bits (significand : Nat) (exponent : Int) :
    ∃ bits ≤ 2047 * twoTo 52,
      ofDecimal significand exponent = Float.ofBits (UInt64.ofNat bits) := by
  unfold ofDecimal
  split
  · exact ⟨0, Nat.zero_le _, rfl⟩
  · split
    · exact ⟨_, le_refl _, rfl⟩
    · exact nearest_bits (Nat.pow_pos (by decide))

theorem of_decimal_finite {significand : Nat} {exponent : Int}
    (bounded : (ofDecimal significand exponent).isInf = false) :
    (ofDecimal significand exponent).isFinite = true := by
  obtain ⟨bits, most, same⟩ := of_decimal_bits significand exponent
  rw [same] at bounded ⊢
  rcases Nat.lt_or_eq_of_le most with small | rfl
  · exact finite_of_bits (bounded_of_lt small)
  · revert bounded
    decide +kernel

end Binary64

namespace Decimal

theorem finite_of_parts {negative : Bool} {significand : Nat} {exponent : Int} {value : Float}
    (read : (if (Binary64.ofDecimal significand exponent).isInf = true then none
      else some (if negative = true then -Binary64.ofDecimal significand exponent
        else Binary64.ofDecimal significand exponent)) = some value) : value.isFinite = true := by
  split at read
  · cases read
  next ordinary =>
    have finite := Binary64.of_decimal_finite (Bool.eq_false_iff.2 ordinary)
    cases read
    split
    · exact Binary64.finite_neg finite
    · exact finite

theorem parse_finite {text : String} {value : Float} (read : parse? text = some value) :
    value.isFinite = true := by
  unfold parse? at read
  simp only [Option.ite_none_left_eq_some] at read
  obtain ⟨_, read⟩ := read
  split at read
  · cases read
  · exact finite_of_parts read

end Decimal

end StreamHttp
