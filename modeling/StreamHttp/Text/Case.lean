/-!
The case of letters. Only the letters of ASCII have one: 32 code points lie between a letter and the
same letter in the other case, and every other character is both its capital and its small form.
-/

namespace StreamHttp.Case

theorem to_nat_to_upper (char : Char) :
    char.toUpper.toNat =
      if 97 ≤ char.toNat ∧ char.toNat ≤ 122 then char.toNat - 32 else char.toNat := by
  have small : ('a'.val ≤ char.val ∧ char.val ≤ 'z'.val) ↔
      97 ≤ char.toNat ∧ char.toNat ≤ 122 := by
    simp only [UInt32.le_iff_toNat_le]
    exact Iff.rfl
  by_cases letter : 97 ≤ char.toNat ∧ char.toNat ≤ 122
  · have raised : (char.val + ('A'.val - 'a'.val)).toNat =
        (char.toNat + 4294967264) % 4294967296 := UInt32.toNat_add char.val _
    delta Char.toUpper
    rw [dif_pos (small.2 letter), if_pos letter]
    exact raised.trans (by omega)
  · delta Char.toUpper
    rw [dif_neg (mt small.1 letter), if_neg letter]

theorem to_nat_to_lower (char : Char) :
    char.toLower.toNat =
      if 65 ≤ char.toNat ∧ char.toNat ≤ 90 then char.toNat + 32 else char.toNat := by
  have capital : (char.val ≥ 'A'.val ∧ char.val ≤ 'Z'.val) ↔
      65 ≤ char.toNat ∧ char.toNat ≤ 90 := by
    simp only [ge_iff_le, UInt32.le_iff_toNat_le]
    exact Iff.rfl
  by_cases letter : 65 ≤ char.toNat ∧ char.toNat ≤ 90
  · have lowered : (char.val + ('a'.val - 'A'.val)).toNat = (char.toNat + 32) % 4294967296 :=
      UInt32.toNat_add char.val _
    delta Char.toLower
    rw [dif_pos (capital.2 letter), if_pos letter]
    exact lowered.trans (by omega)
  · delta Char.toLower
    rw [dif_neg (mt capital.1 letter), if_neg letter]

theorem to_upper_to_upper (char : Char) : char.toUpper.toUpper = char.toUpper := by
  apply Char.toNat_inj.1
  grind [to_nat_to_upper]

theorem to_lower_to_lower (char : Char) : char.toLower.toLower = char.toLower := by
  apply Char.toNat_inj.1
  grind [to_nat_to_lower]

theorem to_upper_to_lower (char : Char) : char.toLower.toUpper = char.toUpper := by
  apply Char.toNat_inj.1
  grind [to_nat_to_upper, to_nat_to_lower]

theorem to_lower_to_upper (char : Char) : char.toUpper.toLower = char.toLower := by
  apply Char.toNat_inj.1
  grind [to_nat_to_upper, to_nat_to_lower]

theorem to_upper_hyphen (char : Char) : (char.toUpper == '-') = (char == '-') := by
  have value : '-'.toNat = 45 := rfl
  rw [Bool.eq_iff_iff, beq_iff_eq, beq_iff_eq, ← Char.toNat_inj, ← Char.toNat_inj, to_nat_to_upper,
    value]
  grind

theorem to_lower_hyphen (char : Char) : (char.toLower == '-') = (char == '-') := by
  have value : '-'.toNat = 45 := rfl
  rw [Bool.eq_iff_iff, beq_iff_eq, beq_iff_eq, ← Char.toNat_inj, ← Char.toNat_inj, to_nat_to_lower,
    value]
  grind

end StreamHttp.Case
