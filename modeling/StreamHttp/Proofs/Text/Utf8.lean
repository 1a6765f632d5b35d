import StreamHttp.Text.Utf8

/-!
UTF-8 is read back as it was written. Strict reading of written characters gives them again, and
lossy reading is strict reading wherever that succeeds.
-/

namespace StreamHttp.Utf8

theorem lead_alone : ∀ value < 128, lead? (UInt8.ofNat value) = some ⟨0, 0x80, 0xBF, value⟩ := by
  decide

theorem lead_pair : ∀ high < 32, 2 ≤ high →
    lead? (UInt8.ofNat (high % 32 + 0xC0)) = some ⟨1, 0x80, 0xBF, high⟩ := by
  decide

theorem lead_triple : ∀ high < 16,
    lead? (UInt8.ofNat (high % 16 + 0xE0)) =
      some ⟨2, if high = 0 then 0xA0 else 0x80, if high = 13 then 0x9F else 0xBF, high⟩ := by
  decide

theorem lead_quadruple : ∀ high < 5,
    lead? (UInt8.ofNat (high % 8 + 0xF0)) =
      some ⟨3, if high = 0 then 0x90 else 0x80, if high = 4 then 0x8F else 0xBF, high⟩ := by
  decide

theorem to_nat_of_nat {value : Nat} (small : value < 256) : (UInt8.ofNat value).toNat = value := by
  rw [UInt8.toNat_ofNat']
  exact Nat.mod_eq_of_lt small

theorem tail_continues {least greatest : Byte} {value : Nat} (low : least.toNat ≤ value % 64 + 128)
    (high : value % 64 + 128 ≤ greatest.toNat) (following bits taken : Nat) (rest : Bytes) :
    tail (following + 1) least greatest bits taken (UInt8.ofNat (value % 64 + 0x80) :: rest) =
      tail following 0x80 0xBF (bits * 64 + value % 64) (taken + 1) rest := by
  have small : value % 64 < 64 := Nat.mod_lt _ (by decide)
  have byte := to_nat_of_nat (show value % 64 + 0x80 < 256 by omega)
  have admitted : (decide (least ≤ UInt8.ofNat (value % 64 + 0x80)) &&
      decide (UInt8.ofNat (value % 64 + 0x80) ≤ greatest)) = true := by
    simp only [Bool.and_eq_true, decide_eq_true_eq, UInt8.le_iff_toNat_le, byte]
    exact ⟨low, high⟩
  have digit : (UInt8.ofNat (value % 64 + 0x80)).toNat % 64 = value % 64 := by
    rw [byte]
    omega
  rw [tail, if_pos admitted, digit]

theorem scalar_value (char : Char) :
    char.val.toNat < 0xD800 ∨ (0xDFFF < char.val.toNat ∧ char.val.toNat < 0x110000) := char.valid

/-- A character is read back from its own bytes. -/
theorem step_encode (char : Char) (rest : Bytes) :
    ∃ byte following, String.utf8EncodeChar char = byte :: following ∧
      step byte (following ++ rest) = .char char rest := by
  have same : Char.ofNat char.val.toNat = char := Char.ofNat_toNat char
  have valid := scalar_value char
  simp only [String.utf8EncodeChar]
  generalize char.val.toNat = value at same valid ⊢
  by_cases one : value ≤ 0x7F
  · refine ⟨_, _, if_pos one, ?_⟩
    have lead := lead_alone value (by omega)
    simp only [step, lead, tail, same, List.nil_append]
  rw [if_neg one]
  by_cases two : value ≤ 0x7FF
  · refine ⟨_, _, if_pos two, ?_⟩
    have lead := lead_pair (value / 64) (by omega) (by omega)
    simp only [step, lead, List.cons_append, List.nil_append]
    rw [tail_continues (by simp) (by simp; omega), tail]
    rw [show value / 64 * 64 + value % 64 = value by omega, same]
  rw [if_neg two]
  by_cases three : value ≤ 0xFFFF
  · refine ⟨_, _, if_pos three, ?_⟩
    have lead := lead_triple (value / 4096) (by omega)
    simp only [step, lead, List.cons_append, List.nil_append]
    rw [tail_continues, tail_continues (by simp) (by simp; omega), tail]
    · rw [show (value / 4096 * 64 + value / 64 % 64) * 64 + value % 64 = value by omega, same]
    · split
      · simp
        omega
      · simp
    · split
      · simp
        omega
      · simp
        omega
  rw [if_neg three]
  · refine ⟨_, _, rfl, ?_⟩
    have lead := lead_quadruple (value / 262144) (by omega)
    simp only [step, lead, List.cons_append, List.nil_append]
    rw [tail_continues, tail_continues (by simp) (by simp; omega),
      tail_continues (by simp) (by simp; omega), tail]
    · rw [show ((value / 262144 * 64 + value / 4096 % 64) * 64 + value / 64 % 64) * 64 +
        value % 64 = value by omega, same]
    · split
      · simp
        omega
      · simp
    · split
      · simp
        omega
      · simp
        omega

theorem encoded_ascii {char : Char} {byte : Byte} (member : byte ∈ String.utf8EncodeChar char)
    (ascii : byte.toNat < 128) : char = Char.ofNat byte.toNat := by
  have same : Char.ofNat char.val.toNat = char := Char.ofNat_toNat char
  have valid := scalar_value char
  simp only [String.utf8EncodeChar] at member
  generalize char.val.toNat = value at same valid member
  have high {offset digit : Nat} (equal : byte = UInt8.ofNat (digit + offset))
      (large : 128 ≤ offset) (bounded : digit + offset < 256) : False := by
    rw [equal, to_nat_of_nat bounded] at ascii
    omega
  split at member
  · rw [List.mem_singleton.1 member, to_nat_of_nat (by omega), same]
  · split at member
    · simp only [List.mem_cons, List.not_mem_nil, or_false] at member
      rcases member with equal | equal
      · exact (high equal (by decide) (by omega)).elim
      · exact (high equal (by decide) (by omega)).elim
    · split at member
      · simp only [List.mem_cons, List.not_mem_nil, or_false] at member
        rcases member with equal | equal | equal
        · exact (high equal (by decide) (by omega)).elim
        · exact (high equal (by decide) (by omega)).elim
        · exact (high equal (by decide) (by omega)).elim
      · simp only [List.mem_cons, List.not_mem_nil, or_false] at member
        rcases member with equal | equal | equal | equal
        · exact (high equal (by decide) (by omega)).elim
        · exact (high equal (by decide) (by omega)).elim
        · exact (high equal (by decide) (by omega)).elim
        · exact (high equal (by decide) (by omega)).elim

/-- A byte of ASCII is written for its own character only. -/
theorem ascii_encoded {chars : List Char} {byte : Byte} (member : byte ∈ Bytes.ofChars chars)
    (ascii : byte.toNat < 128) : Char.ofNat byte.toNat ∈ chars := by
  obtain ⟨char, listed, encoded⟩ := List.mem_flatMap.1 member
  rw [← encoded_ascii encoded ascii]
  exact listed

theorem feed_encoded {chars : List Char} (member : Byte.lf ∈ Bytes.ofChars chars) :
    '\n' ∈ chars :=
  ascii_encoded member (by decide)

theorem decode_from_encoded (index : Nat) (chars : List Char) :
    decodeFrom index (Bytes.ofChars chars) = .ok chars := by
  induction chars generalizing index with
  | nil => simp [Bytes.ofChars, decodeFrom]
  | cons char rest induction =>
      obtain ⟨byte, following, encoded, read⟩ := step_encode char (Bytes.ofChars rest)
      have bytes : Bytes.ofChars (char :: rest) = byte :: (following ++ Bytes.ofChars rest) := by
        simp only [Bytes.ofChars, List.flatMap_cons, encoded, List.cons_append]
      rw [bytes, decodeFrom]
      split
      next found =>
        rw [read] at found
        cases found
        rw [induction]
        rfl
      next found => rw [read] at found; cases found
      next found => rw [read] at found; cases found

theorem decode_encoded (chars : List Char) :
    decode? (Bytes.ofChars chars) = some (String.ofList chars) := by
  rw [decode?, decode, decode_from_encoded]
  rfl

theorem lossy_of_decoded {index : Nat} {input : Bytes} {chars : List Char}
    (decoded : decodeFrom index input = .ok chars) : lossyChars input = chars := by
  fun_induction lossyChars input generalizing index chars with
  | case1 =>
      rw [decodeFrom] at decoded
      cases decoded
      rfl
  | case2 byte input char rest read smaller induction =>
      rw [decodeFrom] at decoded
      split at decoded
      next found =>
        rw [read] at found
        cases found
        cases later : decodeFrom (index + char.utf8Size) rest with
        | error problem => rw [later] at decoded; cases decoded
        | ok others =>
            rw [later] at decoded
            cases decoded
            rw [induction later]
      next found => cases decoded
      next found => cases decoded
  | case3 byte input length rest read smaller induction =>
      rw [decodeFrom] at decoded
      split at decoded
      next found => rw [read] at found; cases found
      next found => cases decoded
      next found => cases decoded
  | case4 byte input length read =>
      rw [decodeFrom] at decoded
      split at decoded
      next found => rw [read] at found; cases found
      next found => cases decoded
      next found => cases decoded

theorem lossy_decode {input : Bytes} {text : String} (decoded : decode? input = some text) :
    lossyChars input = text.toList := by
  unfold decode? decode at decoded
  cases strict : decodeFrom 0 input with
  | error problem => rw [strict] at decoded; cases decoded
  | ok chars =>
      rw [strict] at decoded
      cases decoded
      rw [lossy_of_decoded strict]
      exact String.toList_ofList.symm

end StreamHttp.Utf8
