/-!
The value of a sequence of digits in a base. Neighbouring digits are joined to digits of the squared
base until one is left, so that long sequences cost few operations on large numbers.
-/

namespace StreamHttp.Digits

/-- The value of digits, the least significant first. -/
def littleEndian (base : Nat) : List Nat → Nat
  | [] => 0
  | digit :: rest => digit + base * littleEndian base rest

/-- Two neighbouring digits make one digit of the squared base. -/
def pairs (base : Nat) : List Nat → List Nat
  | low :: high :: rest => (low + base * high) :: pairs base rest
  | [digit] => [digit]
  | [] => []

theorem length_pairs_le (base : Nat) (digits : List Nat) :
    (pairs base digits).length ≤ digits.length := by
  fun_induction pairs base digits <;> simp_all
  omega

theorem little_endian_pairs (base : Nat) (digits : List Nat) :
    littleEndian (base * base) (pairs base digits) = littleEndian base digits := by
  fun_induction pairs base digits with
  | case1 low high rest induction =>
      simp only [littleEndian, induction, Nat.mul_add, Nat.add_assoc, Nat.mul_assoc]
  | case2 digit => simp [littleEndian]
  | case3 => rfl

def join (base : Nat) : List Nat → Nat
  | [] => 0
  | [digit] => digit
  | low :: high :: rest => join (base * base) ((low + base * high) :: pairs base rest)
termination_by digits => digits.length
decreasing_by
  have := length_pairs_le base rest
  simp only [List.length_cons]
  omega

theorem join_little_endian (base : Nat) (digits : List Nat) :
    join base digits = littleEndian base digits := by
  fun_induction join base digits with
  | case1 => rfl
  | case2 base digit => simp [littleEndian]
  | case3 base low high rest induction =>
      rw [induction, ← little_endian_pairs base (low :: high :: rest), pairs]

def value (base : Nat) (digits : List Nat) : Nat := join base digits.reverse

end StreamHttp.Digits
