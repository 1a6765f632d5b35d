/-!
Binary floating point of 64 bits, taken apart into an integer and a power of two and put together
again. `nearest` rounds a quotient of two natural numbers to the nearest value, a tie to the even
one, in exact arithmetic.
-/

namespace StreamHttp.Binary64

def twoTo (exponent : Nat) : Nat := Nat.pow 2 exponent

def tenTo (exponent : Nat) : Nat := Nat.pow 10 exponent

/-- A finite magnitude `significand * 2 ^ exponent`. -/
structure Parts where
  significand : Nat
  exponent : Int

def parts (value : Float) : Parts :=
  let bits : Nat := value.toBits.toNat
  let fraction : Nat := bits % twoTo 52
  let field : Nat := bits / twoTo 52 % twoTo 11
  if field == 0 then ⟨fraction, -1074⟩ else ⟨fraction + twoTo 52, (field : Int) - 1075⟩

def isNegative (value : Float) : Bool := twoTo 63 ≤ value.toBits.toNat

/-- The quotient rounded to the nearest integer, a tie to the even one. -/
def roundDiv (numerator denominator : Nat) : Nat :=
  let quotient := numerator / denominator
  let twice := 2 * (numerator % denominator)
  if twice > denominator || (twice == denominator && quotient % 2 == 1) then quotient + 1
  else quotient

theorem round_div_bounds (numerator denominator : Nat) :
    numerator / denominator ≤ roundDiv numerator denominator ∧
      roundDiv numerator denominator ≤ numerator / denominator + 1 := by
  simp only [roundDiv]
  split <;> omega

def scaleUp (value : Nat) (exponent : Int) : Nat := value * twoTo exponent.toNat

/-- The value nearest to the quotient; infinity from half a unit above the greatest value on. -/
def nearest (numerator denominator : Nat) : Float :=
  if numerator == 0 then Float.ofBits 0
  else
    let guess : Int := (numerator.log2 : Int) - denominator.log2 - 52
    let guess :=
      if scaleUp numerator (-guess) < scaleUp denominator guess * twoTo 52 then guess - 1 else guess
    let exponent := if guess < -1074 then -1074 else guess
    let significand := roundDiv (scaleUp numerator (-exponent)) (scaleUp denominator exponent)
    let (significand, exponent) :=
      if significand == twoTo 53 then (twoTo 52, exponent + 1) else (significand, exponent)
    if exponent > 971 then Float.ofBits (UInt64.ofNat (2047 * twoTo 52))
    else if significand < twoTo 52 then Float.ofBits (UInt64.ofNat significand)
    else Float.ofBits (UInt64.ofNat ((exponent + 1075).toNat * twoTo 52 + (significand - twoTo 52)))

/-- The value nearest to `significand * 10 ^ exponent`. A magnitude of `10 ^ 401` or more, and one
below `2 ^ -1200`, is decided without computing the power. -/
def ofDecimal (significand : Nat) (exponent : Int) : Float :=
  if significand == 0 || (significand.log2 : Int) + 1 + 3 * exponent < -1200 then Float.ofBits 0
  else if exponent > 400 then Float.ofBits (UInt64.ofNat (2047 * twoTo 52))
  else nearest (significand * tenTo exponent.toNat) (tenTo (-exponent).toNat)

def ofNat (value : Nat) : Float := nearest value 1

def ofInt (value : Int) : Float :=
  if value < 0 then -(ofNat value.natAbs) else ofNat value.natAbs

end StreamHttp.Binary64
