import StreamHttp.Decimal.Binary64

/-!
The shortest decimal that reads back as a given binary floating point value, and of the shortest
ones the nearest, of two equally near ones the even one. For a growing number of digits the two
neighbours of the value on that decimal grid are tested against the interval of numbers that round
to the value.
-/

namespace StreamHttp.Decimal

open Binary64

/-- A decimal `digits * 10 ^ exponent`. -/
structure Short where
  digits : Nat
  exponent : Int
  deriving DecidableEq, Repr

/-- The value and the ends of its rounding interval in quarter units, over a common scale: a grid
point `count` stands for `count * grid`, the number `quarter` for `quarter * unit`. -/
structure Interval where
  value : Nat
  low : Nat
  high : Nat
  closed : Bool
  grid : Nat
  unit : Nat

def Interval.holds (interval : Interval) (count : Nat) : Bool :=
  let point := count * interval.grid
  let low := interval.low * interval.unit
  let high := interval.high * interval.unit
  if interval.closed then low ≤ point && point ≤ high else low < point && point < high

def interval (parts : Parts) (exponent : Int) : Interval :=
  let binary := parts.exponent - 2
  let value := 4 * parts.significand
  { value
    low := if parts.significand == twoTo 52 && parts.exponent > -1074 then value - 1 else value - 2
    high := value + 2
    closed := parts.significand % 2 == 0
    grid := tenTo exponent.toNat * twoTo (-binary).toNat
    unit := twoTo binary.toNat * tenTo (-exponent).toNat }

/-- The neighbour of the value on the grid of `10 ^ exponent` that reads back, the nearer of two. -/
def onGrid (parts : Parts) (exponent : Int) : Option Nat :=
  let interval := interval parts exponent
  let target := interval.value * interval.unit
  let below := target / interval.grid
  let above := below + 1
  match interval.holds below, interval.holds above with
  | true, true => some (roundDiv target interval.grid)
  | true, false => some below
  | false, true => some above
  | false, false => none

/-- The power of ten of the leading digit of `significand * 2 ^ exponent`. -/
def leading (parts : Parts) : Int :=
  let numerator := parts.significand * twoTo parts.exponent.toNat
  let denominator := twoTo (-parts.exponent).toNat
  if denominator ≤ numerator then ((Nat.toDigits 10 (numerator / denominator)).length : Int) - 1
  else
    let inverse := (denominator + numerator - 1) / numerator
    let digits := (Nat.toDigits 10 inverse).length
    if inverse == tenTo (digits - 1) then 1 - (digits : Int) else -(digits : Int)

def dropZeros : Nat → Short → Short
  | 0, short => short
  | fuel + 1, short =>
      if short.digits % 10 == 0 && short.digits != 0 then
        dropZeros fuel ⟨short.digits / 10, short.exponent + 1⟩
      else short

def search (parts : Parts) (lead : Int) : Nat → Int → Short
  | 0, _ => ⟨0, 0⟩
  | fuel + 1, count =>
      let exponent := lead - count + 1
      match onGrid parts exponent with
      | some digits => dropZeros 20 ⟨digits, exponent⟩
      | none => search parts lead fuel (count + 1)

/-- The shortest decimal of a finite magnitude; zero has no digits. -/
def shortest (value : Float) : Short :=
  let parts := parts value
  if parts.significand == 0 then ⟨0, 0⟩ else search parts (leading parts) 18 1

end StreamHttp.Decimal
