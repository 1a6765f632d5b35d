import StreamHttp.Text.Numeral

/-!
Faults. A program that asks for more than its machine can count or hold is ended on the spot. A run
is told to its end all the same, with the first fault beside it: from the fault on, what it tells
is void.
-/

namespace StreamHttp

inductive Fault where
  /-- Room was to be reserved for more bytes than there can be. -/
  | capacity
  /-- A sum was too large for a word. -/
  | overflow
  deriving DecidableEq, Repr

namespace Fault

def message : Fault → String
  | .capacity => "capacity overflow"
  | .overflow => "attempt to add with overflow"

/-- The most bytes that room can be reserved for at once. -/
def mostRoom : Nat := i64Max

def ofRoom? (bytes : Nat) : Option Fault := if mostRoom < bytes then some .capacity else none

/-- Adding one to a word. -/
def ofSuccessor? (word : Nat) : Option Fault := if word < u64Max then none else some .overflow

theorem of_room_none {bytes : Nat} : ofRoom? bytes = none ↔ bytes ≤ mostRoom := by
  unfold ofRoom?
  split
  next beyond => exact iff_of_false nofun (Nat.not_le.2 beyond)
  next within => exact iff_of_true rfl (Nat.le_of_not_lt within)

theorem of_successor_none {word : Nat} : ofSuccessor? word = none ↔ word < u64Max := by
  unfold ofSuccessor?
  split
  next below => exact iff_of_true rfl below
  next top => exact iff_of_false nofun top

end Fault

end StreamHttp
