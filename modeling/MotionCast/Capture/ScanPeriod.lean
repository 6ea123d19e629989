import MotionCast.Time

/-! The time from one read of the device to the next, which is tuned while the device runs and stays
in a band. -/

namespace MotionCast

/-- The periods from `low` to `high`, both included. -/
structure Band where
  low : Nanos
  high : Nanos
deriving DecidableEq, Repr

namespace Band

/-- The period lies in the band. -/
def contains (b : Band) (period : Nanos) : Bool := b.low ≤ period && period ≤ b.high

/-- The period of the band nearest to a given one. A band that ends before it begins has none. -/
def clamp? (b : Band) (period : Nanos) : Option Nanos :=
  if b.high < b.low then none else some (max b.low (min b.high period))

end Band

/-- A tuned period with the period that it started from. -/
structure ScanPeriod where
  current : Nanos
  initial : Nanos
  band : Band
deriving DecidableEq, Repr

namespace ScanPeriod

/-- A period that was not tuned yet. The first one need not lie in the band. -/
def new (initial : Nanos) (band : Band) : ScanPeriod := ⟨initial, initial, band⟩

/-- Tunes the period. One outside the band is refused. -/
def trySet (s : ScanPeriod) (period : Nanos) : Bool × ScanPeriod :=
  if s.band.contains period then (true, { s with current := period }) else (false, s)

/-- Undoes all tuning. -/
def reset (s : ScanPeriod) : ScanPeriod := { s with current := s.initial }

end ScanPeriod

end MotionCast
