import Distill.Text.Digits

/-!
Durations, instants, clocks and timing records. Durations are signed 64-bit counts of nanoseconds whose sums wrap
around; instants are exact; the difference of two instants is clamped to the range of durations.
-/
namespace Distill

/-- Nanoseconds, in 64 bits. -/
abbrev Duration := Int64

/-- Nanoseconds since the epoch. -/
abbrev Instant := Int

namespace Duration

/-- The time from one instant to another, clamped to 64 bits. -/
def between (earlier later : Instant) : Duration :=
  Int64.ofInt (max Int64.minValue.toInt (min Int64.maxValue.toInt (later - earlier)))

/-- Whole milliseconds, rounded toward zero. -/
def milliseconds (d : Duration) : Int := d.toInt.tdiv 1000000

/-- Whole seconds, a dot, and the milliseconds of the rest in at least three characters. -/
def seconds (d : Duration) : String :=
  toString (d.toInt.tdiv 1000000000) ++ "." ++
    Text.paddedInt 3 ((d.toInt.tmod 1000000000).tdiv 1000000)

/-- The digits of `n` after the point in a number with `places` decimals, without trailing zeros,
and the point unless no digit is left. -/
def fraction (places n : Nat) : String :=
  let digits := Nat.toDigits 10 n
  let padded := List.replicate (places - digits.length) '0' ++ digits
  match (padded.reverse.dropWhile (· == '0')).reverse with
  | [] => ""
  | kept => String.ofList ('.' :: kept)

/-- A number of `unit`s of which `n` is the count in the unit's `10 ^ places`-th part. -/
def decimal (places n : Nat) (unit : String) : String :=
  toString (n / Nat.pow 10 places) ++ fraction places (n % Nat.pow 10 places) ++ unit

/-- The text of a non-negative time: one unit below a second, hours, minutes and seconds above. -/
def textOfNat (n : Nat) : String :=
  if n = 0 then "0s"
  else if n < 1000 then decimal 0 n "ns"
  else if n < 1000000 then decimal 3 n "µs"
  else if n < 1000000000 then decimal 6 n "ms"
  else
    let total := n / 1000000000
    let secs := decimal 9 (total % 60 * 1000000000 + n % 1000000000) "s"
    if total < 60 then secs
    else if total < 3600 then toString (total / 60) ++ "m" ++ secs
    else toString (total / 3600) ++ "h" ++ toString (total / 60 % 60) ++ "m" ++ secs

def text (d : Duration) : String :=
  if d.toInt < 0 then "-" ++ textOfNat d.toInt.natAbs else textOfNat d.toInt.natAbs

end Duration

/-- A clock that moves by `step` with every reading. -/
structure Clock where
  now : Instant
  step : Duration
deriving DecidableEq, Repr

namespace Clock

/-- A clock whose first reading is the epoch. -/
def stepping (step : Duration) : Clock := ⟨0, step⟩

/-- The current instant and the clock after this reading. -/
def read (c : Clock) : Instant × Clock := (c.now, { c with now := c.now + c.step.toInt })

end Clock

/-- An open timing record. -/
structure Stopwatch where
  file : String
  opened : Instant
deriving DecidableEq, Repr

/-- How long one file took. -/
structure Timing where
  file : String
  elapsed : Duration
deriving DecidableEq, Repr

/-- How many files, and how long they took together. -/
structure Total where
  files : Int
  elapsed : Duration
deriving DecidableEq, Repr

/-- Opens a record at the clock's next reading. -/
def Stopwatch.start (clock : Clock) (file : String) : Stopwatch × Clock :=
  let (now, clock) := clock.read
  (⟨file, now⟩, clock)

/-- Closes a record at the clock's next reading. -/
def Stopwatch.stop (watch : Stopwatch) (clock : Clock) : Timing × Clock :=
  let (now, clock) := clock.read
  (⟨watch.file, Duration.between watch.opened now⟩, clock)

namespace Total

def zero : Total := ⟨0, 0⟩

def add (t : Total) (r : Timing) : Total := ⟨t.files + 1, t.elapsed + r.elapsed⟩

/-- The count and the wrapping sum of some records. -/
def ofList (rs : List Timing) : Total := rs.foldl add zero

end Total

/-- The records of a run in the order in which they came in. -/
structure Collector where
  records : List Timing
deriving DecidableEq, Repr

namespace Collector

def empty : Collector := ⟨[]⟩

def add (c : Collector) (r : Timing) : Collector := ⟨c.records ++ [r]⟩

def append (c : Collector) (rs : List Timing) : Collector := ⟨c.records ++ rs⟩

def total (c : Collector) : Total := Total.ofList c.records

end Collector

end Distill
