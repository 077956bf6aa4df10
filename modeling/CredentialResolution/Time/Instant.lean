/-
This file holds instants in universal time, their order and their differences.
-/

namespace CredentialResolution

/-- A fraction of at least one second stands for the leap second after the named second. -/
structure Instant where
  day : Int
  second : Nat
  nanosecond : Nat
  secondBound : second < 86400
  nanosecondBound : nanosecond < 2000000000
  deriving DecidableEq

namespace Instant

def secondsPerDay : Int := 86400

def nanosecondsPerSecond : Int := 1000000000

/-- The days are counted from the first of January 1970. -/
def ofUnix (seconds : Int) (nanoseconds : Nat) : Instant where
  day := seconds / secondsPerDay
  second := (seconds % secondsPerDay).toNat
  nanosecond := nanoseconds % 2000000000
  secondBound := by simp only [secondsPerDay]; omega
  nanosecondBound := Nat.mod_lt _ (by decide)

def unixSeconds (instant : Instant) : Int :=
  instant.day * secondsPerDay + instant.second

def isLeap (instant : Instant) : Bool :=
  1000000000 ≤ instant.nanosecond

/-- The day decides first, then the second of the day, then the fraction. -/
def before (earlier later : Instant) : Bool :=
  earlier.day < later.day ||
    (earlier.day == later.day &&
      (earlier.second < later.second ||
        (earlier.second == later.second && earlier.nanosecond < later.nanosecond)))

/-- The seconds of the day are one further apart if the smaller one is a leap second. -/
def secondsBetween (earlier later : Instant) : Int :=
  let difference := (later.second : Int) - earlier.second
  if earlier.second < later.second && earlier.isLeap then difference + 1
  else if later.second < earlier.second && later.isLeap then difference - 1
  else difference

/-- The difference is counted in nanoseconds and is negative when the order is reversed. -/
def nanosecondsBetween (earlier later : Instant) : Int :=
  ((later.day - earlier.day) * secondsPerDay + secondsBetween earlier later) *
      nanosecondsPerSecond +
    ((later.nanosecond : Int) - earlier.nanosecond)

/-- This function moves an instant by whole seconds. -/
def addSeconds (instant : Instant) (seconds : Int) : Instant :=
  ofUnix (instant.unixSeconds + seconds) instant.nanosecond

end Instant

end CredentialResolution
