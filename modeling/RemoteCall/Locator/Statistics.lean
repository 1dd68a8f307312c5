/-
Call statistics of instances.

A record counts a call and its time in whole milliseconds, in words of 64 bits
that wrap around; the maxima are kept apart for failures and successes. The book
keeps one account for each instance code.
-/
import RemoteCall.Attributes

namespace RemoteCall

/-- A span of time, in nanoseconds. -/
structure Elapsed where
  nanos : Nat
deriving DecidableEq, Repr

namespace Elapsed

/-- A span of seconds and nanoseconds. -/
def ofParts (seconds nanos : Nat) : Elapsed := ⟨seconds * 1000000000 + nanos⟩

/-- The whole milliseconds, modulo 2^64. -/
def millis (e : Elapsed) : UInt64 := UInt64.ofNat (e.nanos / 1000000)

end Elapsed

/-- What is counted for one instance. -/
structure Statistics where
  total : UInt64 := 0
  failed : UInt64 := 0
  totalElapsed : UInt64 := 0
  failedElapsed : UInt64 := 0
  maxElapsed : UInt64 := 0
  failedMaxElapsed : UInt64 := 0
  succeededMaxElapsed : UInt64 := 0
deriving DecidableEq, Repr, Inhabited

namespace Statistics

/-- Counts one call. -/
def record (s : Statistics) (elapsed : Elapsed) (succeeded : Bool) : Statistics :=
  let millis := elapsed.millis
  let counted := { s with
    total := s.total + 1
    totalElapsed := s.totalElapsed + millis
    maxElapsed := max s.maxElapsed millis }
  if succeeded then
    { counted with succeededMaxElapsed := max s.succeededMaxElapsed millis }
  else
    { counted with
      failed := s.failed + 1
      failedElapsed := s.failedElapsed + millis
      failedMaxElapsed := max s.failedMaxElapsed millis }

/-- The calls that did not fail; none when the counters say that more failed than there were. -/
def succeeded (s : Statistics) : UInt64 :=
  if s.failed ≤ s.total then s.total - s.failed else 0

/-- The average time of a call, zero without any. -/
def averageElapsed (s : Statistics) : UInt64 :=
  if s.total = 0 then 0 else s.totalElapsed / s.total

end Statistics

/-- Accounts by instance code. -/
abbrev StatusBook := Table Statistics

namespace StatusBook

/-- Counts one call of an instance. -/
def record (book : StatusBook) (code : String) (elapsed : Elapsed) (succeeded : Bool) :
    StatusBook :=
  book.insert code (((book[code]?).getD {}).record elapsed succeeded)

/-- Closes an account; also what was in it. -/
def remove (book : StatusBook) (code : String) : Option Statistics × StatusBook :=
  (book[code]?, book.erase code)

end StatusBook

end RemoteCall
