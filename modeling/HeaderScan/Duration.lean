/-!
# Durations
-/

namespace HeaderScan

/-- A span of time in whole nanoseconds. -/
structure Duration where
  /-- The nanoseconds of the span. -/
  nanoseconds : Nat
deriving DecidableEq

namespace Duration

/-- The span of so many seconds. -/
def ofSeconds (seconds : Nat) : Duration := ⟨seconds * 1000000000⟩

/-- The span of so many milliseconds. -/
def ofMilliseconds (milliseconds : Nat) : Duration := ⟨milliseconds * 1000000⟩

/-- The whole seconds of a span. -/
def seconds (duration : Duration) : Nat := duration.nanoseconds / 1000000000

/-- The nanoseconds of a span beyond its whole seconds. -/
def subsecond (duration : Duration) : Nat := duration.nanoseconds % 1000000000

end Duration

end HeaderScan
