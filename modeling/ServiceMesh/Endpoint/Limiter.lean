-- Rate limiters. A limiter lets a burst of calls through and gives one call back in every
-- period. It keeps one number: the instant at which all its calls will have been given back, plus
-- one period.
import ServiceMesh.Failure.Basic
import ServiceMesh.Telemetry.Act

namespace ServiceMesh

/-- How many calls may come at once, and the nanoseconds that give one of them back. -/
structure Quota where
  burst : Nat
  period : Nat
  deriving DecidableEq, Repr

namespace Quota

/-- The milliseconds between calls given back, for so many attempts in a window of seconds. -/
def periodMillis (attempts windowSeconds : Nat) : Nat :=
  max (windowSeconds * 1000 / max 1 attempts) 1

/-- So many attempts in a window of seconds, all of which may come at once. No attempts count
as one. -/
def perWindow (attempts windowSeconds : Nat) : Except Crash Quota :=
  if UInt64.size ≤ windowSeconds * 1000 then .error (.other "attempt to multiply with overflow")
  else
    let burst := max 1 attempts
    let period := periodMillis attempts windowSeconds * 1000000
    if UInt64.size ≤ period * burst then
      .error (.other "Duration is longer than 584 years: TryFromIntError(())")
    else .ok ⟨burst, period⟩

end Quota

/-- A limiter; `due` is none until the first call. Instants are in nanoseconds. -/
structure Limiter where
  quota : Quota
  due : Option Nat := none
  deriving DecidableEq, Repr

namespace Limiter

/-- A call asks to pass: the limiter after it, or the nanoseconds until one call is given
back. -/
def check (l : Limiter) (now : Nat) : Except Nat Limiter :=
  -- Subtraction stops at zero: a burst longer than the clock has run is let through.
  let due := l.due.getD (now + l.quota.period)
  let earliest := due - l.quota.period * l.quota.burst
  if now < earliest then .error (earliest - now)
  else .ok { l with due := some (max due now + l.quota.period) }

/-- The whole seconds to wait, one at least. -/
def waitSeconds (nanos : Nat) : UInt64 := UInt64.ofNat (max 1 (nanos / 1000000000))

end Limiter

end ServiceMesh
