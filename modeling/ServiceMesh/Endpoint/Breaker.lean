-- Circuit breakers. A closed circuit lets calls pass and counts failures in a row. Enough of
-- them open it, and calls are refused for a while. Then one call is let in as a trial: its success
-- closes the circuit, its failure opens it again.
import ServiceMesh.Failure.Basic
import ServiceMesh.Telemetry.Act

namespace ServiceMesh

/-- An instant on the clock that breakers, waits and deadlines go by, in milliseconds. -/
abbrev Instant := Nat

/-- The first instant that is beyond the clock: it counts seconds in 63 bits. -/
def Instant.limit : Nat := 1 <<< 63 * 1000

/-- An instant later by a number of milliseconds, if the clock reaches that far. -/
def Instant.after (now : Instant) (millis : Nat) : Except Crash Instant :=
  if now + millis < Instant.limit then .ok (now + millis) else .error .clockRange

theorem Instant.after_of_lt {now : Instant} {millis : Nat} (h : now + millis < Instant.limit) :
    now.after millis = .ok (now + millis) := if_pos h

theorem Instant.after_of_limit_le {now : Instant} {millis : Nat}
    (h : Instant.limit ≤ now + millis) : now.after millis = .error .clockRange :=
  if_neg (Nat.not_lt.mpr h)

namespace Breaker

structure Settings where
  /-- The failures in a row that open the circuit. -/
  maxFailures : Nat
  /-- How long it stays open, in milliseconds. -/
  openFor : Nat
  deriving DecidableEq, Repr

inductive Circuit where
  | closed (failures : Nat)
  | opened (until_ : Instant)
  /-- Open no longer and not closed yet: a trial call may be under way. -/
  | halfOpen (trial : Bool)
  deriving DecidableEq, Repr

/-- The circuit as it shows from outside. -/
inductive Face where
  | closed
  | opened
  | halfOpen
  deriving DecidableEq, Repr

def Face.name : Face → String
  | .closed => "Closed"
  | .opened => "Open"
  | .halfOpen => "HalfOpen"

end Breaker

structure Breaker where
  name : String
  settings : Breaker.Settings
  circuit : Breaker.Circuit := .closed 0
  deriving DecidableEq, Repr

namespace Breaker

/-- An open circuit that has been open for long enough shows as half open. -/
def face (b : Breaker) (now : Instant) : Face :=
  match b.circuit with
  | .closed _ => .closed
  | .opened t => if t ≤ now then .halfOpen else .opened
  | .halfOpen _ => .halfOpen

def rejection (b : Breaker) : Failure :=
  .unavailable ("circuit breaker \x27" ++ b.name ++ "\x27 is open")

/-- A call asks to pass: the breaker after it, what is noted, and the refusal if there is
one. -/
def enter (b : Breaker) (now : Instant) : Breaker × List Note × Except Failure Unit :=
  match b.circuit with
  | .closed _ => (b, [], .ok ())
  | .opened t =>
    if t ≤ now then
      ({ b with circuit := .halfOpen true },
        [.log .info "circuit half-open, admitting trial call" [("breaker", .text b.name)]], .ok ())
    else (b, [], .error b.rejection)
  | .halfOpen false => ({ b with circuit := .halfOpen true }, [], .ok ())
  | .halfOpen true => (b, [], .error b.rejection)

def openFrom (b : Breaker) (now : Instant) : Except Crash Breaker :=
  (now.after b.settings.openFor).map fun t => { b with circuit := .opened t }

/-- A call that passed has ended, well or not; a call that was given up has not ended well.
A call that passed before the circuit opened and ends after it changes nothing. -/
def record (b : Breaker) (now : Instant) (success : Bool) : Except Crash Breaker × List Note :=
  match b.circuit, success with
  | .closed _, true => (.ok { b with circuit := .closed 0 }, [])
  | .closed failures, false =>
    -- A limit of zero opens at the first failure, as a limit of one does.
    if b.settings.maxFailures ≤ failures + 1 then
      (b.openFrom now,
        [.log .warn "circuit opened"
          [("breaker", .text b.name), ("failures", .int (failures + 1 : Nat))]])
    else (.ok { b with circuit := .closed (failures + 1) }, [])
  | .halfOpen _, true =>
    (.ok { b with circuit := .closed 0 },
      [.log .info "circuit closed" [("breaker", .text b.name)]])
  | .halfOpen _, false =>
    (b.openFrom now,
      [.log .warn "trial call failed, circuit re-opened" [("breaker", .text b.name)]])
  | .opened _, _ => (.ok b, [])

end Breaker

end ServiceMesh
