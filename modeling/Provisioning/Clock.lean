import Provisioning.Decimal.Arithmetic
import Provisioning.Json.Access

/-!
# The clock of a session

A clock tells the time since 1970 and the time since the session began. It moves
when somebody waits, and not otherwise.
-/

namespace Provisioning

structure Clock where
  /-- Seconds since the start of 1970 at which the session began. -/
  start : Binary64
  /-- Seconds since the session began. -/
  elapsed : Binary64

namespace Clock

def ofStart (start : Binary64) : Clock := ⟨start, Binary64.zero⟩

/-- Seconds since the start of 1970. -/
def time (clock : Clock) : Binary64 :=
  clock.start.add clock.elapsed

/-- Whole seconds since the start of 1970. -/
def unix (clock : Clock) : Except Fault Int :=
  (Json.float clock.time).toInt

def advance (clock : Clock) (seconds : Binary64) : Clock :=
  { clock with elapsed := clock.elapsed.add seconds }

end Clock

end Provisioning
