import Provisioning.Json.Access

/-!
# Network time

Messages carry seconds since the start of 2021. Times before that have no network
time.
-/

namespace Provisioning.NetworkTime

/-- The start of 2021 in seconds since the start of 1970. -/
def epoch : Int := 1609459200

def ofUnix (seconds : Int) : Except Fault Int :=
  if seconds - epoch < 0 then .error (.refusal .beforeEpoch) else .ok (seconds - epoch)

def toUnix (seconds : Int) : Int :=
  seconds + epoch

/-- The network time of a given number of seconds, any fraction cut off. -/
def ofNumber (seconds : Json) : Except Fault Int := do
  ofUnix (← seconds.toInt)

end Provisioning.NetworkTime
