import Courier.Calendar.Duration
import Courier.Delivery.Header
import Courier.Error

/-!
# The delivery client

The settings of a client, and the clients that can be built: their timeout is not zero and their
user agent can be sent as a header.
-/

namespace Courier

structure ClientSettings where
  /-- The time that a whole attempt may take. -/
  timeout : Duration
  userAgent : String
  deriving DecidableEq

def ClientSettings.default : ClientSettings := ⟨.ofMillis 2950, "httpq/1.0.0"⟩

structure Client where
  settings : ClientSettings
  timeout_pos : 0 < settings.timeout.nanos
  userAgent_isValue : Header.isValue settings.userAgent = true

/-- A client for the settings. What sends the posts refuses a user agent that is no header, and
`refusal` is what it says then. -/
def Client.build (refusal : String → String) (s : ClientSettings) : Except DeliveryError Client :=
  if ht : 0 < s.timeout.nanos then
    if hu : Header.isValue s.userAgent = true then .ok ⟨s, ht, hu⟩
    else .error (.configuration ("failed to build HTTP client: " ++ refusal s.userAgent))
  else .error (.configuration "delivery timeout must be positive")

end Courier
