/-!
# States of a delivery

The state of an event says what became of its latest delivery attempt. `ofName?_eq_some_iff` says
that the stored names are exactly the names that are read.
-/

namespace Courier

inductive DeliveryState where
  | pending | delivered | httpError | unknownHost | timeout | tlsError | backoff | other
  deriving DecidableEq, Inhabited

namespace DeliveryState

def all : List DeliveryState :=
  [pending, delivered, httpError, unknownHost, timeout, tlsError, backoff, other]

def name : DeliveryState → String
  | pending => "PENDING"
  | delivered => "DELIVERED"
  | httpError => "HTTP_ERROR"
  | unknownHost => "UNKNOWN_HOST"
  | timeout => "TIMEOUT"
  | tlsError => "TLS_ERROR"
  | backoff => "BACKOFF"
  | other => "OTHER"

instance : ToString DeliveryState := ⟨name⟩

def ofName? (s : String) : Option DeliveryState := all.find? (·.name == s)

def index (s : DeliveryState) : Nat := all.idxOf s

def isDelivered (s : DeliveryState) : Bool := s = delivered

/-- An attempt was made and failed. -/
def isUndelivered (s : DeliveryState) : Bool := s ≠ pending ∧ s ≠ delivered

theorem ofName?_name (s : DeliveryState) : ofName? s.name = some s := by cases s <;> decide

theorem ofName?_eq_some_iff {t : String} {s : DeliveryState} : ofName? t = some s ↔ t = s.name := by
  constructor
  · intro h
    have := List.find?_some h
    exact (beq_iff_eq.1 this).symm
  · rintro rfl
    exact ofName?_name s

end DeliveryState

end Courier
