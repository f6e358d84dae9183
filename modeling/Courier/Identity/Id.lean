import Courier.Data.OrderedSet
import Courier.Identity.Uuid

/-!
# Identifiers of entities

Every entity has a UUID. The kind of entity is part of the type, so that an identifier of one kind
never stands where another is meant.
-/

namespace Courier

inductive Entity where
  | event | tenant | consumer | topic | version | subscription

structure Id (e : Entity) where
  uuid : Uuid
  deriving DecidableEq

abbrev EventId := Id .event
abbrev TenantId := Id .tenant
abbrev ConsumerId := Id .consumer
abbrev TopicId := Id .topic
abbrev VersionId := Id .version
abbrev SubscriptionId := Id .subscription

namespace Id

variable {e : Entity}

instance : Inhabited (Id e) := ⟨⟨Uuid.nil⟩⟩

def text (i : Id e) : String := i.uuid.text

instance : ToString (Id e) := ⟨text⟩

instance : LT (Id e) := ⟨fun a b => a.uuid.number < b.uuid.number⟩

instance : DecidableLT (Id e) := fun a b =>
  inferInstanceAs (Decidable (a.uuid.number < b.uuid.number))

instance : StrictOrder (Id e) where
  irrefl _ := Nat.lt_irrefl _
  trans := Nat.lt_trans
  connex a b := by
    rcases Nat.lt_trichotomy a.uuid.number b.uuid.number with h | h | h
    · exact .inl h
    · exact .inr (.inl (by cases a; cases b; congr 1; exact Uuid.ext h))
    · exact .inr (.inr h)

end Id

end Courier
