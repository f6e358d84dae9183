import Courier.Calendar.Duration
import Courier.Event.State
import Courier.Text.Decimal

/-!
# Errors

Storage errors say what went wrong in the database, delivery errors what went wrong on the way to a
receiver or in the bookkeeping after it. Each has a kind and a message.
-/

namespace Courier

inductive StorageFault where
  | database | notFound | constraintViolation | validation | invalidPartitionName
  deriving DecidableEq

namespace StorageFault

def all : List StorageFault :=
  [database, notFound, constraintViolation, validation, invalidPartitionName]

def name : StorageFault → String
  | database => "Database"
  | notFound => "NotFound"
  | constraintViolation => "ConstraintViolation"
  | validation => "Validation"
  | invalidPartitionName => "InvalidPartitionName"

def code : StorageFault → String
  | validation => "E1001"
  | notFound => "E1002"
  | constraintViolation => "E1003"
  | invalidPartitionName => "E1004"
  | database => "E3001"

/-- What a message of this kind starts with. -/
def heading : StorageFault → String
  | database => "Database error"
  | notFound => "Not found"
  | constraintViolation => "Constraint violation"
  | validation => "Validation failed"
  | invalidPartitionName => "Invalid partition name"

end StorageFault

inductive Detail where
  | text (s : String)
  | connectionLost
  | undecodableRow
  deriving DecidableEq

structure StorageError where
  fault : StorageFault
  detail : Detail
  deriving DecidableEq

namespace StorageError

def notFound (s : String) : StorageError := ⟨.notFound, .text s⟩

def validation (s : String) : StorageError := ⟨.validation, .text s⟩

def invalidPartitionName (name : String) : StorageError := ⟨.invalidPartitionName, .text name⟩

def connectionLost : StorageError := ⟨.database, .connectionLost⟩

def undecodableRow : StorageError := ⟨.database, .undecodableRow⟩

/-- A row that has to be there is missing. -/
def missingRow : StorageError := notFound "requested entity not found"

/-- The error for a statement that the database refuses, by the code of the refusal. -/
def refused (code message : String) : StorageError :=
  if code = "23505" then ⟨.constraintViolation, .text ("unique constraint violation: " ++ message)⟩
  else if code = "23503" then
    ⟨.constraintViolation, .text ("foreign key constraint violation: " ++ message)⟩
  else if code = "23514" then
    ⟨.constraintViolation, .text ("check constraint violation: " ++ message)⟩
  else ⟨.database, .text ("error returned from database: " ++ message)⟩

/-- On a write path every failure of the database counts as a failed validation of the input. -/
def ofWrite (e : StorageError) : StorageError :=
  match e.fault with
  | .database | .constraintViolation => { e with fault := .validation }
  | _ => e

def message (e : StorageError) : String :=
  match e.detail with
  | .text s => e.fault.heading ++ ": " ++ s
  | .connectionLost => "<connection lost>"
  | .undecodableRow => "<undecodable row>"

end StorageError

inductive DeliveryError where
  | storage (cause : StorageError)
  /-- The attempt must not be retried, or its next attempt lies beyond the calendar. -/
  | notRetriable (state : DeliveryState) (tryCount : Int)
  | invalidTryCount (tryCount : Int)
  | configuration (message : String)
  | poolClosed
  | shutdownTimeout (timeout : Duration)
  | workerFailed (message : String)
  deriving DecidableEq

namespace DeliveryError

def name : DeliveryError → String
  | storage _ => "Storage"
  | notRetriable _ _ => "NotRetriable"
  | invalidTryCount _ => "InvalidTryCount"
  | configuration _ => "Configuration"
  | poolClosed => "WorkerPoolClosed"
  | shutdownTimeout _ => "ShutdownTimeout"
  | workerFailed _ => "WorkerPanic"

def isStorage : DeliveryError → Bool
  | storage _ => true
  | _ => false

def message : DeliveryError → String
  | storage cause => "storage error: " ++ cause.message
  | notRetriable state n =>
    "attempt in state " ++ state.name ++ " with try count " ++ Text.Decimal.ofInt n ++
      " is not retriable"
  | invalidTryCount n => "try count must be at least 1, got " ++ Text.Decimal.ofInt n
  | configuration m => "invalid delivery configuration: " ++ m
  | poolClosed => "worker pool is shut down"
  | shutdownTimeout d => "worker pool shutdown timed out after " ++ d.text
  | workerFailed m => "delivery worker failed: " ++ m

end DeliveryError

end Courier
