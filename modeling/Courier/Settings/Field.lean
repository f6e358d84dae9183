import Courier.Settings.RawValue

/-!
# The settings by name

Each setting has a name, which is the same in the environment and in the settings file, and a value
that it has if nothing is said.
-/

namespace Courier

inductive Field where
  | databaseConnectionTimeout
  | databaseMaxConnections
  | databaseMinConnections
  | databaseUrl
  | deliveryTimeoutMs
  | executionWindowMs
  | mainBatchSize
  | partitionFutureDays
  | partitionPastDays
  | retryBatchSize
  | logFilter
  | shutdownTimeoutSeconds
  | workerPoolMultiplier
  deriving DecidableEq

namespace Field

/-- All settings in the order of their names, in which they are read. -/
def all : List Field :=
  [databaseConnectionTimeout, databaseMaxConnections, databaseMinConnections, databaseUrl,
    deliveryTimeoutMs, executionWindowMs, mainBatchSize, partitionFutureDays, partitionPastDays,
    retryBatchSize, logFilter, shutdownTimeoutSeconds, workerPoolMultiplier]

def name : Field → String
  | databaseConnectionTimeout => "database_connection_timeout"
  | databaseMaxConnections => "database_max_connections"
  | databaseMinConnections => "database_min_connections"
  | databaseUrl => "database_url"
  | deliveryTimeoutMs => "delivery_timeout_ms"
  | executionWindowMs => "execution_window_ms"
  | mainBatchSize => "main_batch_size"
  | partitionFutureDays => "partition_future_days"
  | partitionPastDays => "partition_past_days"
  | retryBatchSize => "retry_batch_size"
  | logFilter => "rust_log"
  | shutdownTimeoutSeconds => "shutdown_timeout_seconds"
  | workerPoolMultiplier => "worker_pool_multiplier"

/-- The value of a setting about which nothing is said. -/
def byDefault : Field → RawValue
  | databaseConnectionTimeout => .unsigned 10
  | databaseMaxConnections => .unsigned 10
  | databaseMinConnections => .unsigned 2
  | databaseUrl => .text "postgresql://localhost/httpq"
  | deliveryTimeoutMs => .unsigned 2950
  | executionWindowMs => .unsigned 3000
  | mainBatchSize => .signed 200
  | partitionFutureDays => .unsigned 7
  | partitionPastDays => .unsigned 7
  | retryBatchSize => .signed 100
  | logFilter => .text "info,httpq=debug"
  | shutdownTimeoutSeconds => .unsigned 30
  | workerPoolMultiplier => .unsigned 4

end Field

/-! ### Kinds -/

structure IntegerKind where
  name : String
  low : Int
  high : Int

namespace IntegerKind

def count : IntegerKind := ⟨"u32", 0, 2 ^ 32 - 1⟩

def span : IntegerKind := ⟨"u64", 0, 2 ^ 64 - 1⟩

def signed : IntegerKind := ⟨"i64", -2 ^ 63, 2 ^ 63 - 1⟩

def size : IntegerKind := ⟨"usize", 0, 2 ^ 64 - 1⟩

end IntegerKind

/-- Why settings are refused before their values are looked at together. -/
inductive Misfit where
  | malformedFile
  /-- A value of the wrong kind. -/
  | kind (field : Field) (found : RawValue) (expected : String)
  | range (field : Field) (found : RawValue) (expected : String)
  deriving DecidableEq

namespace Field

def number (f : Field) (k : IntegerKind) (v : RawValue) : Except Misfit Int :=
  match v.integer? with
  | some i => if k.low ≤ i ∧ i ≤ k.high then .ok i else .error (.range f v k.name)
  | none => .error (.kind f v k.name)

def text (f : Field) (v : RawValue) : Except Misfit String :=
  match v with
  | .text s => .ok s
  | v => .error (.kind f v "a string")

end Field

end Courier
