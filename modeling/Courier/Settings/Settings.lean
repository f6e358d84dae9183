import Courier.Delivery.Client
import Courier.Json.Value
import Courier.Settings.Field
import Courier.Settings.Variable

/-!
# The settings of the service

The environment counts before the settings file, and that before what holds if nothing is said.
Values have to be of the right kind and in range, and then fit together.
-/

namespace Courier

structure Settings where
  databaseUrl : String
  databaseMaxConnections : Nat
  databaseMinConnections : Nat
  /-- In seconds. -/
  databaseConnectionTimeout : Nat
  workerPoolMultiplier : Nat
  mainBatchSize : Int
  retryBatchSize : Int
  executionWindowMs : Nat
  deliveryTimeoutMs : Nat
  partitionPastDays : Nat
  partitionFutureDays : Nat
  shutdownTimeoutSeconds : Nat
  logFilter : String
  deriving DecidableEq

inductive Entry where
  | text (s : String)
  | number (i : Int)
  deriving DecidableEq

def Entry.toJson : Entry → Json
  | text s => .string s
  | number i => .int i

inductive Flaw where
  | notPositive (field : Field)
  | batchSizes
  | connections (least most : Nat)
  deriving DecidableEq

def Flaw.message : Flaw → String
  | notPositive f => f.name ++ " must be greater than 0"
  | batchSizes => "batch sizes must be greater than 0"
  | connections least most =>
    "database_min_connections (" ++ Text.Decimal.ofInt least ++
      ") exceeds database_max_connections (" ++ Text.Decimal.ofInt most ++ ")"

/-- Why there are no settings. -/
inductive SettingsError where
  | misfit (m : Misfit)
  | flaw (f : Flaw)
  deriving DecidableEq

namespace Settings

/-! ### Reading -/

def rawValue (environment : Dict String) (file : Toml.Entries) (f : Field) : RawValue :=
  (Variable.value? environment f.name).getD
    (((file.get? f.name).map RawValue.ofItem).getD f.byDefault)

def ofRaw (raw : Field → RawValue) : Except Misfit Settings := do
  let number (f : Field) (k : IntegerKind) : Except Misfit Int := f.number k (raw f)
  let text (f : Field) : Except Misfit String := f.text (raw f)
  let connectionTimeout ← number .databaseConnectionTimeout .span
  let maxConnections ← number .databaseMaxConnections .count
  let minConnections ← number .databaseMinConnections .count
  let databaseUrl ← text .databaseUrl
  let deliveryTimeout ← number .deliveryTimeoutMs .span
  let executionWindow ← number .executionWindowMs .span
  let mainBatchSize ← number .mainBatchSize .signed
  let futureDays ← number .partitionFutureDays .count
  let pastDays ← number .partitionPastDays .count
  let retryBatchSize ← number .retryBatchSize .signed
  let logFilter ← text .logFilter
  let shutdownTimeout ← number .shutdownTimeoutSeconds .span
  let multiplier ← number .workerPoolMultiplier .size
  return {
    databaseUrl, mainBatchSize, retryBatchSize, logFilter
    databaseMaxConnections := maxConnections.toNat
    databaseMinConnections := minConnections.toNat
    databaseConnectionTimeout := connectionTimeout.toNat
    workerPoolMultiplier := multiplier.toNat
    executionWindowMs := executionWindow.toNat
    deliveryTimeoutMs := deliveryTimeout.toNat
    partitionPastDays := pastDays.toNat
    partitionFutureDays := futureDays.toNat
    shutdownTimeoutSeconds := shutdownTimeout.toNat }

def flaw? (s : Settings) : Option Flaw :=
  if s.databaseMaxConnections = 0 then some (.notPositive .databaseMaxConnections)
  else if s.databaseMaxConnections < s.databaseMinConnections then
    some (.connections s.databaseMinConnections s.databaseMaxConnections)
  else if s.databaseConnectionTimeout = 0 then some (.notPositive .databaseConnectionTimeout)
  else if s.workerPoolMultiplier = 0 then some (.notPositive .workerPoolMultiplier)
  else if s.mainBatchSize ≤ 0 ∨ s.retryBatchSize ≤ 0 then some .batchSizes
  else if s.executionWindowMs = 0 then some (.notPositive .executionWindowMs)
  else if s.deliveryTimeoutMs = 0 then some (.notPositive .deliveryTimeoutMs)
  else if s.shutdownTimeoutSeconds = 0 then some (.notPositive .shutdownTimeoutSeconds)
  else none

/-- The entries of the settings file, none if there is no file. -/
def entries? (file : Option String) : Option Toml.Entries :=
  match file with
  | none => some []
  | some text => Toml.parse? text

def load (environment : Dict String) (file : Option String) : Except SettingsError Settings := do
  match entries? file with
  | none => .error (.misfit .malformedFile)
  | some entries =>
    match ofRaw (rawValue environment entries) with
    | .error m => .error (.misfit m)
    | .ok s =>
      match s.flaw? with
      | some f => .error (.flaw f)
      | none => .ok s

/-! ### Use -/

def client (s : Settings) : ClientSettings :=
  { ClientSettings.default with timeout := .ofMillis s.deliveryTimeoutMs }

/-- The time from the start of one cycle to the start of the next. -/
def executionWindow (s : Settings) : Duration := .ofMillis s.executionWindowMs

def shutdownTimeout (s : Settings) : Duration := .ofSeconds s.shutdownTimeoutSeconds

def entry (s : Settings) : Field → Entry
  | .databaseConnectionTimeout => .number s.databaseConnectionTimeout
  | .databaseMaxConnections => .number s.databaseMaxConnections
  | .databaseMinConnections => .number s.databaseMinConnections
  | .databaseUrl => .text s.databaseUrl
  | .deliveryTimeoutMs => .number s.deliveryTimeoutMs
  | .executionWindowMs => .number s.executionWindowMs
  | .mainBatchSize => .number s.mainBatchSize
  | .partitionFutureDays => .number s.partitionFutureDays
  | .partitionPastDays => .number s.partitionPastDays
  | .retryBatchSize => .number s.retryBatchSize
  | .logFilter => .text s.logFilter
  | .shutdownTimeoutSeconds => .number s.shutdownTimeoutSeconds
  | .workerPoolMultiplier => .number s.workerPoolMultiplier

def toJson (s : Settings) : Json :=
  .object (Field.all.map fun f => (f.name, (s.entry f).toJson))

end Settings

end Courier
