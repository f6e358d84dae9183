import Courier.Database.Value

/-!
# Columns

The names and types of the columns from which the rows of each entity are read, in the order in
which they are selected.
-/

namespace Courier

inductive ColumnType where
  | uuid | text | int32 | int64 | bool | date | time | json
  deriving DecidableEq

structure Column where
  name : String
  type : ColumnType
  deriving DecidableEq

namespace Column

def event : List Column :=
  [⟨"id", .uuid⟩, ⟨"state", .text⟩, ⟨"tenant_id", .uuid⟩, ⟨"consumer_id", .uuid⟩,
    ⟨"topic_id", .uuid⟩, ⟨"version_id", .uuid⟩, ⟨"subscription_id", .uuid⟩, ⟨"try_count", .int32⟩,
    ⟨"request_headers", .json⟩, ⟨"request_body", .json⟩, ⟨"url", .text⟩,
    ⟨"response_headers", .json⟩, ⟨"response_body", .text⟩, ⟨"response_code", .int32⟩,
    ⟨"duration_ms", .int64⟩, ⟨"created_at", .time⟩, ⟨"updated_at", .time⟩, ⟨"delivered_at", .time⟩,
    ⟨"partition_date", .date⟩]

def pendingDelivery : List Column :=
  [⟨"event_id", .uuid⟩, ⟨"url", .text⟩, ⟨"request_headers", .json⟩, ⟨"request_body", .text⟩]

def attempt : List Column :=
  [⟨"event_id", .uuid⟩, ⟨"state", .text⟩, ⟨"subscription_id", .uuid⟩, ⟨"try_count", .int32⟩,
    ⟨"created_at", .time⟩]

def subscription : List Column :=
  [⟨"id", .uuid⟩, ⟨"tenant_id", .uuid⟩, ⟨"consumer_id", .uuid⟩, ⟨"topic_id", .uuid⟩, ⟨"url", .text⟩,
    ⟨"created_at", .time⟩, ⟨"updated_at", .time⟩, ⟨"is_active", .bool⟩, ⟨"is_failing", .bool⟩]

def consumer : List Column :=
  [⟨"id", .uuid⟩, ⟨"tenant_id", .uuid⟩, ⟨"external_id", .text⟩, ⟨"version_id", .uuid⟩,
    ⟨"created_at", .time⟩]

def topic : List Column :=
  [⟨"id", .uuid⟩, ⟨"tenant_id", .uuid⟩, ⟨"name", .text⟩, ⟨"created_at", .time⟩]

def version : List Column :=
  [⟨"id", .uuid⟩, ⟨"tenant_id", .uuid⟩, ⟨"version", .text⟩, ⟨"created_at", .time⟩]

def row (columns : List Column) (values : List Value) : Row :=
  (columns.zip values).map fun (c, v) => (c.name, v)

end Column

end Courier
