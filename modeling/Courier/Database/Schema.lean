import Courier.Database.Session

/-!
# The schema

The statements that make sure that every table and index is there. They run in order, outside any
transaction, and may be run again.
-/

namespace Courier.Schema

def statements : List String := [
  "CREATE TABLE IF NOT EXISTS tenants ( id UUID PRIMARY KEY, name TEXT NOT NULL, created_at " ++
    "TIMESTAMPTZ NOT NULL DEFAULT NOW() )",
  "CREATE TABLE IF NOT EXISTS versions ( id UUID PRIMARY KEY, tenant_id UUID NOT NULL " ++
    "REFERENCES tenants(id), version TEXT NOT NULL, created_at TIMESTAMPTZ NOT NULL DEFAULT " ++
    "NOW(), UNIQUE (tenant_id, version) )",
  "CREATE TABLE IF NOT EXISTS topics ( id UUID PRIMARY KEY, tenant_id UUID NOT NULL REFERENCES " ++
    "tenants(id), name TEXT NOT NULL, created_at TIMESTAMPTZ NOT NULL DEFAULT NOW(), UNIQUE " ++
    "(tenant_id, name) )",
  "CREATE TABLE IF NOT EXISTS consumers ( id UUID PRIMARY KEY, tenant_id UUID NOT NULL " ++
    "REFERENCES tenants(id), external_id TEXT NOT NULL, version_id UUID NOT NULL REFERENCES " ++
    "versions(id), created_at TIMESTAMPTZ NOT NULL DEFAULT NOW() )",
  "CREATE TABLE IF NOT EXISTS subscriptions ( id UUID PRIMARY KEY, tenant_id UUID NOT NULL " ++
    "REFERENCES tenants(id), consumer_id UUID NOT NULL REFERENCES consumers(id), topic_id UUID " ++
    "NOT NULL REFERENCES topics(id), url TEXT NOT NULL, is_active BOOLEAN NOT NULL DEFAULT " ++
    "TRUE, is_failing BOOLEAN NOT NULL DEFAULT FALSE, created_at TIMESTAMPTZ NOT NULL DEFAULT " ++
    "NOW(), updated_at TIMESTAMPTZ NOT NULL DEFAULT NOW() )",
  "CREATE INDEX IF NOT EXISTS idx_subscriptions_binding ON subscriptions (tenant_id, " ++
    "consumer_id, topic_id)",
  "CREATE TABLE IF NOT EXISTS webhook_events ( id UUID NOT NULL, state TEXT NOT NULL, tenant_id " ++
    "UUID NOT NULL, consumer_id UUID NOT NULL, topic_id UUID NOT NULL, version_id UUID NOT " ++
    "NULL, subscription_id UUID NOT NULL, try_count INTEGER NOT NULL DEFAULT 0 CHECK (try_count " ++
    ">= 0), request_headers JSONB, request_body JSONB, url TEXT, response_headers JSONB, " ++
    "response_body TEXT, response_code INTEGER, duration_ms BIGINT, created_at TIMESTAMPTZ NOT " ++
    "NULL DEFAULT NOW(), updated_at TIMESTAMPTZ NOT NULL DEFAULT NOW(), delivered_at " ++
    "TIMESTAMPTZ, partition_date DATE NOT NULL, PRIMARY KEY (id, partition_date) ) PARTITION BY " ++
    "RANGE (partition_date)",
  "CREATE TABLE IF NOT EXISTS main_queue ( id BIGSERIAL PRIMARY KEY, event_id UUID NOT NULL )",
  "CREATE TABLE IF NOT EXISTS retry_queue ( id BIGSERIAL PRIMARY KEY, event_id UUID NOT NULL, " ++
    "execute_at TIMESTAMPTZ NOT NULL )",
  "CREATE INDEX IF NOT EXISTS idx_retry_queue_execute_at ON retry_queue (execute_at)"]

/-- Creates what is missing. -/
def ensure : Query Unit := do
  for s in statements do
    let _ ← Query.run s []

def healthCheck : Query Unit := do
  let _ ← Query.first .missingRow "SELECT 1" [] (Row.first Row.int32?)

end Courier.Schema
