import AccountAuthority.Database.Migration

/-!
# The schema

The migrations that make the tables of the repository and of the job queue.  Their texts are what
the checksums are taken of, so they never change once they have been applied anywhere.
-/

namespace AccountAuthority.Schema

/-- Users and what belongs to them. -/
def identity : String :=
"-- Identity core schema: users, external identities, sessions, refresh token chains,
-- single-use verification tokens and the append-only audit trail.

CREATE TABLE users (
    user_id                         UUID PRIMARY KEY,
    email                           TEXT NOT NULL,
    password_hash                   TEXT,
    display_name                    TEXT,
    avatar_url                      TEXT,
    role_code                       TEXT NOT NULL DEFAULT 'USER'
                                    CHECK (role_code IN ('USER', 'ADMIN')),
    status_code                     TEXT NOT NULL DEFAULT 'ACTIVE'
                                    CHECK (status_code IN ('ACTIVE', 'SUSPENDED', 'DELETED')),
    email_verified_utc              TIMESTAMPTZ,
    deletion_requested_utc          TIMESTAMPTZ,
    deletion_scheduled_utc          TIMESTAMPTZ,
    deletion_requested_session_id   UUID,
    deletion_requested_trace_id     TEXT,
    deleted_utc                     TIMESTAMPTZ,
    created_utc                     TIMESTAMPTZ NOT NULL,
    updated_utc                     TIMESTAMPTZ NOT NULL
);

CREATE UNIQUE INDEX users_email_key ON users (LOWER(email));
CREATE INDEX users_active_admins_idx ON users (user_id)
    WHERE role_code = 'ADMIN' AND status_code = 'ACTIVE';
CREATE INDEX users_deletion_scheduled_idx ON users (deletion_scheduled_utc)
    WHERE deletion_scheduled_utc IS NOT NULL;

CREATE TABLE external_identities (
    ident_id        UUID PRIMARY KEY,
    provider_code   TEXT NOT NULL,
    subject         TEXT NOT NULL,
    user_id         UUID NOT NULL REFERENCES users (user_id),
    email_snapshot  TEXT,
    created_utc     TIMESTAMPTZ NOT NULL,
    CONSTRAINT external_identities_provider_subject_key UNIQUE (provider_code, subject),
    CONSTRAINT external_identities_user_provider_key UNIQUE (user_id, provider_code)
);

CREATE TABLE sessions (
    session_id          UUID PRIMARY KEY,
    user_id             UUID NOT NULL REFERENCES users (user_id),
    device_id           TEXT,
    device_name         TEXT,
    platform            TEXT,
    -- user_id:device_id while live, NULL once revoked
    active_key          TEXT,
    auth_methods        TEXT[] NOT NULL DEFAULT '\x7b\x7d',
    ip_address          TEXT,
    user_agent          TEXT,
    push_token          TEXT,
    push_platform       TEXT,
    push_updated_utc    TIMESTAMPTZ,
    expiry_utc          TIMESTAMPTZ NOT NULL,
    revoked_utc         TIMESTAMPTZ,
    revoked_reason_code TEXT,
    last_seen_utc       TIMESTAMPTZ NOT NULL,
    created_utc         TIMESTAMPTZ NOT NULL,
    CONSTRAINT sessions_active_key_key UNIQUE (active_key),
    CONSTRAINT sessions_push_token_key UNIQUE (push_token)
);

CREATE INDEX sessions_user_idx ON sessions (user_id);

CREATE TABLE refresh_tokens (
    token_id                UUID PRIMARY KEY,
    session_id              UUID NOT NULL REFERENCES sessions (session_id) ON DELETE CASCADE,
    token_hash_text         TEXT NOT NULL,
    expiry_utc              TIMESTAMPTZ NOT NULL,
    revoked_utc             TIMESTAMPTZ,
    replaced_by_token_id    UUID REFERENCES refresh_tokens (token_id)
                            ON DELETE SET NULL DEFERRABLE INITIALLY DEFERRED,
    created_utc             TIMESTAMPTZ NOT NULL,
    CONSTRAINT refresh_tokens_hash_key UNIQUE (token_hash_text)
);

-- At most one chain head per session.
CREATE UNIQUE INDEX refresh_tokens_chain_head_key ON refresh_tokens (session_id)
    WHERE revoked_utc IS NULL AND replaced_by_token_id IS NULL;

CREATE TABLE verification_tokens (
    token_id        UUID PRIMARY KEY,
    user_id         UUID NOT NULL REFERENCES users (user_id),
    purpose_code    TEXT NOT NULL CHECK (purpose_code IN ('EMAIL_VERIFICATION', 'PASSWORD_RESET')),
    token_hash_text TEXT NOT NULL,
    expiry_utc      TIMESTAMPTZ NOT NULL,
    consumed_utc    TIMESTAMPTZ,
    created_utc     TIMESTAMPTZ NOT NULL,
    CONSTRAINT verification_tokens_hash_key UNIQUE (token_hash_text)
);

CREATE INDEX verification_tokens_user_idx ON verification_tokens (user_id);

CREATE TABLE audit_events (
    event_id            UUID PRIMARY KEY,
    event_type_code     TEXT NOT NULL,
    actor_user_id       UUID,
    actor_session_id    UUID,
    target_user_id      UUID NOT NULL,
    trace_id            TEXT,
    event_data          JSONB NOT NULL DEFAULT '\x7b\x7d'::jsonb,
    created_utc         TIMESTAMPTZ NOT NULL
);

CREATE INDEX audit_events_target_idx ON audit_events (target_user_id, created_utc);
"

def jobs : String :=
"-- Delayed job queue with lease-based claiming.

CREATE TABLE jobs (
    job_id              TEXT PRIMARY KEY,
    job_type            TEXT NOT NULL,
    payload             JSONB NOT NULL,
    state_code          TEXT NOT NULL DEFAULT 'PENDING'
                        CHECK (state_code IN ('PENDING', 'RUNNING', 'COMPLETED', 'DEAD')),
    run_at_utc          TIMESTAMPTZ NOT NULL,
    attempts            INTEGER NOT NULL DEFAULT 0,
    max_attempts        INTEGER NOT NULL DEFAULT 5,
    last_error          TEXT,
    locked_until_utc    TIMESTAMPTZ,
    created_utc         TIMESTAMPTZ NOT NULL,
    updated_utc         TIMESTAMPTZ NOT NULL
);

CREATE INDEX jobs_due_idx ON jobs (job_type, run_at_utc) WHERE state_code IN ('PENDING', 'RUNNING');
"

/-- All migrations in their order. -/
def migrations : List Migration := [
  { version := 1, description := "identity", sql := identity },
  { version := 2, description := "jobs", sql := jobs }]

end AccountAuthority.Schema
