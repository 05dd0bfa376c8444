import AccountAuthority.Database.Request
import AccountAuthority.Retry

/-!
# Transactions

Work within a transaction is committed when it succeeds, and rolled back when it fails or when the
commit does.  The guard runs a unit of work in serializable transactions, and starts it from
scratch as long as it fails because of a conflict.
-/

namespace AccountAuthority.Sql

variable {S ε α : Type} [OfDatabase ε]

/-- Run the rest of a transaction that has begun: do the work and commit it, or else roll back. -/
def settle (work : Sql S ε α) : Program (Database S) (Except ε α) := do
  match ← (do let a ← work; control .commit; pure a : Sql S ε α).run with
  | .ok a => pure (.ok a)
  | .error e => do
    let _ ← ask (.control .rollback)
    pure (.error e)

/-- Do some work within a transaction. -/
def transaction (work : Sql S ε α) : Sql S ε α := do
  control .begin
  ExceptT.mk (settle work)

/-- One attempt of a unit of work: a serializable transaction. -/
def attempt (work : Sql S ε α) : Sql S ε α :=
  transaction do
    control .serializable
    work

/-- Attempt a unit of work as often as the configuration allows, while it fails in a way that
`again` says can go away. -/
def guarded (config : RetryConfig) (again : ε → Bool) (work : Sql S ε α) : Sql S ε α :=
  ExceptT.mk (retry config again
    (config.wait (ask (S := S) .jitter) fun d => ask (S := S) (.pause d)) (attempt work).run)

end AccountAuthority.Sql
