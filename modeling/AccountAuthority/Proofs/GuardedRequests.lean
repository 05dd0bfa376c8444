import AccountAuthority.Proofs.Transactions
import AccountAuthority.Proofs.UnitsOfWork
import AccountAuthority.Relational.Perform

/-!
# Requests under the guard

What a request to the repository sends begins with a run of the guard, if the
request changes anything.  Most requests end with that run.  A session that is
opened, and a push token that is set, are given to the guard once more when the
first run has ended at the unique key that they compete for.
-/

namespace AccountAuthority

open Relational Sql

/-- The request runs a unit of work under the guard. -/
def RepositoryRequest.IsGuarded : RepositoryRequest → Prop
  | .ping | .findLogin _ | .findCredentials _ | .findUser _ | .findExternalUser ..
  | .storeVerificationToken _ | .findRefreshContext _ | .listSessions ..
  | .listAudit _ => False
  | .revokeDevice user device _ _ => (activeKey user (some device)).isSome = true
  | _ => True

/-- The unit of work of the request understands the codes of the users that it
looks up. -/
def RepositoryRequest.readsCodes : RepositoryRequest → Bool
  | .linkIdentity _ | .resetPassword .. | .verifyEmail .. | .changePassword .. => false
  | _ => true

section

variable {α : Type} (limit : ℕ) (D : Statement → Reply → Prop)
  (first : Except RepositoryError α) (rest : List (Message Statement))
  (result : Except RepositoryError α)

/-- Nothing follows the first run of the guard. -/
def EndsThere : Prop :=
  rest = [] ∧ result = first

/-- There is just one more run of the guard if the first one has ended at a
unique key, and otherwise nothing follows. -/
def RunsAgainFor (key : String) : Prop :=
  (first = .error (.uniqueViolation key) →
    ∃ attempts, GuardRun D limit attempts rest result) ∧
  (first ≠ .error (.uniqueViolation key) → EndsThere first rest result)

end

/-- What follows the first run of the guard: what is sent then, and how the
request ends.  Requests that create accounts or bind identities may explain a
unique key by what they look up, outside of any transaction; and a rotation that
finds its token used revokes the session in one more transaction, which is not
under the guard. -/
def RepositoryRequest.Follows (limit : ℕ) (D : Statement → Reply → Prop) :
    (r : RepositoryRequest) → (first : Except RepositoryError r.Answer) →
      (rest : List (Message Statement)) → (result : Except RepositoryError r.Answer) →
      Prop
  | .createSession .., first, rest, result =>
      RunsAgainFor limit D first rest result activeKeyKey
  | .setPushToken .., first, rest, result =>
      RunsAgainFor limit D first rest result pushTokenKey
  | .createUser .., first, rest, result
  | .createExternalUser .., first, rest, result
  | .linkIdentity _, first, rest, result =>
      (∀ m ∈ rest, m.IsStatement) ∧
        ((∀ key, first ≠ .error (.uniqueViolation key)) → EndsThere first rest result)
  | .rotate _, first, rest, result =>
      rest.countP Message.isBegin ≤ 1 ∧
        ((∀ session, first ≠ .ok (.revokedOrReused session)) →
          EndsThere first rest result)
  | _, first, rest, result => EndsThere first rest result

theorem RepositoryError.isUniqueViolationOn_iff {key : String} {e : RepositoryError} :
    e.isUniqueViolationOn key = true ↔ e = .uniqueViolation key := by
  cases e <;> simp [isUniqueViolationOn]

namespace Relational

variable {α : Type} {config : RetryConfig} {D : Statement → Reply → Prop}
  {work : Relational α}

/-- What the program sends begins with a run of the guard, and then it goes on as
`follows` says. -/
def StartsGuarded (config : RetryConfig) (D : Statement → Reply → Prop)
    (follows : Except RepositoryError α → List (Message Statement) →
      Except RepositoryError α → Prop) (x : Relational α) : Prop :=
  ∀ (σ : Type) (server : Server Statement σ) (t : σ), ∃ attempts log first rest,
    GuardRun D (max 1 config.maxAttempts) attempts log first ∧
      (x.converse server t).messages = log ++ rest ∧
      follows first rest (x.converse server t).result

theorem guardRun_unit
    (hwork : Heeds D True work) (config : RetryConfig) {σ : Type}
    (server : Server Statement σ) (t : σ) :
    let c := (unit config work).converse server t
    ∃ attempts, GuardRun D (max 1 config.maxAttempts) attempts c.messages c.result :=
  guardRun_guarded hwork config server t

theorem startsGuarded_unit (hwork : Heeds D True work) :
    StartsGuarded config D EndsThere (unit config work) := by
  intro σ server t
  obtain ⟨attempts, hrun⟩ := guardRun_unit hwork config server t
  exact ⟨attempts, _, _, [], hrun, (List.append_nil _).symm, rfl, rfl⟩

/-- A run of the guard after which failures are dealt with. -/
theorem startsGuarded_tryCatch
    (hwork : Heeds D True work) {handle : RepositoryError → Relational α}
    {follows : Except RepositoryError α → List (Message Statement) →
      Except RepositoryError α → Prop}
    (hok : ∀ a, follows (.ok a) [] (.ok a))
    (herror : ∀ e (σ : Type) (server : Server Statement σ) (t : σ),
      follows (.error e) ((handle e).converse server t).messages
        ((handle e).converse server t).result) :
    StartsGuarded config D follows (tryCatch (unit config work) handle) := by
  intro σ server t
  obtain ⟨attempts, hrun⟩ := guardRun_unit hwork config server t
  cases hc : (unit config work).converse server t with
  | mk log first t' =>
      rw [hc] at hrun
      cases first with
      | ok a =>
          rw [converse_tryCatch_ok hc]
          exact ⟨attempts, log, _, [], hrun, (List.append_nil _).symm, hok a⟩
      | error e =>
          rw [converse_tryCatch_error hc]
          exact ⟨attempts, log, _, _, hrun, rfl, herror e σ server t'⟩

/-- A run of the guard after which the outcome is looked at. -/
theorem startsGuarded_bind
    (hwork : Heeds D True work) {k : α → Relational α}
    {follows : Except RepositoryError α → List (Message Statement) →
      Except RepositoryError α → Prop}
    (herror : ∀ e, follows (.error e) [] (.error e))
    (hok : ∀ a (σ : Type) (server : Server Statement σ) (t : σ),
      follows (.ok a) ((k a).converse server t).messages
        ((k a).converse server t).result) :
    StartsGuarded config D follows (unit config work >>= k) := by
  intro σ server t
  obtain ⟨attempts, hrun⟩ := guardRun_unit hwork config server t
  cases hc : (unit config work).converse server t with
  | mk log first t' =>
      rw [hc] at hrun
      cases first with
      | error e =>
          rw [converse_bind_error hc]
          exact ⟨attempts, log, _, [], hrun, (List.append_nil _).symm, herror e⟩
      | ok a =>
          rw [converse_bind_ok hc]
          exact ⟨attempts, log, _, _, hrun, rfl, hok a σ server t'⟩

theorem startsGuarded_twice {key : String} (hwork : Heeds D True work) :
    StartsGuarded config D
      (fun first rest result =>
        RunsAgainFor (max 1 config.maxAttempts) D first rest result key)
      (twice key (unit config work)) := by
  refine startsGuarded_tryCatch hwork (fun a => ⟨nofun, fun _ => ⟨rfl, rfl⟩⟩) ?_
  intro e σ server t
  by_cases hkey : e = .uniqueViolation key
  · rw [if_pos (RepositoryError.isUniqueViolationOn_iff.mpr hkey)]
    refine ⟨fun _ => guardRun_unit hwork config server t, fun h => ?_⟩
    exact absurd (congrArg _ hkey) h
  · rw [if_neg fun h => hkey (RepositoryError.isUniqueViolationOn_iff.mp h)]
    exact ⟨fun h => absurd (Except.error.inj h) hkey, fun _ => ⟨rfl, rfl⟩⟩

/-- Only unique keys are explained, and without a transaction. -/
theorem startsGuarded_explained
    (hwork : Heeds D True work) {handle : RepositoryError → Relational α}
    (hother : ∀ e, (∀ key, e ≠ .uniqueViolation key) → handle e = throw e)
    (hstatements : ∀ e (σ : Type) (server : Server Statement σ) (t : σ),
      ∀ m ∈ ((handle e).converse server t).messages, m.IsStatement) :
    StartsGuarded config D
      (fun first rest result => (∀ m ∈ rest, m.IsStatement) ∧
        ((∀ key, first ≠ .error (.uniqueViolation key)) → EndsThere first rest result))
      (tryCatch (unit config work) handle) := by
  refine startsGuarded_tryCatch hwork (fun a => ?_) ?_
  · exact ⟨List.forall_mem_nil _, fun _ => ⟨rfl, rfl⟩⟩
  intro e σ server t
  refine ⟨hstatements e σ server t, fun hkeys => ?_⟩
  rw [hother e fun key h => hkeys key (by rw [h])]
  exact ⟨rfl, rfl⟩

theorem isStatement_identityWinner
    {σ : Type} {server : Server Statement σ} {t : σ} {identity : ExternalIdentity} :
    ∀ m ∈ ((identityWinner identity).converse server t).messages, m.IsStatement := by
  obtain ⟨-, provider, subject, -⟩ := identity
  have hfind :=
    (@heeds_findUserByIdentity true provider subject σ server t).isStatement
  unfold identityWinner
  cases hc : (findUserByIdentity provider subject).converse server t with
  | mk log result t' =>
      rw [hc] at hfind
      cases result with
      | error e => rwa [converse_bind_error hc]
      | ok existing =>
          rw [converse_bind_ok hc]
          cases existing <;> simpa using hfind

theorem countP_isBegin_revokeForReuse
    {σ : Type} {server : Server Statement σ} {t : σ} {session : SessionId}
    {now : Instant} :
    ((revokeForReuse session now).converse server t).messages.countP Message.isBegin =
      1 := by
  unfold revokeForReuse
  rw [messages_map]
  exact countP_isBegin_transaction (D := Statement.Answered true) heeds_revoke

theorem startsGuarded_rotate {codes : Bool} (r : Rotation) :
    StartsGuarded config (Statement.Answered codes)
      ((RepositoryRequest.rotate r).Follows (max 1 config.maxAttempts)
        (Statement.Answered codes))
      (perform config (.rotate r)) := by
  refine startsGuarded_bind heeds_rotate
    (fun e => ⟨Nat.zero_le 1, fun _ => ⟨rfl, rfl⟩⟩) fun outcome σ server t => ?_
  cases outcome with
  | revokedOrReused session =>
      refine ⟨Nat.le_of_eq ?_, fun h => absurd rfl (h session)⟩
      dsimp only
      rw [messages_map, countP_isBegin_revokeForReuse]
  | _ => exact ⟨Nat.zero_le 1, fun _ => ⟨rfl, rfl⟩⟩

/-- Every request under the guard begins with a run of it. -/
theorem startsGuarded_perform
    (config : RetryConfig) {r : RepositoryRequest} (h : r.IsGuarded) :
    StartsGuarded config (Statement.Answered r.readsCodes)
      (r.Follows (max 1 config.maxAttempts) (Statement.Answered r.readsCodes))
      (perform config r) := by
  cases r with
  | ping | findLogin | findCredentials | findUser | findExternalUser
  | storeVerificationToken | findRefreshContext | listSessions | listAudit =>
      exact absurd h id
  | createUser user hash =>
      refine startsGuarded_explained heeds_createUser (fun e he => ?_)
        fun e σ server t => ?_
      · simp [RepositoryError.isUniqueViolationOn_iff, he]
      · split
        all_goals exact List.forall_mem_nil _
  | createExternalUser user identity =>
      refine startsGuarded_explained heeds_createExternalUser (fun e he => ?_)
        fun e σ server t => ?_
      · simp [RepositoryError.isUniqueViolationOn_iff, he]
      · split
        · exact isStatement_identityWinner
        split
        all_goals exact List.forall_mem_nil _
  | linkIdentity identity =>
      refine startsGuarded_explained heeds_linkIdentity (fun e he => ?_)
        fun e σ server t => ?_
      · simp [RepositoryError.isUniqueViolationOn_iff, he]
      · split
        · exact List.forall_mem_nil _
        split
        all_goals exact List.forall_mem_nil _
  | createSession session token now => exact startsGuarded_twice heeds_createSession
  | setPushToken user session token platform now =>
      exact startsGuarded_twice heeds_setPushToken
  | rotate r => exact startsGuarded_rotate r
  | revokeDevice user device reason now =>
      obtain ⟨key, hkey⟩ := Option.isSome_iff_exists.mp h
      simp only [perform, hkey]
      exact startsGuarded_unit heeds_revokeByKey
  | resetPassword => exact startsGuarded_unit heeds_resetPassword
  | verifyEmail => exact startsGuarded_unit heeds_verifyEmail
  | changePassword => exact startsGuarded_unit heeds_changePassword
  | revokeByToken => exact startsGuarded_unit heeds_revokeByToken
  | revokeSession => exact startsGuarded_unit heeds_revokeSession
  | changeRole => exact startsGuarded_unit heeds_changeRole
  | changeStatus => exact startsGuarded_unit heeds_changeStatus
  | requestDeletion => exact startsGuarded_unit heeds_requestDeletion
  | cancelDeletion => exact startsGuarded_unit heeds_cancelDeletion
  | finalizeDeletion => exact startsGuarded_unit heeds_finalizeDeletion

end Relational

/-! ## How many transactions are begun -/

section

variable {α : Type} {limit : ℕ} {D : Statement → Reply → Prop}
  {first : Except RepositoryError α} {rest : List (Message Statement)}
  {result : Except RepositoryError α}

theorem EndsThere.countP_isBegin_le (h : EndsThere first rest result) :
    rest.countP Message.isBegin ≤ limit := by
  rw [h.1]
  exact Nat.zero_le limit

theorem RunsAgainFor.countP_isBegin_le
    {key : String} (h : RunsAgainFor limit D first rest result key) :
    rest.countP Message.isBegin ≤ limit := by
  by_cases hkey : first = .error (.uniqueViolation key)
  · obtain ⟨attempts, hrun⟩ := h.1 hkey
    exact hrun.countP_isBegin_le
  · exact (h.2 hkey).countP_isBegin_le

end

theorem RepositoryRequest.Follows.countP_isBegin_le
    {r : RepositoryRequest} {limit : ℕ} {D : Statement → Reply → Prop}
    {first : Except RepositoryError r.Answer} {rest : List (Message Statement)}
    {result : Except RepositoryError r.Answer}
    (h : r.Follows limit D first rest result) (hlimit : 0 < limit) :
    rest.countP Message.isBegin ≤ limit := by
  cases r with
  | createSession | setPushToken => exact RunsAgainFor.countP_isBegin_le h
  | createUser | createExternalUser | linkIdentity =>
      rw [Message.countP_isBegin_of_statements h.1]
      exact Nat.zero_le limit
  | rotate => exact Nat.le_trans h.1 hlimit
  | _ => exact EndsThere.countP_isBegin_le h

/-- Whatever a server answers, a request under the guard keeps to its
transactions: it begins with a run of the guard, whose attempts take their proper
courses and are repeated just for conflicts; what follows the run is as the
request says; and at most twice as many transactions are begun as there may be
attempts. -/
theorem guarded_requests_disciplined
    {σ : Type} (server : Server Statement σ) (t : σ) (config : RetryConfig)
    (r : RepositoryRequest) (h : r.IsGuarded) :
    let c := (Relational.perform config r).converse server t
    let limit := max 1 config.maxAttempts
    let settles := Statement.Answered r.readsCodes
    (∃ attempts log first rest, GuardRun settles limit attempts log first ∧
      c.messages = log ++ rest ∧ r.Follows limit settles first rest c.result) ∧
    c.messages.countP Message.isBegin ≤ 2 * limit := by
  intro c limit settles
  obtain ⟨attempts, log, first, rest, hrun, hmessages, hfollows⟩ :=
    startsGuarded_perform config h σ server t
  refine ⟨⟨attempts, log, first, rest, hrun, hmessages, hfollows⟩, ?_⟩
  have hlimit : 0 < limit := Nat.le_max_left 1 config.maxAttempts
  have hfirst : log.countP Message.isBegin ≤ limit := hrun.countP_isBegin_le
  have hrest : rest.countP Message.isBegin ≤ limit := hfollows.countP_isBegin_le hlimit
  have hcount : c.messages.countP Message.isBegin =
      log.countP Message.isBegin + rest.countP Message.isBegin := by
    rw [← List.countP_append]
    exact congrArg _ hmessages
  omega

/-- A server that has the session, and another session that keeps its push
token. -/
def pushTokenTaken : ScriptedServer Statement where
  replies := [
    .ok { rows := [[("session_id", .uuid ⟨1⟩)]] },
    .ok {},
    .error (.server {
      state := some "23505", message := "", constraint := some pushTokenKey,
      isUnique := true })]
  ids _ := ⟨0⟩

theorem guarded_requests_disciplined_sample :
    let r : RepositoryRequest := .setPushToken ⟨0⟩ ⟨1⟩ "token" none ⟨0, 0⟩
    let c := (Relational.perform (.immediate 3) r).converse ScriptedServer.answer
      pushTokenTaken
    r.IsGuarded ∧
      (∃ attempts log first rest,
        GuardRun (Statement.Answered true) 3 attempts log first ∧
          c.messages = log ++ rest ∧
          r.Follows 3 (Statement.Answered true) first rest c.result) ∧
      c.messages.countP Message.isBegin ≤ 6 := by
  intro r c
  exact ⟨trivial, guarded_requests_disciplined ScriptedServer.answer pushTokenTaken
    (.immediate 3) r trivial⟩

end AccountAuthority
