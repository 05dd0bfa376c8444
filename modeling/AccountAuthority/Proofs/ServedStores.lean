import AccountAuthority.Proofs.Revocations
import AccountAuthority.Proofs.Transactions
import AccountAuthority.Proofs.UnitsOfWork
import AccountAuthority.Relational.Perform
import AccountAuthority.Store.Lifecycle

/-!
# Servers that answer from a store

A server may hold the users and sessions of a store in its tables.  Then what a
unit of work learns from its statements is what the store would have told it.
Here it is said what such a server answers, and what becomes of the parts of
units that run on it: none of them fails, and it is known which statements are
sent and what is made of the answers.
-/

namespace AccountAuthority

/-! ## Programs that succeed -/

namespace Sql

section

variable {S σ α β : Type} {server : Server S σ}

/-- On the server the program succeeds, whatever state the server is in: it sends
nothing but statements, and `ψ` holds of its value and the statements. -/
def Yields (server : Server S σ) (x : Sql S RepositoryError α)
    (ψ : α → List S → Prop) : Prop :=
  ∀ t, ∃ log a t' sts, x.converse server t = ⟨log, .ok a, t'⟩ ∧
    log.map Message.sent = sts.map Sent.statement ∧ ψ a sts

variable {x : Sql S RepositoryError α} {k : α → Sql S RepositoryError β}
  {φ : α → List S → Prop} {ψ : β → List S → Prop}

theorem yields_pure {a : α} (h : φ a []) : Yields server (pure a) φ :=
  fun t => ⟨[], a, t, [], rfl, rfl, h⟩

theorem Yields.mono
    {φ' : α → List S → Prop} (hx : Yields server x φ) (h : ∀ a sts, φ a sts → φ' a sts) :
    Yields server x φ' := by
  intro t
  obtain ⟨log, a, t', sts, hc, hsent, ha⟩ := hx t
  exact ⟨log, a, t', sts, hc, hsent, h a sts ha⟩

theorem Yields.bind
    (hx : Yields server x φ)
    (hk : ∀ a sts, φ a sts → Yields server (k a) fun b more => ψ b (sts ++ more)) :
    Yields server (x >>= k) ψ := by
  intro t
  obtain ⟨log, a, t', sts, hc, hsent, ha⟩ := hx t
  obtain ⟨more, b, t'', sts', hc', hsent', hb⟩ := hk a sts ha t'
  refine ⟨log ++ more, b, t'', sts ++ sts', ?_, ?_, hb⟩
  · rw [converse_bind_ok hc, hc']
  · rw [List.map_append, List.map_append, hsent, hsent']

theorem Yields.map
    (hx : Yields server x φ) {f : α → β} (h : ∀ a sts, φ a sts → ψ (f a) sts) :
    Yields server (x >>= fun a => pure (f a)) ψ :=
  hx.bind fun a sts ha => yields_pure (by simpa using h a sts ha)

theorem yields_freshId : Yields server (freshId (S := S)) fun _ sts => sts = [] :=
  fun t => ⟨[], _, (server .freshId t).2, [], rfl, rfl, rfl⟩

theorem yields_ofExcept {r : Except RepositoryError α} {a : α} (h : r = .ok a) :
    Yields server (ofExcept r) fun b sts => b = a ∧ sts = [] := by
  subst h
  exact yields_pure ⟨rfl, rfl⟩

/-- A statement whose answer is always understood. -/
theorem yields_fetch
    {s : S} {f : Reply → Except DatabaseError α} {χ : α → Prop}
    (h : ∀ t, ∃ reply a, (server (.execute s) t).1 = .ok reply ∧ f reply = .ok a ∧ χ a) :
    Yields server (fetch s f) fun a sts => sts = [s] ∧ χ a := by
  intro t
  obtain ⟨reply, a, hanswer, hread, ha⟩ := h t
  have hsent := converse_fetch (s := s) (f := f) server t
  rw [hanswer, digest, hread] at hsent
  exact ⟨_, a, _, [s], hsent, rfl, rfl, ha⟩

end

/-! ## Units that succeed -/

section

variable {σ α : Type} {server : Server Statement σ} {work : Relational α}
  {ψ : α → List Statement → Prop}

/-- The control of transactions never fails. -/
def ControlsSucceed (server : Server Statement σ) : Prop :=
  ∀ c t, (server (.control c) t).1 = .ok ()

theorem converse_control_of_succeeds
    (h : ControlsSucceed server) (c : TransactionControl) (t : σ) :
    (control c : Relational Unit).converse server t =
      ⟨[.control c (.ok ())], .ok (), (server (.control c) t).2⟩ := by
  rw [converse_control, h c t]
  rfl

theorem converse_attempt_of_yields
    (hcontrols : ControlsSucceed server) (hwork : Yields server work ψ) (t : σ) :
    ∃ log a t' sts, (attempt work).converse server t =
        ⟨.control .begin (.ok ()) :: .control .serializable (.ok ()) :: log ++
          [.control .commit (.ok ())], .ok a, t'⟩ ∧
      log.map Message.sent = sts.map Sent.statement ∧ ψ a sts := by
  have hbegin := converse_control_of_succeeds hcontrols .begin t
  generalize (server (.control .begin) t).2 = t₁ at hbegin
  have hserializable := converse_control_of_succeeds hcontrols .serializable t₁
  generalize (server (.control .serializable) t₁).2 = t₂ at hserializable
  obtain ⟨log, a, t₃, sts, hworked, hsent, ha⟩ := hwork t₂
  have hunit := converse_bind_ok (k := fun _ => work) hserializable
  rw [hworked] at hunit
  have hcommit := converse_control_of_succeeds hcontrols .commit t₃
  generalize (server (.control .commit) t₃).2 = t₄ at hcommit
  have hcommitted :
      (committing (control .serializable >>= fun _ => work)).converse server t₁ =
        ⟨.control .serializable (.ok ()) :: log ++ [.control .commit (.ok ())], .ok a,
          t₄⟩ := by
    refine (converse_bind_ok hunit).trans ?_
    rw [converse_bind_ok hcommit]
    rfl
  have hsettled : Sql.converse server t₁
      (ExceptT.mk (settle (control .serializable >>= fun _ => work))) =
        ⟨.control .serializable (.ok ()) :: log ++ [.control .commit (.ok ())], .ok a,
          t₄⟩ := converse_settle_ok hcommitted
  refine ⟨log, a, t₄, sts, (converse_bind_ok hbegin).trans ?_, hsent, ha⟩
  rw [hsettled]
  rfl

/-- A unit that succeeds is committed by its first attempt. -/
theorem converse_unit_of_yields
    (hcontrols : ControlsSucceed server) (hwork : Yields server work ψ)
    (config : RetryConfig) (t : σ) :
    ∃ a sts, ((Relational.unit config work).converse server t).result = .ok a ∧
      ((Relational.unit config work).converse server t).messages.map Message.sent =
        .control .begin :: .control .serializable :: sts.map Sent.statement ++
          [.control .commit] ∧
      ψ a sts := by
  obtain ⟨log, a, t', sts, hattempt, hsent, ha⟩ :=
    converse_attempt_of_yields hcontrols hwork t
  have hunit : (Relational.unit config work).converse server t =
      ⟨.control .begin (.ok ()) :: .control .serializable (.ok ()) :: log ++
        [.control .commit (.ok ())], .ok a, t'⟩ := by
    change Program.converse server (retryUpTo _ _ _ _ _) t = _
    rw [retryUpTo, Program.converse_bind_of_eq hattempt]
    simp
  rw [hunit]
  exact ⟨a, sts, rfl, by simp [hsent, Message.sent], ha⟩

end

end Sql

/-! ## What a server answers -/

/-- The row is that of the user. -/
def Row.Holds (row : Row) (user : User) : Prop :=
  ∃ r, UserRow.read row = .ok r ∧ r.toUser = .ok user

/-- The rows are the one of the user, or none if there is no user. -/
def Reply.Shows (reply : Reply) (user? : Option User) : Prop :=
  match user? with
  | none => reply.rows = []
  | some user => ∃ row, reply.rows = [row] ∧ row.Holds user

/-- The rows hold the identifiers, in whatever order. -/
def Reply.Lists (reply : Reply) (ids : List Uuid) : Prop :=
  ∃ l : List Uuid, reply.rows.mapM Row.first = .ok l ∧ l.Perm ids

namespace Store

/-- The user that a statement gives: as found, or as updated. -/
def shown? (s : Store) : Statement → Option User
  | .selectUser id _ => s.users.get? id
  | .setRole id role now =>
      (s.users.get? id).map fun u => { u with role, updatedAt := now }
  | .setStatus id status now =>
      (s.users.get? id).map fun u => { u with status, updatedAt := now }
  | .scheduleDeletion id actor scheduledFor now =>
      (s.users.get? id).map fun u =>
        { u with
          deletionRequestedAt := some now
          deletionScheduledFor := some scheduledFor
          deletionSession := actor.session
          deletionTrace := actor.trace
          updatedAt := now }
  | .unscheduleDeletion id now =>
      (s.users.get? id).map fun u =>
        { u with
          deletionRequestedAt := none
          deletionScheduledFor := none
          deletionSession := none
          deletionTrace := none
          updatedAt := now }
  | _ => none

/-- The number of sessions of a user. -/
def sessionCount (s : Store) (user : UserId) : Nat :=
  (s.sessions.rows.filter fun x => x.user = user).length

/-- What the statements of the life of accounts are answered if the store is in
the tables of the server: the user that is looked up or updated, the
administrators, and the sessions that are revoked or deleted. -/
def Tells (s : Store) (statement : Statement) (reply : Reply) : Prop :=
  match statement with
  | .lockActiveAdmins => reply.Lists s.activeAdmins
  | .revokeSessionsOfUser user except _ _ =>
      reply.Lists ((s.unrevoked user except).map Session.id)
  | .deleteSessions user => reply.affected = s.sessionCount user
  | .selectUser .. | .setRole .. | .setStatus .. | .scheduleDeletion ..
  | .unscheduleDeletion .. => reply.Shows (s.shown? statement)
  | _ => True

/-- The server answers from the store, and never fails. -/
structure ServedBy {σ : Type} (s : Store) (server : Server Statement σ) : Prop where
  controls : Sql.ControlsSucceed server
  statements : ∀ st t, ∃ reply, (server (.execute st) t).1 = .ok reply ∧ s.Tells st reply

end Store

/-! ## Every store has its server -/

/-- The value of a column that may be empty. -/
def SqlValue.optional {α : Type} (v : α → SqlValue) : Option α → SqlValue
  | some a => v a
  | none => .null

theorem SqlType.ofSql_optional
    {α : Type} [SqlType α] {v : α → SqlValue} {c : Column}
    (hv : ∀ a, (ofSql c (v a) : Except DatabaseError (Option α)) = .ok (some a))
    (o : Option α) : ofSql c (SqlValue.optional v o) = .ok o := by
  cases o with
  | none => rfl
  | some a => exact hv a

/-- The row of a user.  Instants are in it as they are, not cut to whole
microseconds. -/
def User.row (u : User) (hash : Option String) : Row := [
  ("user_id", .uuid u.id),
  ("email", .text u.email),
  ("password_hash", .optional .text hash),
  ("display_name", .optional .text u.displayName),
  ("avatar_url", .optional .text u.avatarUrl),
  ("role_code", .text (code u.role)),
  ("status_code", .text (code u.status)),
  ("email_verified_utc", .optional .time u.emailVerifiedAt),
  ("deletion_requested_utc", .optional .time u.deletionRequestedAt),
  ("deletion_scheduled_utc", .optional .time u.deletionScheduledFor),
  ("deletion_requested_session_id", .optional .uuid u.deletionSession),
  ("deletion_requested_trace_id", .optional .text u.deletionTrace),
  ("deleted_utc", .optional .time u.deletedAt),
  ("created_utc", .time u.createdAt),
  ("updated_utc", .time u.updatedAt)]

theorem User.read_row (u : User) (hash : Option String) :
    UserRow.read (u.row hash) = .ok
      { id := u.id
        email := u.email
        passwordHash := hash
        displayName := u.displayName
        avatarUrl := u.avatarUrl
        roleCode := code u.role
        statusCode := code u.status
        emailVerifiedAt := u.emailVerifiedAt
        deletionRequestedAt := u.deletionRequestedAt
        deletionScheduledFor := u.deletionScheduledFor
        deletionSession := u.deletionSession
        deletionTrace := u.deletionTrace
        deletedAt := u.deletedAt
        createdAt := u.createdAt
        updatedAt := u.updatedAt } := by
  have htext c := @SqlType.ofSql_optional String _ .text c fun _ => rfl
  have htime c := @SqlType.ofSql_optional Instant _ .time c fun _ => rfl
  have huuid c := @SqlType.ofSql_optional Uuid _ .uuid c fun _ => rfl
  simp only [UserRow.read, Row.get, row, List.lookup_cons, String.reduceBEq, BEq.rfl,
    htext, htime, huuid]
  rfl

theorem User.holds_row (u : User) (hash : Option String) : (u.row hash).Holds u := by
  refine ⟨_, u.read_row hash, ?_⟩
  obtain ⟨id, email, displayName, avatarUrl, role, status, verified, requested,
    scheduled, session, trace, deleted, created, updated⟩ := u
  cases role <;> cases status <;> rfl

namespace Store

/-- The rows that show a user. -/
def rowsOf (s : Store) (user? : Option User) : List Row :=
  user?.toList.map fun u => u.row (s.passwordHash? u.id)

/-- The rows of identifiers in a column. -/
def rowsOfIds (column : String) (ids : List Uuid) : List Row :=
  ids.map fun id => [(column, .uuid id)]

theorem shows_rowsOf (s : Store) (user? : Option User) (n : Nat) :
    Reply.Shows ⟨s.rowsOf user?, n⟩ user? := by
  cases user? with
  | none => rfl
  | some u => exact ⟨_, rfl, u.holds_row _⟩

theorem lists_rowsOfIds (column : String) (ids : List Uuid) (n : Nat) :
    Reply.Lists ⟨rowsOfIds column ids, n⟩ ids := by
  refine ⟨ids, ?_, .refl ids⟩
  change (rowsOfIds column ids).mapM Row.first = .ok ids
  induction ids with
  | nil => rfl
  | cons id ids ih =>
      rw [show rowsOfIds column (id :: ids) = [(column, .uuid id)] ::
        rowsOfIds column ids from rfl, List.mapM_cons, ih]
      rfl

/-- What the tables that hold the store give. -/
def reply (s : Store) : Statement → Reply
  | .lockActiveAdmins => { rows := rowsOfIds "user_id" s.activeAdmins }
  | .revokeSessionsOfUser user except _ _ =>
      { rows := rowsOfIds "session_id" ((s.unrevoked user except).map Session.id) }
  | .deleteSessions user => { affected := s.sessionCount user }
  | st => { rows := s.rowsOf (s.shown? st) }

/-- A server with the store in its tables, which counts the identifiers that it
gives out. -/
def serve (s : Store) : Server Statement ℕ
  | .execute st, n => (.ok (s.reply st), n)
  | .control _, n => (.ok (), n)
  | .freshId, n => (.numbered n, n + 1)
  | .jitter, n => (.least, n)
  | .pause _, n => ((), n)
  | .elapsed, n => (0, n)

theorem servedBy_serve (s : Store) : s.ServedBy s.serve where
  controls _ _ := rfl
  statements st n := by
    refine ⟨s.reply st, rfl, ?_⟩
    cases st with
    | lockActiveAdmins | revokeSessionsOfUser => exact lists_rowsOfIds _ _ _
    | deleteSessions => rfl
    | selectUser | setRole | setStatus | scheduleDeletion | unscheduleDeletion =>
        exact s.shows_rowsOf _ _
    | _ => trivial

end Store

/-! ## What statements do -/

namespace Statement

/-- The entry of the audit trail that a statement appends. -/
def event? : Statement → Option AuditEvent
  | insertAudit e => some e
  | _ => none

/-- The statement changes the tables. -/
def Writes : Statement → Prop
  | ping | selectUser .. | selectUserByEmail _ | selectUserByIdentity ..
  | selectUserIdByEmail _ | lockActiveAdmins | selectIdentityOwner ..
  | selectIdentityOfUser .. | selectVerificationToken .. | selectSession _
  | selectSessionOfUser .. | lockSessionByKey _ | lockUnrevokedSession ..
  | selectLiveSessions .. | selectRefreshToken _ | selectAudit _ | selectJob _ => False
  | _ => True

end Statement

/-! ## Parts of units -/

theorem AdminGuard.evaluate_perm
    {l l' : List UserId} (h : l.Perm l') (target : UserId) :
    evaluate l target = evaluate l' target := by
  simp only [evaluate, h.length_eq, h.mem_iff]

namespace Store.ServedBy

open Sql Relational

variable {σ : Type} {s : Store} {server : Server Statement σ} (h : s.ServedBy server)

include h

theorem yields_fetch
    {α : Type} (st : Statement) {f : Reply → Except DatabaseError α} {χ : α → Prop}
    (hf : ∀ reply, s.Tells st reply → ∃ a, f reply = .ok a ∧ χ a) :
    Yields server (fetch st f) fun a sts => sts = [st] ∧ χ a := by
  refine Sql.yields_fetch fun t => ?_
  obtain ⟨reply, hanswer, htells⟩ := h.statements st t
  obtain ⟨a, hread, ha⟩ := hf reply htells
  exact ⟨reply, a, hanswer, hread, ha⟩

theorem yields_send (st : Statement) :
    Yields server (send st) fun _ sts => sts = [st] :=
  (h.yields_fetch st (f := fun _ => .ok ()) (χ := fun _ => True)
    fun _ _ => ⟨(), rfl, trivial⟩).mono fun _ _ ha => ha.1

theorem yields_lockActiveAdmins :
    Yields server lockActiveAdmins fun admins sts => sts = [.lockActiveAdmins] ∧
      ∀ target, Relational.blocks admins target = s.blocks target := by
  refine h.yields_fetch _ (f := fun reply => reply.rows.mapM Row.first) fun reply htells => ?_
  obtain ⟨admins, hread, hperm⟩ := htells
  refine ⟨admins, hread, fun target => ?_⟩
  rw [Relational.blocks, AdminGuard.evaluate_perm hperm, Store.blocks]

/-- The user that is looked up is the one of the store. -/
theorem yields_lockUser (id : UserId) :
    Yields server (lockUser id) fun user? sts =>
      sts = [.selectUser id true] ∧ user? = s.users.get? id := by
  have hfound : Yields server (findUserRow id true) fun row sts =>
      sts = [.selectUser id true] ∧ row.mapM UserRow.toUser = .ok (s.users.get? id) := by
    refine h.yields_fetch _ (f := fun reply => reply.rows.head?.mapM UserRow.read)
      fun reply htells => ?_
    change reply.Shows (s.users.get? id) at htells
    cases hget : s.users.get? id with
    | none =>
        rw [hget] at htells
        exact ⟨none, by rw [show reply.rows = [] from htells]; rfl, rfl⟩
    | some u =>
        rw [hget] at htells
        obtain ⟨row, hrows, r, hread, hu⟩ := htells
        refine ⟨some r, ?_, ?_⟩
        · rw [hrows]
          exact congrArg (Except.map some) hread
        · exact congrArg (Except.map some) hu
  refine hfound.bind fun row sts hrow => ?_
  refine (yields_ofExcept hrow.2).mono fun user? more huser => ?_
  exact ⟨by rw [hrow.1, huser.2]; rfl, huser.1⟩

/-- What an update returns is the user as updated. -/
theorem yields_update
    (st : Statement) {u : User} (hst : ∀ reply, s.Tells st reply → reply.Shows (some u)) :
    Yields server (fetchOne st UserRow.read) fun row sts =>
      sts = [st] ∧ row.toUser = .ok u := by
  rw [fetchOne_eq_fetch]
  refine h.yields_fetch st fun reply htells => ?_
  obtain ⟨row, hrows, r, hread, hu⟩ := hst reply htells
  refine ⟨r, ?_, hu⟩
  rw [Reply.readOne, hrows]
  exact hread

theorem yields_record
    (type : AuditEventType) (actor : Actor) (target : UserId) (data : Json)
    (now : Instant) :
    Yields server (Relational.record type actor target data now) fun _ sts =>
      ∃ id, sts = [.insertAudit (AuditEvent.create id type actor target data now)] := by
  refine yields_freshId.bind fun id sts hsts => ?_
  refine (h.yields_send _).mono fun _ more hmore => ⟨id, ?_⟩
  rw [hsts, hmore]
  rfl

/-- As many sessions are revoked as by the store, and nothing is noted. -/
theorem yields_revokeAll
    (user : UserId) (except : Option SessionId) (reason : RevocationReason)
    (now : Instant) :
    Yields server (Relational.revokeAll user except reason now) fun n sts =>
      sts.filterMap Statement.event? = [] ∧ n = (s.revokeAll user except reason now).1 := by
  have hcount : (s.revokeAll user except reason now).1 =
      (s.unrevoked user except).length := by rw [revokeAll_eq]
  have hrevoked := h.yields_fetch (.revokeSessionsOfUser user except reason now)
    (f := fun reply => reply.rows.mapM Row.first)
    (χ := fun l : List Uuid => l.length = (s.unrevoked user except).length)
    fun reply htells => by
      obtain ⟨l, hread, hperm⟩ := htells
      exact ⟨l, hread, by simpa using hperm.length_eq⟩
  refine Yields.bind hrevoked fun l sts hl => ?_
  rw [hl.1, hcount, ← hl.2]
  split
  next hempty =>
    refine yields_pure ⟨rfl, ?_⟩
    rw [List.isEmpty_iff.mp hempty]
    rfl
  · refine (h.yields_send _).map fun _ more hmore => ⟨?_, rfl⟩
    rw [hmore]
    rfl

/-- As many sessions are deleted as the user has, and nothing is noted. -/
theorem yields_erase (user : UserId) (now : Instant) :
    Yields server (erase user now) fun n sts =>
      sts.filterMap Statement.event? = [] ∧ n = s.sessionCount user := by
  have hdeleted := h.yields_fetch (.deleteSessions user)
    (f := fun reply => .ok reply.affected) (χ := fun n => n = s.sessionCount user)
    fun reply htells => ⟨_, rfl, htells⟩
  refine Yields.bind hdeleted fun n sts hn => ?_
  refine (h.yields_send _).bind fun _ sts₁ h₁ => ?_
  refine (h.yields_send _).bind fun _ sts₂ h₂ => ?_
  refine (h.yields_send _).map fun _ sts₃ h₃ => ⟨?_, hn.2⟩
  rw [hn.1, h₁, h₂, h₃]
  rfl

end Store.ServedBy

end AccountAuthority
