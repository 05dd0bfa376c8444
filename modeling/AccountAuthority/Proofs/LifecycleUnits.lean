import AccountAuthority.Proofs.ServedStores
import AccountAuthority.Proofs.SingleWinner

/-!
# Units on the life of accounts decide like the store

The repository that keeps its records in memory and the one over a database are
written independently of each other.  On a server that answers from a store, the
units of work on roles, statuses and deletions end as the operations of the store
do and append the same entries to the audit trail, whatever identifiers these
get.  The units keep the order of the operations from one check to the next, so
the proofs follow the branches of both.
-/

namespace AccountAuthority

open Sql

/-- The entry without its identifier. -/
def AuditEvent.anonymous (e : AuditEvent) : AuditEvent :=
  { e with id := .numbered 0 }

/-- A unit has sent `sts` and ended with `a`, as the store has done that went from
`s` to `s'` and answered `expected`. -/
structure DecidesLike {α : Type} (s : Store) (expected : α × Store) (a : α)
    (sts : List Statement) : Prop where
  outcome : a = expected.1
  events : ∃ events, expected.2.audit = s.audit ++ events ∧
    (sts.filterMap Statement.event?).map AuditEvent.anonymous =
      events.map AuditEvent.anonymous
  quiet : expected.2 = s → ∀ st ∈ sts, ¬st.Writes

namespace DecidesLike

variable {α : Type} {s s' : Store} {a : α} {sts : List Statement}

/-- The store is left alone, and the unit only looks up. -/
theorem of_unchanged (h : ∀ st ∈ sts, ¬st.Writes) : DecidesLike s (a, s) a sts where
  outcome := rfl
  events := by
    have hnone : sts.filterMap Statement.event? = [] := by
      refine List.filterMap_eq_nil_iff.mpr fun st hst => ?_
      cases st with
      | insertAudit e => exact absurd trivial (h _ hst)
      | _ => rfl
    exact ⟨[], (List.append_nil _).symm, by rw [hnone]⟩
  quiet _ := h

theorem of_locked (target : UserId) :
    DecidesLike s (a, s) a [.lockActiveAdmins, .selectUser target true] :=
  of_unchanged (by simp [Statement.Writes])

theorem of_lookedUp (target : UserId) : DecidesLike s (a, s) a [.selectUser target true] :=
  of_unchanged (by simp [Statement.Writes])

/-- An operation that appends to the audit trail changes the store. -/
theorem of_events
    {events : List AuditEvent} (hsome : events ≠ [])
    (haudit : s'.audit = s.audit ++ events)
    (hsent : (sts.filterMap Statement.event?).map AuditEvent.anonymous =
      events.map AuditEvent.anonymous) :
    DecidesLike s (a, s') a sts where
  outcome := rfl
  events := ⟨events, haudit, hsent⟩
  quiet hsame := by
    rw [show s' = s from hsame] at haudit
    exact absurd (List.self_eq_append_right.mp haudit) hsome

/-- The last thing that is sent is the only entry for the audit trail. -/
theorem of_recorded
    (sts : List Statement) {id id' : Uuid} {type : AuditEventType} {actor : Actor}
    {target : UserId} {data : Json} {now : Instant} (hsts : sts.filterMap Statement.event? = [])
    (haudit : s'.audit =
      s.audit ++ [AuditEvent.create id' type actor target data now]) :
    DecidesLike s (a, s') a
      (sts ++ [.insertAudit (AuditEvent.create id type actor target data now)]) := by
  refine of_events (List.cons_ne_nil _ _) haudit ?_
  rw [List.filterMap_append, hsts]
  rfl

end DecidesLike

/-! ## The units -/

namespace Store.ServedBy

open Relational

variable {σ : Type} {s : Store} {server : Server Statement σ} (h : s.ServedBy server)
  (fresh : FreshIds)

include h

/-- A change to a user ends with its entry in the audit trail, and the user as
changed. -/
theorem yields_record_userOf
    {α : Type} {row : UserRow} {u : User} (hrow : row.toUser = .ok u)
    (type : AuditEventType) (actor : Actor) (target : UserId) (data : Json)
    (now : Instant) (f : User → α) :
    Yields server
      (Relational.record type actor target data now >>= fun _ =>
        userOf row >>= fun user => pure (f user))
      fun a sts => a = f u ∧
        ∃ id, sts = [.insertAudit (AuditEvent.create id type actor target data now)] := by
  refine (h.yields_record type actor target data now).bind fun _ sts hsts => ?_
  refine (yields_ofExcept hrow).map fun user more huser => ?_
  rw [huser.1, huser.2, List.append_nil]
  exact ⟨rfl, hsts⟩

/-- The units that can take away an administrator lock all of them, and look at the
user after that. -/
theorem yields_guarded
    {α : Type} {target : UserId} {k : List UserId → Option User → Relational α}
    {ψ : α → List Statement → Prop}
    (hk : ∀ admins, (∀ id, Relational.blocks admins id = s.blocks id) →
      Yields server (k admins (s.users.get? target)) fun a sts =>
        ψ a ([.lockActiveAdmins, .selectUser target true] ++ sts)) :
    Yields server
      (lockActiveAdmins >>= fun admins => lockUser target >>= fun user? =>
        k admins user?) ψ := by
  refine h.yields_lockActiveAdmins.bind fun admins _ hadmins => ?_
  obtain ⟨rfl, hblocks⟩ := hadmins
  refine (h.yields_lockUser target).bind fun user? _ huser => ?_
  obtain ⟨rfl, rfl⟩ := huser
  exact hk admins hblocks

theorem decides_changeRole
    (actor : Actor) (target : UserId) (role : Role) (now : Instant) :
    Yields server (Relational.changeRole actor target role now) fun a sts =>
      DecidesLike s (s.changeRole actor target role now fresh) a sts ∧
        sts.head? = some .lockActiveAdmins := by
  refine h.yields_guarded fun admins hblocks => ?_
  unfold Store.changeRole
  cases hget : s.users.get? target with
  | none => exact yields_pure ⟨.of_locked target, rfl⟩
  | some user =>
      dsimp only
      rw [hblocks]
      split
      · exact yields_pure ⟨.of_locked target, rfl⟩
      split
      · exact yields_pure ⟨.of_locked target, rfl⟩
      split
      · exact yields_pure ⟨.of_locked target, rfl⟩
      have hupdate := h.yields_update (.setRole target role now)
        (u := { user with role, updatedAt := now }) fun reply htells => by
          simpa [Tells, shown?, hget] using htells
      refine hupdate.bind fun row _ hrow => ?_
      obtain ⟨rfl, hrow⟩ := hrow
      refine (h.yields_record_userOf hrow _ actor target _ now _).mono ?_
      rintro _ _ ⟨rfl, id, rfl⟩
      exact ⟨.of_recorded [_, _, _] rfl rfl, rfl⟩

theorem decides_changeStatus
    (actor : Actor) (target : UserId) (status : Status) (reason : Option String)
    (now : Instant) :
    Yields server (Relational.changeStatus actor target status reason now) fun a sts =>
      DecidesLike s (s.changeStatus actor target status reason now fresh) a sts ∧
        sts.head? = some .lockActiveAdmins := by
  refine h.yields_guarded fun admins hblocks => ?_
  unfold Store.changeStatus
  cases hget : s.users.get? target with
  | none => exact yields_pure ⟨.of_locked target, rfl⟩
  | some user =>
      dsimp only
      rw [hblocks]
      split
      · exact yields_pure ⟨.of_locked target, rfl⟩
      split
      · exact yields_pure ⟨.of_locked target, rfl⟩
      split
      · exact yields_pure ⟨.of_locked target, rfl⟩
      have hupdate := h.yields_update (.setStatus target status now)
        (u := { user with status, updatedAt := now }) fun reply htells => by
          simpa [Tells, shown?, hget] using htells
      refine hupdate.bind fun row _ hrow => ?_
      obtain ⟨rfl, hrow⟩ := hrow
      by_cases hsuspended : status = .suspended
      · simp only [if_pos hsuspended]
        refine (h.yields_revokeAll target none .userSuspended now).bind
          fun n sts hn => ?_
        obtain ⟨hsts, rfl⟩ := hn
        refine (h.yields_record_userOf hrow _ actor target _ now _).mono ?_
        rintro _ _ ⟨rfl, id, rfl⟩
        rw [← List.append_assoc, ← List.append_assoc]
        simp only [Store.revokeAll_eq]
        exact ⟨.of_recorded _ (by simpa [Statement.event?] using hsts) rfl, rfl⟩
      · simp only [if_neg hsuspended]
        refine (yields_pure (φ := fun n sts => n = 0 ∧ sts = []) ⟨rfl, rfl⟩).bind
          fun n sts hn => ?_
        obtain ⟨rfl, rfl⟩ := hn
        refine (h.yields_record_userOf hrow _ actor target _ now _).mono ?_
        rintro _ _ ⟨rfl, id, rfl⟩
        exact ⟨.of_recorded [_, _, _] rfl rfl, rfl⟩

theorem decides_requestDeletion
    (actor : Actor) (target : UserId) (scheduledFor now : Instant) :
    Yields server (Relational.requestDeletion actor target scheduledFor now) fun a sts =>
      DecidesLike s (s.requestDeletion actor target scheduledFor now fresh) a sts := by
  refine (h.yields_lockUser target).bind fun user? _ huser => ?_
  obtain ⟨rfl, rfl⟩ := huser
  unfold Store.requestDeletion
  cases hget : s.users.get? target with
  | none => exact yields_pure (.of_lookedUp target)
  | some user =>
      dsimp only
      split
      · exact yields_pure (.of_lookedUp target)
      split
      · exact yields_pure (.of_lookedUp target)
      have hupdate := h.yields_update
        (.scheduleDeletion target actor scheduledFor now)
        (u := { user with
          deletionRequestedAt := some now
          deletionScheduledFor := some scheduledFor
          deletionSession := actor.session
          deletionTrace := actor.trace
          updatedAt := now }) fun reply htells => by
            simpa [Tells, shown?, hget] using htells
      refine hupdate.bind fun row _ hrow => ?_
      obtain ⟨rfl, hrow⟩ := hrow
      refine (h.yields_record_userOf hrow _ actor target _ now _).mono ?_
      rintro _ _ ⟨rfl, id, rfl⟩
      exact .of_recorded [_, _] rfl rfl

theorem decides_cancelDeletion (actor : Actor) (target : UserId) (now : Instant) :
    Yields server (Relational.cancelDeletion actor target now) fun a sts =>
      DecidesLike s (s.cancelDeletion actor target now fresh) a sts := by
  refine (h.yields_lockUser target).bind fun user? _ huser => ?_
  obtain ⟨rfl, rfl⟩ := huser
  unfold Store.cancelDeletion
  cases hget : s.users.get? target with
  | none => exact yields_pure (.of_lookedUp target)
  | some user =>
      dsimp only
      split
      · exact yields_pure (.of_lookedUp target)
      cases user.deletionScheduledFor with
      | none => exact yields_pure (.of_lookedUp target)
      | some scheduledFor =>
          have hupdate := h.yields_update (.unscheduleDeletion target now)
            (u := { user with
              deletionRequestedAt := none
              deletionScheduledFor := none
              deletionSession := none
              deletionTrace := none
              updatedAt := now }) fun reply htells => by
                simpa [Tells, shown?, hget] using htells
          refine hupdate.bind fun row _ hrow => ?_
          obtain ⟨rfl, hrow⟩ := hrow
          refine (h.yields_record_userOf hrow _ actor target _ now _).mono ?_
          rintro _ _ ⟨rfl, id, rfl⟩
          exact .of_recorded [_, _] rfl rfl

theorem decides_finalizeDeletion
    (id : UserId) (trace : Option String) (now : Instant) :
    Yields server (Relational.finalizeDeletion id trace now) fun a sts =>
      DecidesLike s (s.finalizeDeletion id trace now fresh) a sts ∧
        sts.head? = some .lockActiveAdmins := by
  refine h.yields_guarded fun admins hblocks => ?_
  unfold Store.finalizeDeletion
  cases hget : s.users.get? id with
  | none => exact yields_pure ⟨.of_locked id, rfl⟩
  | some user =>
      dsimp only
      split
      · exact yields_pure ⟨.of_locked id, rfl⟩
      cases user.deletionScheduledFor with
      | none => exact yields_pure ⟨.of_locked id, rfl⟩
      | some scheduledFor =>
          dsimp only
          split
          · exact yields_pure ⟨.of_locked id, rfl⟩
          rw [hblocks]
          split
          · refine (h.yields_record _ _ _ _ now).map fun _ sts hsts => ?_
            obtain ⟨eventId, rfl⟩ := hsts
            exact ⟨.of_recorded [_, _] rfl rfl, rfl⟩
          · refine (h.yields_erase id now).bind fun n sts hn => ?_
            obtain ⟨hsts, rfl⟩ := hn
            refine (h.yields_record _ _ _ _ now).bind fun _ sts₁ h₁ => ?_
            refine (h.yields_record _ _ _ _ now).map fun _ sts₂ h₂ => ?_
            obtain ⟨eventId, rfl⟩ := h₁
            obtain ⟨nextId, rfl⟩ := h₂
            refine ⟨.of_events (List.cons_ne_nil _ _) (List.append_assoc ..) ?_, rfl⟩
            simp only [List.filterMap_append, hsts]
            rfl

end Store.ServedBy

/-! ## Requests -/

/-- The request is about the role, the status or the deletion of a user. -/
def RepositoryRequest.IsLifecycle : RepositoryRequest → Prop
  | .changeRole .. | .changeStatus .. | .requestDeletion .. | .cancelDeletion ..
  | .finalizeDeletion .. => True
  | _ => False

/-- The request can take away an active administrator. -/
def RepositoryRequest.GuardsAdmins : RepositoryRequest → Prop
  | .changeRole .. | .changeStatus .. | .finalizeDeletion .. => True
  | _ => False

/-- A request on the life of accounts is a unit under the guard that decides like
the store. -/
theorem Store.ServedBy.exists_unit
    {σ : Type} {s : Store} {server : Server Statement σ} (h : s.ServedBy server)
    (config : RetryConfig) {r : RepositoryRequest} (hr : r.IsLifecycle)
    (fresh : FreshIds) :
    ∃ work, Relational.perform config r = Relational.unit config work ∧
      Yields server work fun a sts => DecidesLike s (s.perform r fresh) a sts ∧
        (r.GuardsAdmins → sts.head? = some .lockActiveAdmins) := by
  cases r with
  | changeRole actor target role now =>
      exact ⟨_, rfl, (h.decides_changeRole fresh actor target role now).mono
        fun _ _ ha => ⟨ha.1, fun _ => ha.2⟩⟩
  | changeStatus actor target status reason now =>
      exact ⟨_, rfl, (h.decides_changeStatus fresh actor target status reason now).mono
        fun _ _ ha => ⟨ha.1, fun _ => ha.2⟩⟩
  | requestDeletion actor target scheduledFor now =>
      exact ⟨_, rfl, (h.decides_requestDeletion fresh actor target scheduledFor now).mono
        fun _ _ ha => ⟨ha, nofun⟩⟩
  | cancelDeletion actor target now =>
      exact ⟨_, rfl, (h.decides_cancelDeletion fresh actor target now).mono
        fun _ _ ha => ⟨ha, nofun⟩⟩
  | finalizeDeletion user trace now =>
      exact ⟨_, rfl, (h.decides_finalizeDeletion fresh user trace now).mono
        fun _ _ ha => ⟨ha.1, fun _ => ha.2⟩⟩
  | _ => exact absurd hr id

/-- Let a server answer from a store.  Then each request on the life of accounts is
one transaction that is committed at the first attempt.  It ends as the request
to the store does, whatever identifiers that draws; it appends the same entries
to the audit trail, in the same order; it writes nothing if the store stays as it
is; and where an administrator could be lost, it locks all of them before
anything else. -/
theorem lifecycle_units_decide_like_store
    {σ : Type} {s : Store} {server : Server Statement σ} (hserver : s.ServedBy server)
    (t : σ) (config : RetryConfig) (r : RepositoryRequest) (hr : r.IsLifecycle)
    (fresh : FreshIds) :
    let c := (Relational.perform config r).converse server t
    ∃ a sts, c.result = .ok a ∧
      c.messages.map Message.sent =
        .control .begin :: .control .serializable :: sts.map Sent.statement ++
          [.control .commit] ∧
      DecidesLike s (s.perform r fresh) a sts ∧
      (r.GuardsAdmins → sts.head? = some .lockActiveAdmins) := by
  obtain ⟨work, hwork, hyields⟩ := hserver.exists_unit config hr fresh
  rw [hwork]
  exact converse_unit_of_yields hserver.controls hyields config t

/-- A user with a session is suspended, as there is no administrator to lose. -/
theorem lifecycle_units_decide_like_store_suspending :
    let r : RepositoryRequest :=
      .changeStatus {} ⟨0⟩ .suspended (some "reason") ⟨20, 0⟩
    let c := (Relational.perform (.immediate 3) r).converse justOpened.serve 0
    justOpened.ServedBy justOpened.serve ∧ r.IsLifecycle ∧
      ∃ sts : List Statement, c.result =
          .ok (.changed { sampleUser with status := .suspended, updatedAt := ⟨20, 0⟩ }) ∧
        c.messages.map Message.sent =
          .control .begin :: .control .serializable :: sts.map Sent.statement ++
            [.control .commit] ∧
        (sts.filterMap Statement.event?).map AuditEvent.anonymous =
          [(AuditEvent.create default .statusChanged {} ⟨0⟩
            (AuditEvent.statusChange .active .suspended (some "reason") 1)
            ⟨20, 0⟩).anonymous] ∧
        sts.head? = some .lockActiveAdmins := by
  intro r c
  obtain ⟨a, sts, hresult, hsent, hdecides, hhead⟩ :=
    lifecycle_units_decide_like_store justOpened.servedBy_serve 0 (.immediate 3) r
      trivial .zero
  refine ⟨justOpened.servedBy_serve, trivial, sts, ?_, hsent, ?_, hhead trivial⟩
  · rw [show c.result = .ok a from hresult, hdecides.outcome]
    rfl
  · obtain ⟨events, haudit, hevents⟩ := hdecides.events
    rw [hevents, show events = _ from haudit.symm]
    rfl

end AccountAuthority
