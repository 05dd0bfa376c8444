import AccountAuthority.Proofs.Instants
import AccountAuthority.Proofs.RotationChains
import AccountAuthority.Proofs.UserRecords
import AccountAuthority.Service.Deletion

/-!
# How accounts come to be deleted

A schedule in the record of a user is always that of the last request for
deletion, which has not been withdrawn.  A deletion goes by this schedule alone,
so an account is deleted no earlier than its owner was told, and the record that
is left is final.
-/

namespace AccountAuthority

open Store

/-- The account of a user has been deleted. -/
def Store.Deleted (s : Store) (id : UserId) : Prop :=
  ∃ u, s.users.get? id = some u ∧ u.status = .deleted

instance (s : Store) (id : UserId) : Decidable (s.Deleted id) :=
  inferInstanceAs (Decidable (∃ u, u ∈ s.users.get? id ∧ u.status = .deleted))

namespace Operation

/-- A deletion has been requested, and the answer is that it is scheduled. -/
def Schedules (op : Operation) (s : Store) (id : UserId)
    (scheduledFor : Instant) : Prop :=
  ∃ actor now u, op.exchange s =
    ⟨.requestDeletion actor id scheduledFor now, .requested u⟩

/-- The request of a user has been withdrawn, and the answer says so. -/
def Withdraws (op : Operation) (s : Store) (id : UserId) : Prop :=
  ∃ actor now u, op.exchange s = ⟨.cancelDeletion actor id now, .cancelled u⟩

theorem Withdraws.get?_user
    {op : Operation} {s : Store} {id : UserId} (h : op.Withdraws s id) :
    ∃ v, (op.apply s).users.get? id = some v ∧ v.deletionScheduledFor = none := by
  obtain ⟨r, fresh⟩ := op
  obtain ⟨actor, now, u, hexchange⟩ := h
  obtain ⟨rfl, hanswer⟩ := Exchange.mk.inj hexchange
  have hcancelled :
      (s.cancelDeletion actor id now fresh).1 = .cancelled u := eq_of_heq hanswer
  simp only [apply, perform]
  unfold cancelDeletion at hcancelled ⊢
  split at hcancelled
  · cases hcancelled
  next w hw =>
    split at hcancelled
    · cases hcancelled
    next hlive =>
      split at hcancelled
      · cases hcancelled
      next scheduledFor hscheduled =>
        obtain rfl := id_of_get?_user s hw
        rw [if_neg hlive]
        exact ⟨_, (Table.get?_insert ..).trans (if_pos rfl), rfl⟩

end Operation

/-- A deletion has been scheduled in a run, and has not been withdrawn since. -/
def Standing (ops : List Operation) (id : UserId) (scheduledFor : Instant) :
    Prop :=
  ∃ pre op post, ops = pre ++ op :: post ∧
    op.Schedules (Store.empty.run pre) id scheduledFor ∧
    ∀ mid o rest, post = mid ++ o :: rest →
      ¬o.Withdraws (Store.empty.run (pre ++ op :: mid)) id

theorem Standing.of_schedules
    {ops : List Operation} {op : Operation} {id : UserId} {scheduledFor : Instant}
    (h : op.Schedules (Store.empty.run ops) id scheduledFor) :
    Standing (ops ++ [op]) id scheduledFor :=
  ⟨ops, op, [], rfl, h, fun _ _ _ hsplit => by simp at hsplit⟩

theorem Standing.concat
    {ops : List Operation} {id : UserId} {scheduledFor : Instant}
    (h : Standing ops id scheduledFor) {op : Operation}
    (hop : ¬op.Withdraws (Store.empty.run ops) id) :
    Standing (ops ++ [op]) id scheduledFor := by
  obtain ⟨pre, req, post, rfl, hreq, hkept⟩ := h
  refine ⟨pre, req, post ++ [op], by simp, hreq, fun mid o rest hsplit => ?_⟩
  rcases split_concat hsplit with ⟨rfl, rfl, -⟩ | ⟨init, -, hpost⟩
  · exact hop
  · exact hkept mid o init hpost

/-- A schedule in the record of a user is that of a request that stands. -/
theorem standing_of_scheduled
    {ops : List Operation}
    (hstays : ∀ op ∈ ops, ∀ u ∈ op.request.newAccounts, u.Stays) {v : User}
    {scheduledFor : Instant} (hv : v ∈ (Store.empty.run ops).users.rows)
    (hscheduled : v.deletionScheduledFor = some scheduledFor) :
    Standing ops v.id scheduledFor := by
  induction ops using List.reverseRecOn generalizing v with
  | nil => exact absurd hv List.not_mem_nil
  | append_singleton ops op ih =>
      simp only [List.mem_append, List.mem_singleton] at hstays
      rw [run_concat] at hv
      have hkept : ¬op.Withdraws (Store.empty.run ops) v.id := by
        intro hwithdraws
        obtain ⟨w, hw, hnone⟩ := hwithdraws.get?_user
        obtain rfl := Option.some.inj ((Table.get?_key hv).symm.trans hw)
        rw [hscheduled] at hnone
        cases hnone
      rcases op.user_origin hv with ⟨hnew, -⟩ | ⟨u, hu, hstep⟩
      · have hnone := (hstays op (Or.inr rfl) v hnew).unscheduled
        rw [hscheduled] at hnone
        cases hnone
      · have hbefore (h : u.deletionScheduledFor = some scheduledFor) :
            Standing ops u.id scheduledFor :=
          ih (fun o ho => hstays o (Or.inl ho)) hu h
        cases hstep with
        | kept | noted | roleSet | statusSet =>
            exact (hbefore hscheduled).concat hkept
        | scheduled actor scheduledFor' now _ hexchange =>
            obtain rfl := Option.some.inj hscheduled
            exact .of_schedules ⟨actor, now, _, hexchange⟩
        | withdrawn | scrubbed => cases hscheduled

/-- Whoever comes to be deleted had a standing request, and was due. -/
theorem Operation.standing_of_deleted
    {ops : List Operation} {op : Operation} {id : UserId}
    (hlive : op.request.SetsLiveStatus)
    (hstays : ∀ o ∈ ops ++ [op], ∀ u ∈ o.request.newAccounts, u.Stays)
    (hbefore : ¬(Store.empty.run ops).Deleted id)
    (hafter : (Store.empty.run (ops ++ [op])).Deleted id) :
    ∃ trace now scheduledFor, op.request = .finalizeDeletion id trace now ∧
      scheduledFor ≤ now ∧ Standing ops id scheduledFor := by
  obtain ⟨v, hget, hv⟩ := hafter
  obtain ⟨hmem, rfl : v.id = id⟩ := Table.get?_eq_some_iff.mp hget
  rw [run_concat] at hmem
  simp only [List.mem_append, List.mem_singleton] at hstays
  rcases op.user_origin hmem with ⟨hnew, -⟩ | ⟨u, hu, hstep⟩
  · exact absurd hv (hstays op (Or.inr rfl) v hnew).live
  · have hid : v.id = u.id := hstep.id_eq
    have hulive : u.status ≠ .deleted := fun hdeleted =>
      hbefore ⟨u, hid ▸ Table.get?_key hu, hdeleted⟩
    obtain ⟨trace, scheduledFor, now, hscheduled, hdue, hrequest, -⟩ :=
      hstep.exists_due hlive hulive hv
    refine ⟨trace, now, scheduledFor, ?_, Instant.not_lt.mp hdue, ?_⟩
    · rw [hid]
      exact hrequest
    · exact hid ▸ standing_of_scheduled (fun o ho => hstays o (Or.inl ho)) hu
        hscheduled

/-! ## The record of a deleted account -/

/-- No operation changes the record of a deleted account, unless it makes an
account with the same identifier. -/
theorem Operation.get?_user_of_deleted
    {op : Operation} {s : Store} {u : User} (hu : s.users.get? u.id = some u)
    (hdeleted : u.status = .deleted) (hid : u.id ∉ op.newUsers) :
    (op.apply s).users.get? u.id = some u := by
  obtain ⟨v, hv, hstep⟩ := op.recordsStep s u.id u hid hu
  rw [hv, hstep.eq_of_deleted hdeleted]

theorem Store.get?_user_run_of_deleted
    {s : Store} {ops : List Operation} {u : User}
    (hu : s.users.get? u.id = some u) (hdeleted : u.status = .deleted)
    (hid : u.id ∉ drawnUsers ops) : (s.run ops).users.get? u.id = some u := by
  induction ops using List.reverseRecOn with
  | nil => exact hu
  | append_singleton ops op ih =>
      rw [drawnUsers_concat, List.mem_append, not_or] at hid
      rw [run_concat]
      exact Operation.get?_user_of_deleted (ih hid.1) hdeleted hid.2

theorem Store.finalizeDeletion_of_deleted
    {s : Store} {id : UserId} {u : User} (hu : s.users.get? id = some u)
    (hdeleted : u.status = .deleted) (trace : Option String) (now : Instant)
    (fresh : FreshIds) :
    s.finalizeDeletion id trace now fresh = (.skipped .alreadyDeleted, s) := by
  simp only [finalizeDeletion, hu, hdeleted, if_true]

/-- What a job says about the time does not matter. -/
theorem Service.finalize_eq
    (blockedRetry : Span) (user : UserId) (announced announced' : Instant)
    (trace : Option String) :
    finalize blockedRetry ⟨user, announced⟩ trace =
      finalize blockedRetry ⟨user, announced'⟩ trace := by
  refine congrArg (Program.ask _) (funext fun now => congrArg (Program.ask _) ?_)
  funext answer
  rcases answer with e | outcome
  · rfl
  · cases outcome <;> rfl

/-- In a run in which every new user gets a new identifier and nobody is deleted
by a change of status: an account comes to be deleted only by the operation that
carries deletions out, at a time when a request for deletion stands that is due,
whatever a job says about the time.  From then on its record stays, and there is
nothing left to carry out.  New accounts are as `User.create` makes them, from
which the services start every account: neither deleted nor scheduled for deletion
(`User.stays_create`). -/
theorem deleted_when_due_for_good
    {ops pre post : List Operation} {op : Operation}
    (hsplit : ops = pre ++ op :: post)
    (hlive : ∀ o ∈ ops, o.request.SetsLiveStatus)
    (hstays : ∀ o ∈ ops, ∀ u ∈ o.request.newAccounts, u.Stays)
    (hnodup : (drawnUsers ops).Nodup) {id : UserId}
    (hbefore : ¬(Store.empty.run pre).Deleted id)
    (hafter : (Store.empty.run (pre ++ [op])).Deleted id) :
    (∃ trace now scheduledFor, op.request = .finalizeDeletion id trace now ∧
      scheduledFor ≤ now ∧ Standing pre id scheduledFor) ∧
    (∀ blockedRetry announced announced' trace,
      Service.finalize blockedRetry ⟨id, announced⟩ trace =
        Service.finalize blockedRetry ⟨id, announced'⟩ trace) ∧
    ∀ mid rest, post = mid ++ rest →
      (Store.empty.run (pre ++ op :: mid)).users.get? id =
        (Store.empty.run (pre ++ [op])).users.get? id ∧
      ∀ trace now fresh,
        ((Store.empty.run (pre ++ op :: mid)).finalizeDeletion id trace now
          fresh).1 = .skipped .alreadyDeleted := by
  subst hsplit
  refine ⟨?_, fun retry => Service.finalize_eq retry id, ?_⟩
  · refine Operation.standing_of_deleted (hlive op (by simp)) ?_ hbefore hafter
    intro o ho
    refine hstays o ?_
    rcases List.mem_append.mp ho with hpre | hop
    · simp [hpre]
    · simp [List.mem_singleton.mp hop]
  · rintro mid rest rfl
    obtain ⟨u, hu, hdeleted⟩ := hafter
    obtain rfl := id_of_get?_user _ hu
    -- The user is there, so nobody gets the identifier again.
    have hid : u.id ∉ drawnUsers mid := by
      intro hmem
      have hnodup' : (drawnUsers ((pre ++ [op]) ++ (mid ++ rest))).Nodup := by
        simpa using hnodup
      have hnone := get?_drawnUser_of_append hnodup' u.id
        (by simp [drawnUsers_append, hmem])
      rw [hu] at hnone
      cases hnone
    have hstill := get?_user_run_of_deleted hu hdeleted hid
    rw [← run_append, List.append_assoc, List.singleton_append] at hstill
    refine ⟨hstill.trans hu.symm, fun trace now fresh => ?_⟩
    rw [finalizeDeletion_of_deleted hstill hdeleted]

/-! ## A deletion that is withdrawn and requested again -/

/-- The deletion is requested, withdrawn, requested again, and tried too
early. -/
def beforeDeletion : List Operation := [
  ⟨.createUser sampleUser "password", .zero⟩,
  ⟨.requestDeletion {} sampleUser.id ⟨100, 0⟩ ⟨0, 0⟩, .zero⟩,
  ⟨.cancelDeletion {} sampleUser.id ⟨10, 0⟩, .zero⟩,
  ⟨.requestDeletion {} sampleUser.id ⟨200, 0⟩ ⟨20, 0⟩, .zero⟩,
  ⟨.finalizeDeletion sampleUser.id none ⟨150, 0⟩, .zero⟩]

/-- The deletion is carried out. -/
def dueDeletion : Operation :=
  ⟨.finalizeDeletion sampleUser.id none ⟨200, 0⟩, .zero⟩

/-- The deletion is requested and tried once more. -/
def afterDeletion : List Operation := [
  ⟨.requestDeletion {} sampleUser.id ⟨300, 0⟩ ⟨250, 0⟩, .zero⟩,
  ⟨.finalizeDeletion sampleUser.id none ⟨300, 0⟩, .zero⟩]

theorem deleted_when_due_for_good_sample :
    (∃ scheduledFor, scheduledFor ≤ ⟨200, 0⟩ ∧
      Standing beforeDeletion sampleUser.id scheduledFor) ∧
    (Store.empty.run (beforeDeletion ++ dueDeletion :: afterDeletion)).users.get?
        sampleUser.id =
      (Store.empty.run (beforeDeletion ++ [dueDeletion])).users.get?
        sampleUser.id := by
  have hlive : ∀ o ∈ beforeDeletion ++ dueDeletion :: afterDeletion,
      o.request.SetsLiveStatus := by decide
  have hstays : ∀ o ∈ beforeDeletion ++ dueDeletion :: afterDeletion,
      ∀ u ∈ o.request.newAccounts, u.Stays := by
    have hsample : ∀ o ∈ beforeDeletion ++ dueDeletion :: afterDeletion,
        ∀ u ∈ o.request.newAccounts, u = sampleUser := by decide
    intro o ho u hu
    rw [hsample o ho u hu]
    exact ⟨by decide, rfl⟩
  have hbefore : ¬(Store.empty.run beforeDeletion).Deleted sampleUser.id := by
    decide
  have hafter : (Store.empty.run (beforeDeletion ++ [dueDeletion])).Deleted
      sampleUser.id := by decide
  obtain ⟨⟨trace, now, scheduledFor, hrequest, hle, hstanding⟩, -, hkept⟩ :=
    deleted_when_due_for_good rfl hlive hstays (by decide) hbefore hafter
  cases hrequest
  exact ⟨⟨scheduledFor, hle, hstanding⟩, (hkept afterDeletion [] (by simp)).1⟩

end AccountAuthority
