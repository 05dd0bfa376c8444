import AccountAuthority.Proofs.RotationChains
import AccountAuthority.Proofs.SessionWork
import AccountAuthority.Proofs.UserRecords

/-!
# What the audit trail tells of an account

Entries are only added to the audit trail, and an operation adds entries about
one user at most: the one whose role, status or request for deletion it changes,
or whose deletion it holds back.  So from the entries about a user, in their
order, one reads how the account stands.  The changes of status lead from the
first status to the last, and so do the changes of role; whether a deletion is
pending, and for when, is told by the last entry that requests, withdraws or
carries out a deletion; and there is one entry that carries it out if the account
is deleted, and none otherwise.
-/

namespace AccountAuthority

open Store

/-! ## Reading entries -/

/-- An entry says a text under a name. -/
def AuditEvent.Says (e : AuditEvent) (name text : String) : Prop :=
  e.data.get? name = some (.str text)

/-- Entries of changes follow on each other, from `a` to `b`. -/
def Leads (a : String) : List AuditEvent → String → Prop
  | [], b => a = b
  | e :: es, b => e.Says "from" a ∧ ∃ c, e.Says "to" c ∧ Leads c es b

theorem Leads.concat
    {a b c : String} {es : List AuditEvent} {e : AuditEvent} (h : Leads a es b)
    (hfrom : e.Says "from" b) (hto : e.Says "to" c) : Leads a (es ++ [e]) c := by
  induction es generalizing a with
  | nil =>
      obtain rfl : a = b := h
      exact ⟨hfrom, c, hto, rfl⟩
  | cons e' es ih =>
      obtain ⟨hfirst, d, hd, hrest⟩ := h
      exact ⟨hfirst, d, hd, ih hrest⟩

/-- The entries of one kind. -/
def ofType (type : AuditEventType) (es : List AuditEvent) : List AuditEvent :=
  es.filter fun e => e.type = type

/-- Entries that decide whether a deletion is pending. -/
def AuditEventType.decides : AuditEventType → Bool
  | deletionRequested | deletionCancelled | deletionFinalized => true
  | _ => false

/-- The last entry that decides whether a deletion is pending. -/
def lastDecision? (es : List AuditEvent) : Option AuditEvent :=
  (es.filter fun e => e.type.decides).getLast?

section

variable {es : List AuditEvent} {e : AuditEvent} {type : AuditEventType}

theorem ofType_concat_of_eq (h : e.type = type) :
    ofType type (es ++ [e]) = ofType type es ++ [e] := by
  simp [ofType, h]

theorem ofType_concat_of_ne (h : e.type ≠ type) :
    ofType type (es ++ [e]) = ofType type es := by
  simp [ofType, h]

theorem lastDecision?_concat_of_decides (h : e.type.decides = true) :
    lastDecision? (es ++ [e]) = some e := by
  simp [lastDecision?, h]

theorem lastDecision?_concat_of_not_decides (h : e.type.decides = false) :
    lastDecision? (es ++ [e]) = lastDecision? es := by
  simp [lastDecision?, h]

end

/-- The entries `es` tell how an account that was `u` at first has come to be
`v`. -/
structure Told (u v : User) (es : List AuditEvent) : Prop where
  status : Leads (code u.status) (ofType .statusChanged es) (code v.status)
  role : v.status ≠ .deleted →
    Leads (code u.role) (ofType .roleChanged es) (code v.role)
  pending : v.deletionScheduledFor.isSome = true ↔
    ∃ e, lastDecision? es = some e ∧ e.type = .deletionRequested
  schedule : ∀ scheduledFor e, v.deletionScheduledFor = some scheduledFor →
    lastDecision? es = some e →
    e.data.get? "scheduled_utc" = some scheduledFor.toJson
  finalized : (ofType .deletionFinalized es).length =
    if v.status = .deleted then 1 else 0

/-! ## What one operation tells -/

/-- What an operation makes of the record of a user, with the entries that it
adds about them. -/
inductive ToldStep (A : List Status) (u : User) : List AuditEvent → User → Prop
  | silent (v : User) (id : v.id = u.id) (role : v.role = u.role)
      (status : v.status = u.status)
      (scheduled : v.deletionScheduledFor = u.deletionScheduledFor) :
      ToldStep A u [] v
  | roleChanged (e : AuditEvent) (role : Role) (now : Instant)
      (live : u.status ≠ .deleted) (type : e.type = .roleChanged)
      (data : e.data = AuditEvent.roleChange u.role role) :
      ToldStep A u [e] { u with role := role, updatedAt := now }
  | statusChanged (e : AuditEvent) (status : Status) (reason : Option String)
      (revoked : ℕ) (now : Instant) (live : u.status ≠ .deleted)
      (allowed : status ∈ A) (type : e.type = .statusChanged)
      (data : e.data = AuditEvent.statusChange u.status status reason revoked) :
      ToldStep A u [e] { u with status := status, updatedAt := now }
  | requested (e : AuditEvent) (actor : Actor) (scheduledFor now : Instant)
      (type : e.type = .deletionRequested)
      (data : e.data = AuditEvent.schedule scheduledFor) :
      ToldStep A u [e] (u.scheduled actor scheduledFor now)
  | cancelled (e : AuditEvent) (now : Instant) (type : e.type = .deletionCancelled) :
      ToldStep A u [e] (u.unscheduled now)
  | blocked (e : AuditEvent) (type : e.type = .deletionBlocked) : ToldStep A u [e] u
  | finalized (e e' : AuditEvent) (now : Instant) (live : u.status ≠ .deleted)
      (type : e.type = .statusChanged)
      (data : e.data = AuditEvent.deletion u.status)
      (type' : e'.type = .deletionFinalized) :
      ToldStep A u [e, e'] (u.scrub now)

theorem ToldStep.id_eq
    {A : List Status} {u v : User} {es : List AuditEvent} (h : ToldStep A u es v) :
    v.id = u.id := by
  cases h with
  | silent v hid => exact hid
  | roleChanged | statusChanged | requested | cancelled | blocked | finalized => rfl

/-- What one operation does to the users and the audit trail; the identifiers in
`N` may be given to new users, and the status of a user may be set to one in
`A`. -/
inductive AuditStep (N : List UserId) (A : List Status) (s s' : Store) : Prop
  | unchanged (users : s'.users = s.users) (audit : s'.audit = s.audit)
  | created (u : User) (name : u.id ∈ N) (users : s'.users = s.users.insert u)
      (audit : s'.audit = s.audit)
  | told (u v : User) (es : List AuditEvent) (mem : s.users.get? u.id = some u)
      (step : ToldStep A u es v) (about : ∀ e ∈ es, e.target = u.id)
      (users : s'.users = s.users.insert v) (audit : s'.audit = s.audit ++ es)

namespace Store

variable {N : List UserId} {A : List Status} (s : Store)

/-- A user is changed in what no entry tells about. -/
theorem auditStep_of_update
    {s' : Store} {id : UserId} {u : User} (hu : s.users.get? id = some u)
    (f : User → User) (hf : ∀ u, key (f u) = key u) (hrole : (f u).role = u.role)
    (hstatus : (f u).status = u.status)
    (hscheduled : (f u).deletionScheduledFor = u.deletionScheduledFor)
    (husers : s'.users = s.users.update id f hf) (haudit : s'.audit = s.audit) :
    AuditStep N A s s' := by
  obtain ⟨hmem, rfl⟩ := Table.get?_eq_some_iff.mp hu
  exact .told u (f u) [] hu (.silent _ (hf u) hrole hstatus hscheduled) (by simp)
    (husers.trans (Table.update_eq_insert hmem f hf)) (by simp [haudit])

theorem createUser_auditStep (u : User) (hash : String) (hN : u.id ∈ N) :
    AuditStep N A s (s.createUser u hash).2 := by
  unfold createUser
  split
  · exact .unchanged rfl rfl
  · exact .created u hN rfl rfl

theorem createExternalUser_auditStep
    (u : User) (identity : ExternalIdentity) (hN : u.id ∈ N) :
    AuditStep N A s (s.createExternalUser u identity).2 := by
  unfold createExternalUser
  split
  · exact .unchanged rfl rfl
  split
  · exact .unchanged rfl rfl
  · exact .created u hN rfl rfl

theorem linkIdentity_auditStep (identity : ExternalIdentity) :
    AuditStep N A s (s.linkIdentity identity).2 := by
  unfold linkIdentity
  repeat' split
  all_goals exact .unchanged rfl rfl

theorem resetPassword_auditStep (hash newHash : String) (now : Instant) :
    AuditStep N A s (s.resetPassword hash newHash now).2 := by
  unfold resetPassword
  split
  · exact .unchanged rfl rfl
  split
  · exact .unchanged rfl rfl
  split
  · exact .unchanged rfl rfl
  split
  · exact .unchanged rfl rfl
  next u hu =>
    split
    · exact .unchanged rfl rfl
    · exact auditStep_of_update s hu (fun u => { u with updatedAt := now })
        (fun _ => rfl) rfl rfl rfl (users_revokeAll ..) (audit_revokeAll ..)

theorem verifyEmail_auditStep (hash : String) (now : Instant) :
    AuditStep N A s (s.verifyEmail hash now).2 := by
  unfold verifyEmail
  split
  · exact .unchanged rfl rfl
  split
  · exact .unchanged rfl rfl
  split
  · exact .unchanged rfl rfl
  split
  · exact .unchanged rfl rfl
  next u hu =>
    split
    · exact .unchanged rfl rfl
    split
    · exact .unchanged rfl rfl
    · exact auditStep_of_update s hu
        (fun u => { u with emailVerifiedAt := some now, updatedAt := now })
        (fun _ => rfl) rfl rfl rfl rfl rfl

theorem changePassword_auditStep
    (user : UserId) (expected new : String) (keep : Option SessionId)
    (now : Instant) :
    AuditStep N A s (s.changePassword user expected new keep now).2 := by
  unfold changePassword
  split
  · exact .unchanged rfl rfl
  next u hu =>
    split
    · exact .unchanged rfl rfl
    dsimp only
    split
    · exact auditStep_of_update s hu (fun u => { u with updatedAt := now })
        (fun _ => rfl) rfl rfl rfl rfl rfl
    · exact auditStep_of_update s hu (fun u => { u with updatedAt := now })
        (fun _ => rfl) rfl rfl rfl (users_revokeAll ..) (audit_revokeAll ..)

theorem changeRole_auditStep
    (actor : Actor) (target : UserId) (role : Role) (now : Instant)
    (fresh : FreshIds) :
    AuditStep N A s (s.changeRole actor target role now fresh).2 := by
  unfold changeRole
  split
  · exact .unchanged rfl rfl
  next u hu =>
    obtain rfl := id_of_get?_user s hu
    split
    · exact .unchanged rfl rfl
    next hlive =>
      split
      · exact .unchanged rfl rfl
      split
      · exact .unchanged rfl rfl
      · exact .told u _ _ hu (.roleChanged _ role now hlive rfl rfl)
          (by simp [AuditEvent.create]) rfl rfl

theorem changeStatus_auditStep
    (actor : Actor) (target : UserId) (status : Status)
    (reason : Option String) (now : Instant) (fresh : FreshIds)
    (hA : status ∈ A) :
    AuditStep N A s
      (s.changeStatus actor target status reason now fresh).2 := by
  unfold changeStatus
  split
  · exact .unchanged rfl rfl
  next u hu =>
    obtain rfl := id_of_get?_user s hu
    split
    · exact .unchanged rfl rfl
    next hlive =>
      split
      · exact .unchanged rfl rfl
      split
      · exact .unchanged rfl rfl
      simp only [revokeAll_eq]
      split
      all_goals
        exact .told u _ _ hu (.statusChanged _ status reason _ now hlive hA rfl rfl)
          (by simp [AuditEvent.create]) rfl rfl

theorem requestDeletion_auditStep
    (actor : Actor) (target : UserId) (scheduledFor now : Instant)
    (fresh : FreshIds) :
    AuditStep N A s
      (s.requestDeletion actor target scheduledFor now fresh).2 := by
  unfold requestDeletion
  split
  · exact .unchanged rfl rfl
  next u hu =>
    obtain rfl := id_of_get?_user s hu
    split
    · exact .unchanged rfl rfl
    split
    · exact .unchanged rfl rfl
    · exact .told u _ _ hu (.requested _ actor scheduledFor now rfl rfl)
        (by simp [AuditEvent.create]) rfl rfl

theorem cancelDeletion_auditStep
    (actor : Actor) (target : UserId) (now : Instant) (fresh : FreshIds) :
    AuditStep N A s (s.cancelDeletion actor target now fresh).2 := by
  unfold cancelDeletion
  split
  · exact .unchanged rfl rfl
  next u hu =>
    obtain rfl := id_of_get?_user s hu
    split
    · exact .unchanged rfl rfl
    split
    · exact .unchanged rfl rfl
    · exact .told u _ _ hu (.cancelled _ now rfl)
        (by simp [AuditEvent.create]) rfl rfl

theorem finalizeDeletion_auditStep
    (user : UserId) (trace : Option String) (now : Instant)
    (fresh : FreshIds) :
    AuditStep N A s (s.finalizeDeletion user trace now fresh).2 := by
  unfold finalizeDeletion
  split
  · exact .unchanged rfl rfl
  next u hu =>
    obtain rfl := id_of_get?_user s hu
    split
    · exact .unchanged rfl rfl
    next hlive =>
      split
      · exact .unchanged rfl rfl
      split
      · exact .unchanged rfl rfl
      dsimp only
      split
      · exact .told u u _ hu (.blocked _ rfl) (by simp [AuditEvent.create])
          (Table.insert_of_mem (Table.get?_eq_some_iff.mp hu).1).symm rfl
      · refine .told u (u.scrub now) _ hu ?_ ?_ rfl (List.append_assoc ..)
        · exact .finalized _ _ now hlive rfl rfl rfl
        · simp [AuditEvent.create]

end Store

theorem Operation.auditStep (op : Operation) (s : Store) :
    AuditStep op.newUsers op.request.statuses s (op.apply s) := by
  by_cases hleaves : op.request.LeavesAccounts
  · have hsame := op.sameAccounts s hleaves
    exact .unchanged hsame.users hsame.audit
  obtain ⟨r, fresh⟩ := op
  cases r with
  | createUser u hash => exact createUser_auditStep s u hash (by simp [newUsers])
  | createExternalUser u identity =>
      exact createExternalUser_auditStep s u identity (by simp [newUsers])
  | linkIdentity identity => exact linkIdentity_auditStep s identity
  | storeVerificationToken token => exact .unchanged rfl rfl
  | resetPassword hash newHash now => exact resetPassword_auditStep s hash newHash now
  | verifyEmail hash now => exact verifyEmail_auditStep s hash now
  | changePassword user expected new keep now =>
      exact changePassword_auditStep s user expected new keep now
  | changeRole actor target role now =>
      exact changeRole_auditStep s actor target role now fresh
  | changeStatus actor target status reason now =>
      exact changeStatus_auditStep s actor target status reason now fresh
        (by simp [RepositoryRequest.statuses])
  | requestDeletion actor target scheduledFor now =>
      exact requestDeletion_auditStep s actor target scheduledFor now fresh
  | cancelDeletion actor target now =>
      exact cancelDeletion_auditStep s actor target now fresh
  | finalizeDeletion user trace now =>
      exact finalizeDeletion_auditStep s user trace now fresh
  | _ => exact absurd trivial hleaves

/-! ## Entries are only added -/

section

variable {N : List UserId} {A : List Status} {s s' : Store}

theorem AuditStep.audit_grows (h : AuditStep N A s s') : s.audit <+: s'.audit := by
  cases h with
  | unchanged _ haudit | created _ _ _ haudit => exact haudit ▸ List.prefix_refl _
  | told _ _ es _ _ _ _ haudit => exact haudit ▸ List.prefix_append _ es

theorem Store.audit_grows_run (s : Store) (ops : List Operation) :
    s.audit <+: (s.run ops).audit := by
  refine run_induction (P := fun t => s.audit <+: t.audit) (List.prefix_refl _) ?_
  exact fun _ op _ _ hpre => hpre.trans (op.auditStep _).audit_grows

/-- Every entry is about a user who is there. -/
def Store.EntriesKnown (s : Store) : Prop :=
  ∀ e ∈ s.audit, ∃ u, s.users.get? e.target = some u

theorem AuditStep.exists_user
    (h : AuditStep N A s s') {id : UserId} {u : User}
    (hu : s.users.get? id = some u) : ∃ v, s'.users.get? id = some v := by
  have hinsert (w : User) : ∃ v, (s.users.insert w).get? id = some v := by
    rw [Table.get?_insert]
    split
    · exact ⟨w, rfl⟩
    · exact ⟨u, hu⟩
  cases h with
  | unchanged husers _ => exact ⟨u, by rw [husers, hu]⟩
  | created w _ husers _ => exact husers ▸ hinsert w
  | told _ w _ _ _ _ husers _ => exact husers ▸ hinsert w

theorem AuditStep.entriesKnown
    (h : AuditStep N A s s') (hs : s.EntriesKnown) : s'.EntriesKnown := by
  intro e he
  have hold (hmem : e ∈ s.audit) : ∃ v, s'.users.get? e.target = some v := by
    obtain ⟨u, hu⟩ := hs e hmem
    exact h.exists_user hu
  cases h with
  | unchanged _ haudit | created _ _ _ haudit => exact hold (haudit ▸ he)
  | told u v es hu hstep habout husers haudit =>
      rw [haudit, List.mem_append] at he
      rcases he with hmem | hnew
      · exact hold hmem
      · rw [husers, habout e hnew, ← hstep.id_eq]
        exact ⟨v, (Table.get?_insert ..).trans (if_pos rfl)⟩

theorem Store.listAudit_of_absent
    (hs : s.EntriesKnown) {id : UserId} (hnone : s.users.get? id = none) :
    s.listAudit id = [] := by
  refine List.filter_eq_nil_iff.mpr fun e he htarget => ?_
  obtain ⟨u, hu⟩ := hs e he
  rw [of_decide_eq_true htarget, hnone] at hu
  cases hu

end

/-! ## One user -/

section

variable {N : List UserId} {A : List Status} {s s' : Store} {id : UserId}

theorem listAudit_append {es : List AuditEvent} (haudit : s'.audit = s.audit ++ es) :
    s'.listAudit id = s.listAudit id ++ es.filter fun e => e.target = id := by
  rw [listAudit, haudit, List.filter_append, listAudit]

theorem AuditStep.listAudit_of_absent
    (h : AuditStep N A s s') (hnone : s.users.get? id = none) :
    s'.listAudit id = s.listAudit id := by
  cases h with
  | unchanged _ haudit | created _ _ _ haudit => rw [listAudit, haudit, listAudit]
  | told u v es hu _ habout _ haudit =>
      rw [listAudit_append haudit, List.filter_eq_nil_iff.mpr, List.append_nil]
      intro e he htarget
      rw [← of_decide_eq_true htarget, habout e he, hu] at hnone
      cases hnone

/-- What an operation does to a user who is there and the entries about them. -/
theorem AuditStep.toldStep
    (h : AuditStep N A s s') {u : User} (hu : s.users.get? id = some u)
    (hid : id ∉ N) :
    ∃ v es, s'.users.get? id = some v ∧
      s'.listAudit id = s.listAudit id ++ es ∧ ToldStep A u es v := by
  have hsilent (hkept : s'.users.get? id = some u)
      (hlist : s'.listAudit id = s.listAudit id) :
      ∃ v es, s'.users.get? id = some v ∧
        s'.listAudit id = s.listAudit id ++ es ∧ ToldStep A u es v :=
    ⟨u, [], hkept, by simp [hlist], .silent u rfl rfl rfl rfl⟩
  cases h with
  | unchanged husers haudit =>
      exact hsilent (by rw [husers, hu]) (by rw [listAudit, haudit, listAudit])
  | created w hname husers haudit =>
      refine hsilent ?_ (by rw [listAudit, haudit, listAudit])
      rw [husers, Table.get?_insert, if_neg, hu]
      rintro rfl
      exact hid hname
  | told w v es hw hstep habout husers haudit =>
      by_cases heq : w.id = id
      · subst heq
        obtain rfl := Option.some.inj (hw.symm.trans hu)
        refine ⟨v, es, ?_, ?_, hstep⟩
        · rw [husers, Table.get?_insert]
          exact if_pos hstep.id_eq.symm
        · rw [listAudit_append haudit, List.filter_eq_self.mpr]
          exact fun e he => decide_eq_true (habout e he)
      · refine hsilent ?_ ?_
        · rw [husers, Table.get?_insert, if_neg, hu]
          exact fun hkey => heq (hkey.trans hstep.id_eq).symm
        · rw [listAudit_append haudit, List.filter_eq_nil_iff.mpr, List.append_nil]
          exact fun e he htarget =>
            heq ((habout e he).symm.trans (of_decide_eq_true htarget))

end

/-! ## What the entries tell -/

section

variable {A : List Status} {u v w : User} {es es' : List AuditEvent}

theorem told_nil
    (hactive : u.status ≠ .deleted) (hunscheduled : u.deletionScheduledFor = none) :
    Told u u [] where
  status := rfl
  role _ := rfl
  pending := by simp [hunscheduled, lastDecision?]
  schedule _ _ h := by simp [hunscheduled] at h
  finalized := by simp [ofType, hactive]

theorem ToldStep.leads_status
    (h : ToldStep A v es' w) {a : String}
    (hes : Leads a (ofType .statusChanged es) (code v.status)) :
    Leads a (ofType .statusChanged (es ++ es')) (code w.status) := by
  cases h with
  | silent w _ _ hstatus _ => rwa [List.append_nil, hstatus]
  | statusChanged e status reason revoked now _ _ htype hdata =>
      have hfrom : e.Says "from" (code v.status) := by rw [AuditEvent.Says, hdata]; rfl
      have hto : e.Says "to" (code status) := by rw [AuditEvent.Says, hdata]; rfl
      rw [ofType_concat_of_eq htype]
      exact hes.concat hfrom hto
  | finalized e e' now _ htype hdata htype' =>
      have hfrom : e.Says "from" (code v.status) := by rw [AuditEvent.Says, hdata]; rfl
      have hto : e.Says "to" (code Status.deleted) := by
        rw [AuditEvent.Says, hdata]
        rfl
      rw [List.append_cons, ofType_concat_of_ne (by simp [htype']),
        ofType_concat_of_eq htype]
      exact hes.concat hfrom hto
  | roleChanged e _ _ _ htype _ | requested e _ _ _ htype _ | cancelled e _ htype
  | blocked e htype => rwa [ofType_concat_of_ne (by simp [htype])]

theorem ToldStep.leads_role
    (h : ToldStep A v es' w) {a : String}
    (hes : v.status ≠ .deleted → Leads a (ofType .roleChanged es) (code v.role))
    (hw : w.status ≠ .deleted) :
    Leads a (ofType .roleChanged (es ++ es')) (code w.role) := by
  cases h with
  | silent w _ hrole hstatus _ =>
      rw [List.append_nil, hrole]
      exact hes (hstatus ▸ hw)
  | roleChanged e role now hlive htype hdata =>
      have hfrom : e.Says "from" (code v.role) := by rw [AuditEvent.Says, hdata]; rfl
      have hto : e.Says "to" (code role) := by rw [AuditEvent.Says, hdata]; rfl
      rw [ofType_concat_of_eq htype]
      exact (hes hlive).concat hfrom hto
  | statusChanged e _ _ _ _ hlive _ htype _ =>
      rw [ofType_concat_of_ne (by simp [htype])]
      exact hes hlive
  | finalized => exact absurd rfl hw
  | requested e _ _ _ htype _ | cancelled e _ htype | blocked e htype =>
      rw [ofType_concat_of_ne (by simp [htype])]
      exact hes hw

theorem ToldStep.pending_iff
    (h : ToldStep A v es' w)
    (hes : v.deletionScheduledFor.isSome = true ↔
      ∃ e, lastDecision? es = some e ∧ e.type = .deletionRequested) :
    w.deletionScheduledFor.isSome = true ↔
      ∃ e, lastDecision? (es ++ es') = some e ∧ e.type = .deletionRequested := by
  cases h with
  | silent w _ _ _ hscheduled => rwa [List.append_nil, hscheduled]
  | requested e _ _ _ htype _ =>
      rw [lastDecision?_concat_of_decides (by rw [htype]; rfl)]
      simp [User.scheduled, htype]
  | cancelled e _ htype =>
      rw [lastDecision?_concat_of_decides (by rw [htype]; rfl)]
      simp [User.unscheduled, htype]
  | finalized e e' _ _ _ _ htype' =>
      rw [List.append_cons, lastDecision?_concat_of_decides (by rw [htype']; rfl)]
      simp [User.scrub, htype']
  | roleChanged e _ _ _ htype _ | statusChanged e _ _ _ _ _ _ htype _
  | blocked e htype =>
      rwa [lastDecision?_concat_of_not_decides (by rw [htype]; rfl)]

theorem ToldStep.schedule
    (h : ToldStep A v es' w)
    (hes : ∀ scheduledFor e, v.deletionScheduledFor = some scheduledFor →
      lastDecision? es = some e →
      e.data.get? "scheduled_utc" = some scheduledFor.toJson) :
    ∀ scheduledFor e, w.deletionScheduledFor = some scheduledFor →
      lastDecision? (es ++ es') = some e →
      e.data.get? "scheduled_utc" = some scheduledFor.toJson := by
  cases h with
  | silent w _ _ _ hscheduled => rwa [List.append_nil, hscheduled]
  | requested e _ scheduledFor _ htype hdata =>
      rw [lastDecision?_concat_of_decides (by rw [htype]; rfl)]
      rintro t e' ht he
      obtain rfl : scheduledFor = t := Option.some.inj ht
      obtain rfl : e = e' := Option.some.inj he
      rw [hdata]
      rfl
  | cancelled | finalized => exact fun _ _ hnone => by cases hnone
  | roleChanged e _ _ _ htype _ | statusChanged e _ _ _ _ _ _ htype _
  | blocked e htype =>
      rwa [lastDecision?_concat_of_not_decides (by rw [htype]; rfl)]

theorem ToldStep.length_finalized
    (h : ToldStep A v es' w) (hA : .deleted ∉ A)
    (hes : (ofType .deletionFinalized es).length =
      if v.status = .deleted then 1 else 0) :
    (ofType .deletionFinalized (es ++ es')).length =
      if w.status = .deleted then 1 else 0 := by
  cases h with
  | silent w _ _ hstatus _ => rwa [List.append_nil, hstatus]
  | statusChanged e status _ _ _ hlive hallowed htype _ =>
      have hstatus : status ≠ .deleted := by
        rintro rfl
        exact hA hallowed
      rw [ofType_concat_of_ne (by simp [htype]), hes, if_neg hlive]
      exact (if_neg hstatus).symm
  | finalized e e' _ hlive htype _ htype' =>
      rw [List.append_cons, ofType_concat_of_eq htype',
        ofType_concat_of_ne (by simp [htype]), List.length_append, hes, if_neg hlive]
      rfl
  | roleChanged e _ _ _ htype _ | requested e _ _ _ htype _ | cancelled e _ htype
  | blocked e htype => rwa [ofType_concat_of_ne (by simp [htype])]

theorem Told.toldStep
    (h : Told u v es) (hstep : ToldStep A v es' w) (hA : .deleted ∉ A) :
    Told u w (es ++ es') where
  status := hstep.leads_status h.status
  role := hstep.leads_role h.role
  pending := hstep.pending_iff h.pending
  schedule := hstep.schedule h.schedule
  finalized := hstep.length_finalized hA h.finalized

end

theorem Store.entriesKnown_run (ops : List Operation) :
    (Store.empty.run ops).EntriesKnown := by
  refine run_induction (P := EntriesKnown) (fun e he => absurd he List.not_mem_nil) ?_
  exact fun _ op _ _ hpre => (op.auditStep _).entriesKnown hpre

/-- What entries tell of a user they go on telling, as long as nobody else is
given the identifier. -/
theorem Store.told_run
    {s : Store} {u v : User} (hv : s.users.get? u.id = some v)
    (htold : Told u v (s.listAudit u.id)) {ops : List Operation}
    (hlive : ∀ op ∈ ops, op.request.SetsLiveStatus) (hid : u.id ∉ drawnUsers ops) :
    ∃ w, (s.run ops).users.get? u.id = some w ∧
      Told u w ((s.run ops).listAudit u.id) := by
  induction ops using List.reverseRecOn with
  | nil => exact ⟨v, hv, htold⟩
  | append_singleton ops op ih =>
      rw [drawnUsers_concat, List.mem_append, not_or] at hid
      simp only [List.mem_append, List.mem_singleton] at hlive
      obtain ⟨w, hw, hbefore⟩ := ih (fun o ho => hlive o (Or.inl ho)) hid.1
      obtain ⟨w', es, hw', hlist, hstep⟩ := (op.auditStep (s.run ops)).toldStep hw hid.2
      rw [run_concat, hlist]
      exact ⟨w', hw', hbefore.toldStep hstep (hlive op (Or.inr rfl))⟩

/-- However operations run, the audit trail only grows by entries at its end.
Let a user be active and not scheduled for deletion when they are made, as they
are by `User.create`, from which the services start every account; let no change of
status delete anybody from then on, and let nobody else be given their identifier.
Then the entries about them tell how they stand. -/
theorem auditTrail_tells (ops : List Operation) :
    (∀ pre post, ops = pre ++ post →
      (Store.empty.run pre).audit <+: (Store.empty.run ops).audit) ∧
    ∀ pre op post u, ops = pre ++ op :: post →
      (Store.empty.run pre).users.get? u.id = none →
      (Store.empty.run (pre ++ [op])).users.get? u.id = some u →
      u.status = .active → u.deletionScheduledFor = none →
      (∀ o ∈ post, o.request.SetsLiveStatus) → u.id ∉ drawnUsers post →
      ∃ v, (Store.empty.run ops).users.get? u.id = some v ∧
        Told u v ((Store.empty.run ops).listAudit u.id) := by
  constructor
  · rintro pre post rfl
    rw [run_append]
    exact audit_grows_run _ post
  rintro pre op post u rfl habsent hmade hactive hunscheduled hlive hid
  -- When the user is made, there are no entries about them yet.
  have hnone : (Store.empty.run (pre ++ [op])).listAudit u.id = [] := by
    rw [run_concat, (op.auditStep _).listAudit_of_absent habsent,
      Store.listAudit_of_absent (entriesKnown_run pre) habsent]
  have htold : Told u u ((Store.empty.run (pre ++ [op])).listAudit u.id) := by
    rw [hnone]
    exact told_nil (by simp [hactive]) hunscheduled
  rw [List.append_cons, run_append]
  exact told_run hmade htold hlive hid

/-- A user is suspended and active again, becomes an administrator, and cannot
step down as the only one.  Their deletion is requested, withdrawn and requested
again; it is held back until somebody else can administrate, and then carried
out, and tried once more. -/
def sampleLife : List Operation := [
  ⟨.changeStatus {} sampleUser.id .suspended none ⟨1, 0⟩, .zero⟩,
  ⟨.changeStatus {} sampleUser.id .active none ⟨2, 0⟩, .zero⟩,
  ⟨.changeRole {} sampleUser.id .admin ⟨3, 0⟩, .zero⟩,
  ⟨.changeRole {} sampleUser.id .user ⟨4, 0⟩, .zero⟩,
  ⟨.requestDeletion {} sampleUser.id ⟨50, 0⟩ ⟨5, 0⟩, .zero⟩,
  ⟨.cancelDeletion {} sampleUser.id ⟨6, 0⟩, .zero⟩,
  ⟨.requestDeletion {} sampleUser.id ⟨70, 0⟩ ⟨7, 0⟩, .zero⟩,
  ⟨.finalizeDeletion sampleUser.id none ⟨70, 0⟩, .zero⟩,
  ⟨.createUser { sampleUser with id := ⟨9⟩, email := "other", role := .admin } "",
    .zero⟩,
  ⟨.finalizeDeletion sampleUser.id none ⟨80, 0⟩, .zero⟩,
  ⟨.finalizeDeletion sampleUser.id none ⟨90, 0⟩, .zero⟩]

theorem auditTrail_tells_sample :
    let made : Operation := ⟨.createUser sampleUser "", .zero⟩
    let ops := made :: sampleLife
    Store.empty.users.get? sampleUser.id = none ∧
      (Store.empty.run [made]).users.get? sampleUser.id = some sampleUser ∧
      sampleUser.status = .active ∧ sampleUser.deletionScheduledFor = none ∧
      (∀ o ∈ sampleLife, o.request.SetsLiveStatus) ∧
      sampleUser.id ∉ drawnUsers sampleLife ∧
      ((Store.empty.run ops).listAudit sampleUser.id).map AuditEvent.type =
        [.statusChanged, .statusChanged, .roleChanged, .deletionRequested,
          .deletionCancelled, .deletionRequested, .deletionBlocked, .statusChanged,
          .deletionFinalized] ∧
      ∃ v, (Store.empty.run ops).users.get? sampleUser.id = some v ∧
        Told sampleUser v ((Store.empty.run ops).listAudit sampleUser.id) := by
  intro made ops
  have hlive : ∀ o ∈ sampleLife, o.request.SetsLiveStatus := by decide
  have hid : sampleUser.id ∉ drawnUsers sampleLife := by decide
  exact ⟨rfl, rfl, rfl, rfl, hlive, hid, by decide +kernel,
    (auditTrail_tells ops).2 [] made sampleLife sampleUser rfl rfl rfl rfl rfl hlive hid⟩

end AccountAuthority
