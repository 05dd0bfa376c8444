import AccountAuthority.Proofs.Belongings
import AccountAuthority.Proofs.RefreshTable
import AccountAuthority.Proofs.SingleWinner

/-!
# Logging out of everything at once

A new password and a suspension end the sessions of a user: those that are not
revoked yet, all but the one that may be kept.  What falls and what stands is
said for every session and every token, the number that is reported is compared
with the sessions themselves, and a session that is kept can be refreshed as if
nothing had happened.
-/

namespace AccountAuthority

/-- The session is an unrevoked one of the user, and not the one to keep. -/
def Session.Falls (user : UserId) (keep : Option SessionId) (x : Session) :
    Prop :=
  x.user = user ∧ x.revokedAt = none ∧ keep ≠ some x.id

instance (user : UserId) (keep : Option SessionId) (x : Session) :
    Decidable (x.Falls user keep) :=
  inferInstanceAs (Decidable (_ ∧ _ ∧ _))

namespace Store

/-- How many sessions were unrevoked before and are revoked afterwards. -/
def newlyRevoked (s s' : Store) : ℕ :=
  s.sessions.rows.countP fun x =>
    x.revokedAt.isNone && (s'.sessions.get? x.id).any fun y => y.revokedAt.isSome

/-- The sessions of a user have been ended but for one, and `n` is reported. -/
structure LoggedOut (s : Store) (user : UserId) (keep : Option SessionId)
    (reason : RevocationReason) (now : Instant) (n : ℕ) (s' : Store) : Prop where
  sessions : s'.sessions.rows = s.sessions.rows.map fun x =>
    if x.Falls user keep then
      { x with
        revokedAt := some now, revokedReason := some reason, activeKey := none }
    else x
  tokens : s'.tokens.rows = s.tokens.rows.map fun t =>
    if t.revokedAt = none ∧
        ∃ x ∈ s.sessions.rows, x.id = t.session ∧ x.Falls user keep then
      { t with revokedAt := some now }
    else t
  count : n = s.newlyRevoked s'
  /-- What has been revoked before is what it was. -/
  revoked_session : ∀ x ∈ s.sessions.rows, x.revokedAt.isSome = true →
    x ∈ s'.sessions.rows
  revoked_token : ∀ t ∈ s.tokens.rows, t.revokedAt.isSome = true →
    t ∈ s'.tokens.rows
  /-- The session to keep is what it was, and so is its chain. -/
  kept : ∀ x ∈ s.sessions.rows, keep = some x.id →
    x ∈ s'.sessions.rows ∧ s'.chainOf x.id = s.chainOf x.id

/-! ## The revocation of all sessions -/

section

variable {s s' : Store} {user : UserId} {keep : Option SessionId}
  {reason : RevocationReason} {now : Instant}

theorem falls_iff {x : Session} :
    (x.user = user && !x.isRevoked && some x.id ≠ keep) = true ↔
      x.Falls user keep := by
  rw [Session.Falls, Bool.and_eq_true, Bool.and_eq_true, decide_eq_true_eq,
    decide_eq_true_eq, Bool.not_eq_true', Session.isRevoked,
    Option.isSome_eq_false_iff, Option.isNone_iff_eq_none, and_assoc, ne_comm]

theorem rows_sessions_revokeAll :
    (s.revokeAll user keep reason now).2.sessions.rows =
      s.sessions.rows.map fun x =>
        if x.Falls user keep then x.revoke reason now else x := by
  rw [revokeAll_eq, rows_sessions_revokeWhere]
  refine List.map_congr_left fun x _ => ?_
  simp only [falls_iff]

theorem rows_tokens_revokeAll :
    (s.revokeAll user keep reason now).2.tokens.rows =
      s.tokens.rows.map fun t =>
        if t.revokedAt = none ∧
            ∃ x ∈ s.sessions.rows, x.id = t.session ∧ x.Falls user keep then
          { t with revokedAt := some now }
        else t := by
  rw [revokeAll_eq, rows_tokens_revokeWhere]
  refine List.map_congr_left fun t _ => ?_
  have hany : (s.sessions.rows.any fun x =>
      (x.user = user && !x.isRevoked && some x.id ≠ keep) && x.id = t.session) = true ↔
        ∃ x ∈ s.sessions.rows, x.id = t.session ∧ x.Falls user keep := by
    rw [List.any_eq_true]
    refine exists_congr fun x => and_congr_right fun _ => ?_
    rw [Bool.and_eq_true, falls_iff, decide_eq_true_eq, and_comm]
  rw [stamped]
  simp only [hany]

/-- The number that is reported counts the sessions that have been revoked. -/
theorem revokeAll_fst_eq
    (hsessions : s'.sessions = (s.revokeAll user keep reason now).2.sessions) :
    (s.revokeAll user keep reason now).1 = s.newlyRevoked s' := by
  rw [revokeAll_eq, newlyRevoked, unrevoked, ← List.countP_eq_length_filter]
  refine List.countP_congr fun x hx => ?_
  have hget : s'.sessions.get? x.id =
      some (if x.Falls user keep then x.revoke reason now else x) := by
    rw [hsessions, revokeAll_eq, get?_session_revokeWhere,
      show s.sessions.get? x.id = some x from Table.get?_key hx, Option.map_some]
    simp only [falls_iff]
  rw [falls_iff, hget, Option.any_some, Bool.and_eq_true,
    Option.isNone_iff_eq_none]
  constructor
  · intro hfalls
    rw [if_pos hfalls]
    exact ⟨hfalls.2.1, rfl⟩
  · rintro ⟨hlive, hrevoked⟩
    by_contra hstands
    rw [if_neg hstands, hlive] at hrevoked
    cases hrevoked

/-- A session that does not fall keeps its chain. -/
theorem chainOf_of_not_falls
    {x : Session} (hx : x ∈ s.sessions.rows) (hstands : ¬x.Falls user keep)
    (htokens : s'.tokens = (s.revokeAll user keep reason now).2.tokens) :
    s'.chainOf x.id = s.chainOf x.id := by
  rw [chainOf, htokens, rows_tokens_revokeAll]
  refine filter_map_of_fixed (fun t _ => ?_) fun t _ ht => if_neg ?_
  · split <;> rfl
  · rintro ⟨-, y, hy, hyt, hfalls⟩
    obtain rfl := Table.eq_of_key_eq hy hx (hyt.trans (of_decide_eq_true ht))
    exact hstands hfalls

/-- Whatever else is changed, the revocation of all sessions logs the user
out. -/
theorem loggedOut_of_revokeAll
    {n : ℕ} (hn : n = (s.revokeAll user keep reason now).1)
    (hsessions : s'.sessions = (s.revokeAll user keep reason now).2.sessions)
    (htokens : s'.tokens = (s.revokeAll user keep reason now).2.tokens) :
    s.LoggedOut user keep reason now n s' where
  sessions := by
    rw [hsessions, rows_sessions_revokeAll]
    rfl
  tokens := by rw [htokens, rows_tokens_revokeAll]
  count := hn.trans (revokeAll_fst_eq hsessions)
  revoked_session x hx hrevoked := by
    rw [hsessions, rows_sessions_revokeAll]
    refine List.mem_map.mpr ⟨x, hx, if_neg fun hfalls => ?_⟩
    rw [hfalls.2.1] at hrevoked
    cases hrevoked
  revoked_token t ht hrevoked := by
    rw [htokens, rows_tokens_revokeAll]
    refine List.mem_map.mpr ⟨t, ht, if_neg fun hstamped => ?_⟩
    rw [hstamped.1] at hrevoked
    cases hrevoked
  kept x hx hkeep := by
    have hstands : ¬x.Falls user keep := fun hfalls => hfalls.2.2 hkeep
    refine ⟨?_, chainOf_of_not_falls hx hstands htokens⟩
    rw [hsessions, rows_sessions_revokeAll]
    exact List.mem_map.mpr ⟨x, hx, if_neg hstands⟩

end

end Store

/-! ## Refreshing a session that is kept -/

section

variable (c : ServiceSettings) (raw : String) (device : Device)
  (o : Surroundings) (fresh : FreshIds)

/-- What a refresh is answered depends on the records that its token leads to,
and not on when the user was last changed. -/
theorem refreshCall_answer_eq
    {s s' : Store} {ctx ctx' : RefreshContext} {time : Instant}
    (hctx : s.findRefreshContext (c.tokenHash raw) = some ctx)
    (hctx' : s'.findRefreshContext (c.tokenHash raw) = some ctx')
    (hsame : ctx' = { ctx with user := { ctx.user with updatedAt := time } }) :
    ((refreshCall c raw device o).runAlone fresh s').1 =
      ((refreshCall c raw device o).runAlone fresh s).1 := by
  have hrefusals : Service.refreshRefusal ctx' (o 0 .now) =
      Service.refreshRefusal ctx (o 0 .now) := by rw [hsame]; rfl
  have htoken : ctx'.token = ctx.token := by rw [hsame]
  have hsession : ctx'.session = ctx.session := by rw [hsame]
  have haccess : accessRequest c ctx'.user ctx'.session.id =
      accessRequest c ctx.user ctx.session.id := by rw [hsame]; rfl
  rw [refreshCall_runAlone, refreshCall_runAlone, hctx, hctx']
  cases hrefusal : Service.refreshRefusal ctx (o 0 .now) with
  | some e =>
      rw [runAlone_of_refusal c raw device o fresh hrefusal,
        runAlone_of_refusal c raw device o fresh (hrefusals.trans hrefusal)]
  | none =>
      rw [afterReading_of_no_refusal c raw device o hrefusal,
        afterReading_of_no_refusal c raw device o (hrefusals.trans hrefusal)]
      cases hhead : ctx.token.isChainHead with
      | false =>
          rw [refreshWrite_of_not_head c raw device o hhead,
            refreshWrite_of_not_head c raw device o (htoken ▸ hhead)]
          rfl
      | true =>
          have hhead' : ctx'.token.isChainHead = true := htoken ▸ hhead
          cases hsign : o 2 (.signAccess (accessRequest c ctx.user ctx.session.id)) with
          | error text =>
              rw [refreshWrite_of_unsigned c raw device o hhead hsign,
                refreshWrite_of_unsigned c raw device o hhead' (haccess ▸ hsign)]
              rfl
          | ok access =>
              obtain ⟨-, hlive, htime⟩ := refreshRefusal_eq_none_iff.mp hrefusal
              obtain ⟨ht, hx, -⟩ := Store.findRefreshContext_eq_some_iff.mp hctx
              obtain ⟨ht', hx', -⟩ := Store.findRefreshContext_eq_some_iff.mp hctx'
              rw [htoken] at ht' hx'
              rw [hsession] at hx'
              obtain ⟨_, hrotate, -⟩ := Store.rotate_of_head
                (r := refreshRotation c raw device o) fresh.token ht hx hlive htime hhead
              obtain ⟨_, hrotate', -⟩ := Store.rotate_of_head
                (r := refreshRotation c raw device o) fresh.token ht' hx' hlive htime hhead
              rw [refreshWrite_of_head c raw device o hhead hsign,
                refreshWrite_of_head c raw device o hhead' (haccess ▸ hsign),
                runAlone_rotate, runAlone_rotate, hrotate, hrotate', hsame]
              rfl

end

/-- A session can be refreshed as before. -/
structure Store.RefreshesAsBefore (s s' : Store) (x : Session) : Prop where
  /-- Each of its tokens is answered as before. -/
  answers : ∀ (c : ServiceSettings) raw device o fresh ctx,
    s.findRefreshContext (c.tokenHash raw) = some ctx → ctx.session = x →
      ((refreshCall c raw device o).runAlone fresh s').1 =
        ((refreshCall c raw device o).runAlone fresh s).1
  /-- If the session is not revoked, the head of its chain is what it was, and
  it is accepted as long as its user is active and nothing goes wrong. -/
  accepts : x.isRevoked = false → ∃ head,
    (s.chainOf x.id).filter RefreshToken.isChainHead = [head] ∧
      (s'.chainOf x.id).filter RefreshToken.isChainHead = [head] ∧
      ∀ (c : ServiceSettings) raw device o fresh u,
        c.tokenHash raw = head.hash → s.users.get? x.user = some u →
        u.status = .active → Smooth ⟨head, x, u⟩ o →
          ∃ g, ((refreshCall c raw device o).runAlone fresh s').1 = .ok g ∧
            g.session = x.id

namespace Store

section

variable {s s' : Store} {user : UserId} {keep : Option SessionId}
  {reason : RevocationReason} {now : Instant}

theorem get?_touchUser
    {id : UserId} {u : User} (hu : s.users.get? id = some u) (user : UserId)
    (now : Instant) :
    ∃ time, (s.touchUser user now).users.get? id =
      some { u with updatedAt := time } := by
  have hget : (s.touchUser user now).users.get? id =
      (s.users.get? id).map fun u =>
        if u.id = user then { u with updatedAt := now } else u :=
    Table.get?_map s.users _ (by intro u; split <;> rfl) id
  rw [hget, hu, Option.map_some]
  split
  · exact ⟨now, rfl⟩
  · exact ⟨u.updatedAt, rfl⟩

/-- A token of a session that does not fall leads to what it has led to. -/
theorem findRefreshContext_of_not_falls
    {hash : String} {ctx : RefreshContext}
    (hctx : s.findRefreshContext hash = some ctx)
    (hstands : ¬ctx.session.Falls user keep)
    (husers : s'.users = (s.touchUser user now).users)
    (hsessions : s'.sessions = (s.revokeAll user keep reason now).2.sessions)
    (htokens : s'.tokens = (s.revokeAll user keep reason now).2.tokens) :
    ∃ time, s'.findRefreshContext hash =
      some { ctx with user := { ctx.user with updatedAt := time } } := by
  obtain ⟨ht, hx, hu⟩ := findRefreshContext_eq_some_iff.mp hctx
  obtain ⟨hxmem, hxid⟩ := Table.get?_eq_some_iff.mp hx
  obtain ⟨time, htouched⟩ := get?_touchUser hu user now
  refine ⟨time, findRefreshContext_eq_some_iff.mpr ⟨?_, ?_, husers ▸ htouched⟩⟩
  · change s'.tokens.rows.find? _ = _
    rw [htokens, rows_tokens_revokeAll,
      find?_hash_map (by intro t; split <;> rfl)]
    refine (congrArg _ ht).trans (congrArg some (if_neg ?_))
    rintro ⟨-, y, hy, hyt, hfalls⟩
    obtain rfl := Table.eq_of_key_eq hy hxmem (hyt.trans hxid.symm)
    exact hstands hfalls
  · refine Table.get?_eq_some_iff.mpr ⟨?_, hxid⟩
    rw [hsessions, rows_sessions_revokeAll]
    exact List.mem_map.mpr ⟨_, hxmem, if_neg hstands⟩

theorem refreshesAsBefore_of_not_falls
    (hinvariant : s.RotationInvariant) (hdistinct : s.HashesDistinct)
    {x : Session} (hx : x ∈ s.sessions.rows) (hstands : ¬x.Falls user keep)
    (husers : s'.users = (s.touchUser user now).users)
    (hsessions : s'.sessions = (s.revokeAll user keep reason now).2.sessions)
    (htokens : s'.tokens = (s.revokeAll user keep reason now).2.tokens) :
    s.RefreshesAsBefore s' x := by
  have hanswers (c : ServiceSettings) raw device o fresh ctx
      (hctx : s.findRefreshContext (c.tokenHash raw) = some ctx)
      (hsession : ctx.session = x) :
      ((refreshCall c raw device o).runAlone fresh s').1 =
        ((refreshCall c raw device o).runAlone fresh s).1 := by
    obtain ⟨time, hctx'⟩ := findRefreshContext_of_not_falls hctx
      (hsession ▸ hstands) husers hsessions htokens
    exact refreshCall_answer_eq c raw device o fresh hctx hctx' rfl
  refine ⟨hanswers, fun hlive => ?_⟩
  obtain ⟨head, -, hheads⟩ := hinvariant.live x hx hlive
  refine ⟨head, hheads, ?_, ?_⟩
  · rw [chainOf_of_not_falls hx hstands htokens, hheads]
  · intro c raw device o fresh u hhash hu hactive hsmooth
    obtain ⟨hmem, hhead⟩ := List.mem_filter.mp
      (hheads ▸ List.mem_singleton_self head)
    obtain ⟨htoken, hsession⟩ := mem_chainOf.mp hmem
    have hctx : s.findRefreshContext (c.tokenHash raw) = some ⟨head, x, u⟩ := by
      refine findRefreshContext_eq_some_iff.mpr ⟨?_, ?_, hu⟩
      · rw [hhash]
        exact hdistinct.tokenByHash?_eq_some htoken
      · exact Table.get?_eq_some_iff.mpr ⟨hx, hsession.symm⟩
    obtain ⟨access, hsign⟩ := hsmooth.signs 2 (accessRequest c u x.id)
    refine ⟨_, (hanswers c raw device o fresh _ hctx rfl).trans
      (refreshCall_accepts c raw device o fresh hctx hactive hlive
        (hsmooth.inTime 0) hhead hsign), rfl⟩

end

/-! ## The three operations -/

section

variable {s : Store} {user : UserId} {now : Instant} {n : ℕ}

theorem loggedOut_of_reset
    {hash newHash : String}
    (h : (s.resetPassword hash newHash now).1 = .reset user n) :
    s.LoggedOut user none .passwordReset now n
      (s.resetPassword hash newHash now).2 := by
  revert h
  unfold resetPassword
  split
  · exact fun h => by cases h
  split
  · exact fun h => by cases h
  split
  · exact fun h => by cases h
  split
  · exact fun h => by cases h
  split
  · exact fun h => by cases h
  · intro h
    cases h
    exact loggedOut_of_revokeAll (fst_revokeAll_congr rfl)
      (sessions_revokeAll_congr rfl) (tokens_revokeAll_congr rfl rfl)

/-- What a change of password that succeeds does to users, sessions and
tokens. -/
theorem changePassword_of_changed
    {expected new : String} {keep : Option SessionId}
    (h : (s.changePassword user expected new keep now).1 = .changed n) :
    let s' := (s.changePassword user expected new keep now).2
    s'.users = (s.touchUser user now).users ∧
      s'.sessions = (s.revokeAll user keep .passwordChanged now).2.sessions ∧
      s'.tokens = (s.revokeAll user keep .passwordChanged now).2.tokens ∧
      n = (s.revokeAll user keep .passwordChanged now).1 := by
  revert h
  unfold changePassword
  split
  · exact fun h => by cases h
  split
  · exact fun h => by cases h
  dsimp only
  split
  · exact fun h => by cases h
  · intro h
    cases h
    exact ⟨users_revokeAll .., sessions_revokeAll_congr rfl,
      tokens_revokeAll_congr rfl rfl, fst_revokeAll_congr rfl⟩

theorem loggedOut_of_suspended
    {actor : Actor} {why : Option String} {fresh : FreshIds} {after : User}
    (h : (s.changeStatus actor user .suspended why now fresh).1 =
      .changed after) :
    ∃ before revoked, s.users.get? user = some before ∧
      s.LoggedOut user none .userSuspended now revoked
        (s.changeStatus actor user .suspended why now fresh).2 ∧
      (s.changeStatus actor user .suspended why now fresh).2.audit = s.audit ++
        [AuditEvent.create fresh.event .statusChanged actor user
          (AuditEvent.statusChange before.status .suspended why revoked) now] := by
  revert h
  unfold changeStatus
  split
  · exact fun h => by cases h
  next before hbefore =>
    split
    · exact fun h => by cases h
    split
    · exact fun h => by cases h
    split
    · exact fun h => by cases h
    · intro _
      refine ⟨before, _, hbefore, loggedOut_of_revokeAll rfl
        (sessions_revokeAll_congr rfl) (tokens_revokeAll_congr rfl rfl), ?_⟩
      simp only [if_true, revokeAll_eq]
      rfl

end

end Store

/-- In every store that operations reach: a reset of a password, a change of a
password and a suspension end just those sessions of the user that they are
meant to end, report how many that were, and a session that is kept can be
refreshed as before. -/
theorem bulk_revocation_exact
    (ops : List Operation) (hopen : ∀ op ∈ ops, op.request.OpensProperly)
    (hnames : (drawnNames ops).Nodup) (user : UserId) (now : Instant) :
    let s := Store.empty.run ops
    (∀ hash newHash n, (s.resetPassword hash newHash now).1 = .reset user n →
      s.LoggedOut user none .passwordReset now n
        (s.resetPassword hash newHash now).2) ∧
    (∀ expected new keep n,
      (s.changePassword user expected new keep now).1 = .changed n →
      s.LoggedOut user keep .passwordChanged now n
          (s.changePassword user expected new keep now).2 ∧
        ∀ x ∈ s.sessions.rows, keep = some x.id →
          s.RefreshesAsBefore (s.changePassword user expected new keep now).2 x) ∧
    ∀ actor why fresh after,
      (s.changeStatus actor user .suspended why now fresh).1 = .changed after →
      ∃ before n, s.users.get? user = some before ∧
        s.LoggedOut user none .userSuspended now n
          (s.changeStatus actor user .suspended why now fresh).2 ∧
        (s.changeStatus actor user .suspended why now fresh).2.audit = s.audit ++
          [AuditEvent.create fresh.event .statusChanged actor user
            (AuditEvent.statusChange before.status .suspended why n) now] := by
  intro s
  refine ⟨fun _ _ _ h => Store.loggedOut_of_reset h, fun expected new keep n h => ?_,
    fun _ _ _ _ h => Store.loggedOut_of_suspended h⟩
  obtain ⟨husers, hsessions, htokens, hn⟩ := Store.changePassword_of_changed h
  refine ⟨Store.loggedOut_of_revokeAll hn hsessions htokens, fun x hx hkeep => ?_⟩
  refine Store.refreshesAsBefore_of_not_falls
    (Store.rotationInvariant_run_empty ops hopen hnames) ?_ hx
    (fun hfalls => hfalls.2.2 hkeep) husers hsessions htokens
  exact Store.hashesDistinct_empty.run hopen (fun n _ => Store.not_uses_empty n) hnames

/-- A user has been logged in on three devices, of which one is logged out
again, and another user on one. -/
def threeDevices : List Operation := [
  ⟨.createUser sampleUser "stored", .zero⟩,
  ⟨.storeVerificationToken (issuedToken 5 .passwordReset "reset"), .zero⟩,
  ⟨.createSession (tabletSession ⟨1⟩ ⟨0⟩ "phone") (tabletToken ⟨2⟩ ⟨1⟩ "first")
    ⟨0, 0⟩, .zero⟩,
  ⟨.createSession (tabletSession ⟨3⟩ ⟨0⟩ "tablet") (tabletToken ⟨4⟩ ⟨3⟩ "second")
    ⟨0, 0⟩, .zero⟩,
  ⟨.createSession (tabletSession ⟨5⟩ ⟨0⟩ "watch") (tabletToken ⟨6⟩ ⟨5⟩ "third")
    ⟨0, 0⟩, .zero⟩,
  ⟨.createSession (tabletSession ⟨7⟩ ⟨9⟩ "phone") (tabletToken ⟨8⟩ ⟨7⟩ "fourth")
    ⟨0, 0⟩, .zero⟩,
  ⟨.revokeSession ⟨0⟩ ⟨5⟩ .userRevoked ⟨10, 0⟩, .zero⟩]

theorem tablet_madeTogether
    (id : SessionId) (user : UserId) (device : String) (token : TokenId)
    (hash : String) :
    MadeTogether (tabletSession id user device) (tabletToken token id hash) where
  session := ⟨_, _, _, _, rfl⟩
  token := rfl

theorem threeDevices_opensProperly :
    ∀ op ∈ threeDevices, op.request.OpensProperly := by
  simp only [threeDevices, List.forall_mem_cons, List.not_mem_nil, false_imp_iff,
    implies_true, and_true]
  exact ⟨trivial, trivial, tablet_madeTogether .., tablet_madeTogether ..,
    tablet_madeTogether .., tablet_madeTogether .., trivial⟩

/-- A change of password that keeps the phone ends one session, and a reset and a
suspension end two. -/
theorem bulk_revocation_of_threeDevices :
    (∀ op ∈ threeDevices, op.request.OpensProperly) ∧
      (drawnNames threeDevices).Nodup ∧
      let s := Store.empty.run threeDevices
      ((s.changePassword ⟨0⟩ "stored" "new" (some ⟨1⟩) ⟨20, 0⟩).1 = .changed 1 ∧
        s.LoggedOut ⟨0⟩ (some ⟨1⟩) .passwordChanged ⟨20, 0⟩ 1
          (s.changePassword ⟨0⟩ "stored" "new" (some ⟨1⟩) ⟨20, 0⟩).2 ∧
        s.RefreshesAsBefore
          (s.changePassword ⟨0⟩ "stored" "new" (some ⟨1⟩) ⟨20, 0⟩).2
          (tabletSession ⟨1⟩ ⟨0⟩ "phone")) ∧
      ((s.resetPassword "reset" "new" ⟨20, 0⟩).1 = .reset ⟨0⟩ 2 ∧
        s.LoggedOut ⟨0⟩ none .passwordReset ⟨20, 0⟩ 2
          (s.resetPassword "reset" "new" ⟨20, 0⟩).2) ∧
      ∃ n, s.LoggedOut ⟨0⟩ none .userSuspended ⟨20, 0⟩ n
        (s.changeStatus {} ⟨0⟩ .suspended none ⟨20, 0⟩ .zero).2 := by
  obtain ⟨hreset, hchange, hsuspend⟩ := bulk_revocation_exact threeDevices
    threeDevices_opensProperly (by decide +kernel) ⟨0⟩ ⟨20, 0⟩
  have hchanged : ((Store.empty.run threeDevices).changePassword ⟨0⟩ "stored" "new"
      (some ⟨1⟩) ⟨20, 0⟩).1 = .changed 1 := by decide +kernel
  have hwasReset : ((Store.empty.run threeDevices).resetPassword "reset" "new"
      ⟨20, 0⟩).1 = .reset ⟨0⟩ 2 := by decide +kernel
  obtain ⟨hloggedOut, hkept⟩ := hchange _ _ _ _ hchanged
  obtain ⟨-, n, -, hsuspended, -⟩ := hsuspend {} none .zero
    { sampleUser with status := .suspended, updatedAt := ⟨20, 0⟩ } (by decide +kernel)
  exact ⟨threeDevices_opensProperly, by decide +kernel,
    ⟨hchanged, hloggedOut, hkept _ (by decide +kernel) rfl⟩,
    ⟨hwasReset, hreset _ _ _ hwasReset⟩, n, hsuspended⟩

end AccountAuthority
