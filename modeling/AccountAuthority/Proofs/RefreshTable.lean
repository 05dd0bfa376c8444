import AccountAuthority.Proofs.CallHistories
import AccountAuthority.Proofs.Refusals
import AccountAuthority.Proofs.RefreshAtomicity

/-!
# What a refresh comes to

A refresh that is not interrupted is told by a table.  Its rows are read from
the first to the last: an unknown token, a deleted or suspended user, a revoked
session, a token or session that has run out, a token that is used up, a signer
that fails, and success.  A row says what the client is answered and what is
different in the store afterwards, which is nothing at all but in two of them.
-/

namespace AccountAuthority

namespace Store

/-! ## The two effects -/

/-- A session has been revoked because a token was used twice, and its
unrevoked tokens with it. -/
structure LostToReuse (s : Store) (id : SessionId) (now : Instant) (s' : Store) :
    Prop where
  sessions : s'.sessions.rows = s.sessions.rows.map fun y =>
    if y.id = id then
      { y with
        revokedAt := some now, revokedReason := some .tokenReuse, activeKey := none }
    else y
  tokens : s'.tokens.rows = s.tokens.rows.map fun t =>
    if t.session = id ∧ t.revokedAt = none then { t with revokedAt := some now }
    else t
  others : s' = { s with sessions := s'.sessions, tokens := s'.tokens }

/-- A token has been replaced by a new one, and its session was last seen when
that happened, on a device that may have told where it is. -/
structure PassedOn (s : Store) (t new : RefreshToken) (device : Device)
    (now : Instant) (s' : Store) : Prop where
  sessions : s'.sessions.rows = s.sessions.rows.map fun y =>
    if y.id = t.session then
      { y with
        lastSeenAt := now
        ipAddress := device.ipAddress.or y.ipAddress
        userAgent := device.userAgent.or y.userAgent }
    else y
  tokens : s'.tokens.rows = (s.tokens.rows.map fun u =>
    if u.id = t.id then
      { u with revokedAt := some now, replacedBy := some new.id }
    else u) ++ [new]
  others : s' = { s with sessions := s'.sessions, tokens := s'.tokens }

theorem SameAccounts.eq_with
    {s s' : Store} (h : SameAccounts s s') :
    s' = { s with sessions := s'.sessions, tokens := s'.tokens } := by
  obtain ⟨husers, hpasswords, hidentities, hverification, haudit⟩ := h
  cases s'
  simp_all

/-- The revocation of a live session for the reuse of a token. -/
theorem lostToReuse_revoke
    {s : Store} {x : Session} (hx : s.sessions.get? x.id = some x)
    (hlive : x.isRevoked = false) (now : Instant) :
    s.LostToReuse x.id now (s.revoke x.id .tokenReuse now).2 := by
  obtain ⟨hsessions, htokens, hothers⟩ := revoke_eq hx hlive .tokenReuse now
  exact ⟨hsessions, htokens, hothers⟩

/-- A rotation by the head of a chain passes the session on to the new token. -/
theorem passedOn_rotate
    {s : Store} {r : Rotation} {newId : TokenId} {t : RefreshToken} {x : Session}
    (ht : s.tokenByHash? r.tokenHash = some t)
    (hx : s.sessions.get? t.session = some x) (hlive : x.isRevoked = false)
    (htime : t.isExpired r.now = false ∧ x.isExpired r.now = false)
    (hhead : t.isChainHead = true) (hnew : ¬s.Uses (.token newId)) :
    ∃ session, (s.rotate r newId).1 = .rotated session (rotatedToken x r newId) ∧
      session.id = x.id ∧
      s.PassedOn t (rotatedToken x r newId) r.device r.now (s.rotate r newId).2 := by
  obtain ⟨s', hrotate, -, hsessions, htokens⟩ :=
    rotate_of_head newId ht hx hlive htime hhead
  have hid : x.id = t.session := (Table.get?_eq_some_iff.mp hx).2
  have haccounts := rotate_sameAccounts s r newId
  rw [hrotate] at haccounts ⊢
  refine ⟨_, rfl, rfl, ?_, ?_, haccounts.eq_with⟩
  · rw [hsessions, hid]
    rfl
  · rw [htokens]
    refine Table.rows_insert_of_get?_eq_none (Table.get?_eq_none_iff.mpr ?_)
    intro u hu hkey
    obtain ⟨v, hv, rfl⟩ := List.mem_map.mp (rows_replaceToken s .. ▸ hu)
    exact hnew ⟨v, hv, (RefreshToken.replacing_id ..).symm.trans hkey⟩

end Store

open Store

/-! ## The table -/

section

variable (c : ServiceSettings) (raw : String) (device : Device)
  (o : Surroundings) (fresh : FreshIds)

/-- What a refresh comes to, when its token leads to a session and the user of
the session; the clock is read at the start, and once more when a token turns
out to be used up. -/
def RefreshTable (s : Store) (ctx : RefreshContext)
    (result : Except ServiceError Grant × Store) : Prop :=
  let now := o 0 .now
  if ctx.user.status = .deleted then
    result = (.error .refreshTokenInvalid, s)
  else if ctx.user.status = .suspended then
    result = (.error .userSuspended, s)
  else if ctx.session.isRevoked then
    if ctx.session.revokedReason = some .tokenReuse ∧
        ctx.token.replacedBy.isSome then
      result = (.error .refreshTokenReused, s)
    else result = (.error .sessionRevoked, s)
  else if ctx.token.expiresAt ≤ now ∨ ctx.session.expiresAt ≤ now then
    result = (.error .refreshTokenExpired, s)
  else if ctx.token.isChainHead = false then
    result.1 = .error .refreshTokenReused ∧
      s.LostToReuse ctx.session.id (o 2 .now) result.2
  else
    match o 2 (.signAccess (accessRequest c ctx.user ctx.session.id)) with
    | .error text => result = (.error (.internal text), s)
    | .ok access =>
      result.1 = .ok (Service.grant c ctx.user ctx.session.id access (nextToken o)) ∧
        s.PassedOn ctx.token
          (rotatedToken ctx.session (refreshRotation c raw device o) fresh.token)
          device now result.2

theorem runAlone_of_refusal
    {s : Store} {ctx : RefreshContext} {e : ServiceError}
    (h : Service.refreshRefusal ctx (o 0 .now) = some e) :
    (afterReading c raw device o (some ctx)).runAlone fresh s = (.error e, s) := by
  rw [afterReading, h]
  rfl

theorem refreshWrite_of_unsigned
    {ctx : RefreshContext} (hhead : ctx.token.isChainHead = true) {text : String}
    (hsign : o 2 (.signAccess (accessRequest c ctx.user ctx.session.id)) =
      .error text) :
    refreshWrite c raw device o ctx = .done (.error (.internal text)) := by
  rw [refreshWrite, if_pos hhead, hsign]

/-- A refresh by the head of a chain is granted when nothing stands in its
way. -/
theorem refreshCall_accepts
    {s : Store} {ctx : RefreshContext}
    (hctx : s.findRefreshContext (c.tokenHash raw) = some ctx)
    (hactive : ctx.user.status = .active) (hlive : ctx.session.isRevoked = false)
    (htime : ctx.token.isExpired (o 0 .now) = false ∧
      ctx.session.isExpired (o 0 .now) = false)
    (hhead : ctx.token.isChainHead = true) {access : String}
    (hsign : o 2 (.signAccess (accessRequest c ctx.user ctx.session.id)) =
      .ok access) :
    ((refreshCall c raw device o).runAlone fresh s).1 =
      .ok (Service.grant c ctx.user ctx.session.id access (nextToken o)) := by
  obtain ⟨ht, hx, -⟩ := findRefreshContext_eq_some_iff.mp hctx
  obtain ⟨_, hrotate, -⟩ := rotate_of_head
    (r := refreshRotation c raw device o) fresh.token ht hx hlive htime hhead
  rw [refreshCall_runAlone, hctx, afterReading_of_no_refusal c raw device o
      (refreshRefusal_eq_none_iff.mpr ⟨hactive, hlive, htime⟩),
    refreshWrite_of_head c raw device o hhead hsign, runAlone_rotate, hrotate]
  rfl

/-- A refresh by the head of a chain, when nothing stands in its way. -/
theorem refreshWrite_runAlone_of_head
    {s : Store} {ctx : RefreshContext}
    (hctx : s.findRefreshContext (c.tokenHash raw) = some ctx)
    (hlive : ctx.session.isRevoked = false)
    (htime : ctx.token.isExpired (o 0 .now) = false ∧
      ctx.session.isExpired (o 0 .now) = false)
    (hhead : ctx.token.isChainHead = true)
    (hfresh : ¬s.Uses (.token fresh.token)) {access : String}
    (hsign : o 2 (.signAccess (accessRequest c ctx.user ctx.session.id)) =
      .ok access) :
    let result := (refreshWrite c raw device o ctx).runAlone fresh s
    result.1 = .ok (Service.grant c ctx.user ctx.session.id access (nextToken o)) ∧
      s.PassedOn ctx.token
        (rotatedToken ctx.session (refreshRotation c raw device o) fresh.token)
        device (o 0 .now) result.2 := by
  obtain ⟨ht, hx, -⟩ := findRefreshContext_eq_some_iff.mp hctx
  obtain ⟨session, houtcome, hid, hpassed⟩ := passedOn_rotate
    (r := refreshRotation c raw device o) ht hx hlive htime hhead hfresh
  rw [refreshWrite_of_head c raw device o hhead hsign, runAlone_rotate]
  exact ⟨by rw [houtcome, rotationAnswer, hid], hpassed⟩

/-- A refresh by a token that is used up, when nothing else stands in its
way. -/
theorem refreshWrite_runAlone_of_not_head
    {s : Store} {ctx : RefreshContext}
    (hctx : s.findRefreshContext (c.tokenHash raw) = some ctx)
    (hlive : ctx.session.isRevoked = false)
    (hhead : ctx.token.isChainHead = false) :
    let result := (refreshWrite c raw device o ctx).runAlone fresh s
    result.1 = .error .refreshTokenReused ∧
      s.LostToReuse ctx.session.id (o 2 .now) result.2 := by
  obtain ⟨-, hx, -⟩ := findRefreshContext_eq_some_iff.mp hctx
  have hxid : s.sessions.get? ctx.session.id = some ctx.session :=
    (id_session_of_findRefreshContext hctx) ▸ hx
  rw [refreshWrite_of_not_head c raw device o hhead,
    id_user_of_findRefreshContext hctx]
  refine ⟨rfl, ?_⟩
  change s.LostToReuse _ _ (s.revokeSession _ _ _ _).2
  rw [revokeSession_of_owner hxid]
  exact lostToReuse_revoke hxid hlive (o 2 .now)

/-- A refresh goes by the table. -/
theorem refreshTable_runAlone
    {s : Store} {ctx : RefreshContext}
    (hctx : s.findRefreshContext (c.tokenHash raw) = some ctx)
    (hfresh : ¬s.Uses (.token fresh.token)) :
    RefreshTable c raw device o fresh s ctx
      ((refreshCall c raw device o).runAlone fresh s) := by
  rw [refreshCall_runAlone, hctx]
  unfold RefreshTable
  dsimp only
  split
  next hdeleted =>
    exact runAlone_of_refusal c raw device o fresh
      (by simp [Service.refreshRefusal, hdeleted])
  split
  next hsuspended =>
    exact runAlone_of_refusal c raw device o fresh
      (by simp [Service.refreshRefusal, hsuspended])
  next hdeleted hsuspended =>
    have hactive : ctx.user.status = .active := by
      cases h : ctx.user.status with
      | active => rfl
      | suspended => exact absurd h hsuspended
      | deleted => exact absurd h hdeleted
    split
    next hrevoked =>
      split
      next hreuse =>
        exact runAlone_of_refusal c raw device o fresh
          (by simp [Service.refreshRefusal, hactive, hrevoked, hreuse])
      next hreuse =>
        exact runAlone_of_refusal c raw device o fresh
          (by simp only [Service.refreshRefusal, hactive, hrevoked, hreuse, if_true,
            if_false])
    next hlive =>
      simp only [Bool.not_eq_true] at hlive
      split
      next hexpired =>
        exact runAlone_of_refusal c raw device o fresh
          (by simp [Service.refreshRefusal, hactive, hlive, RefreshToken.isExpired,
            Session.isExpired, hexpired])
      next hexpired =>
        have htime : ctx.token.isExpired (o 0 .now) = false ∧
            ctx.session.isExpired (o 0 .now) = false := by
          simpa [RefreshToken.isExpired, Session.isExpired] using hexpired
        rw [afterReading_of_no_refusal c raw device o
          (refreshRefusal_eq_none_iff.mpr ⟨hactive, hlive, htime⟩)]
        split
        next hhead =>
          exact refreshWrite_runAlone_of_not_head c raw device o fresh hctx hlive hhead
        next hhead =>
          simp only [Bool.not_eq_false] at hhead
          split
          next text hsign =>
            rw [refreshWrite_of_unsigned c raw device o hhead hsign]
            rfl
          next access hsign =>
            exact refreshWrite_runAlone_of_head c raw device o fresh hctx hlive htime
              hhead hfresh hsign

end

/-! ## What a token leads to -/

/-- Users never vanish. -/
theorem UserStep.exists_user
    {N : List UserId} {A : List Status} {s s' : Store} (h : UserStep N A s s')
    {id : UserId} (hid : ∃ u, s.users.get? id = some u) :
    ∃ u, s'.users.get? id = some u := by
  have hinsert {v : User} (husers : s'.users = s.users.insert v) :
      ∃ u, s'.users.get? id = some u := by
    rw [husers, Table.get?_insert]
    split
    · exact ⟨v, rfl⟩
    · exact hid
  cases h with
  | unchanged husers => rwa [husers]
  | created _ _ husers | edited _ _ _ _ _ _ husers | roleChanged _ _ _ _ _ husers
  | statusChanged _ _ _ _ _ _ _ husers | deleted _ _ _ _ _ husers =>
      exact hinsert husers

/-- The sessions of a run are opened for users who are there. -/
def OpensForUsers (ops : List Operation) : Prop :=
  ∀ pre x t now fresh post,
    ops = pre ++ ⟨.createSession x t now, fresh⟩ :: post →
      ∃ u, (Store.empty.run pre).users.get? x.user = some u

/-- Then every session has its user. -/
theorem OpensForUsers.exists_user
    {ops : List Operation} (h : OpensForUsers ops)
    (hopen : ∀ op ∈ ops, op.request.OpensProperly) :
    ∀ x ∈ (Store.empty.run ops).sessions.rows,
      ∃ u, (Store.empty.run ops).users.get? x.user = some u := by
  refine run_induction
    (P := fun s => ∀ x ∈ s.sessions.rows, ∃ u, s.users.get? x.user = some u)
    (fun _ hx => absurd hx List.not_mem_nil) ?_
  intro pre op post hsplit hpre y hy
  have hstep := op.apply_userStep (Store.empty.run pre)
  rcases op.opened_or_later (hopen op (by simp [hsplit])) hy with
    ⟨t, now, hrequest⟩ | ⟨x, hx, hxy⟩
  · obtain ⟨r, fresh⟩ := op
    obtain rfl : r = .createSession y t now := hrequest
    exact hstep.exists_user (h pre y t now fresh post hsplit)
  · rw [hxy.user]
    exact hstep.exists_user (hpre x hx)

/-- However a store has been reached, and whatever the clock shows and the
signer answers: a refresh by an unknown token is refused, and one by a known
token goes by the table for the session of the token and its user.  There is
always such a user if sessions are opened for users who are there. -/
theorem refresh_by_table
    (ops : List Operation) (hopen : ∀ op ∈ ops, op.request.OpensProperly)
    (hnames : (drawnNames ops).Nodup)
    (c : ServiceSettings) (raw : String) (device : Device) (o : Surroundings)
    (fresh : FreshIds)
    (hfresh : ¬(Store.empty.run ops).Uses (.token fresh.token)) :
    let s := Store.empty.run ops
    let result := (refreshCall c raw device o).runAlone fresh s
    ((∀ t ∈ s.tokens.rows, t.hash ≠ c.tokenHash raw) →
      result = (.error .refreshTokenInvalid, s)) ∧
    ∀ t ∈ s.tokens.rows, t.hash = c.tokenHash raw →
      ∃ x ∈ s.sessions.rows, x.id = t.session ∧
        (∀ u ∈ s.users.rows, u.id = x.user →
          RefreshTable c raw device o fresh s ⟨t, x, u⟩ result) ∧
        ((∀ u ∈ s.users.rows, u.id ≠ x.user) →
          result = (.error .refreshTokenInvalid, s)) ∧
        (OpensForUsers ops → ∃ u ∈ s.users.rows, u.id = x.user) := by
  intro s result
  have hinvalid (hnone : s.findRefreshContext (c.tokenHash raw) = none) :
      result = (.error .refreshTokenInvalid, s) := by
    change (refreshCall c raw device o).runAlone fresh s = _
    rw [refreshCall_runAlone, hnone]
    rfl
  have hchained : s.Chained :=
    chained_empty.run hopen (fun n _ => not_uses_empty n) hnames
  have hdistinct : s.HashesDistinct :=
    hashesDistinct_empty.run hopen (fun n _ => not_uses_empty n) hnames
  refine ⟨fun hunknown => hinvalid ?_, fun t ht hhash => ?_⟩
  · refine findRefreshContext_eq_none fun t ht => ?_
    obtain ⟨hmem, hhash⟩ := mem_of_tokenByHash? ht
    exact absurd hhash (hunknown t hmem)
  · obtain ⟨x, hx, hxt⟩ := hchained.owned t ht
    have hfind : s.tokenByHash? (c.tokenHash raw) = some t :=
      hhash ▸ hdistinct.tokenByHash?_eq_some ht
    have hsession : s.sessions.get? t.session = some x :=
      Table.get?_eq_some_iff.mpr ⟨hx, hxt⟩
    refine ⟨x, hx, hxt, fun u hu hux => ?_, fun hnobody => hinvalid ?_, fun hknown => ?_⟩
    · have huser : s.users.get? x.user = some u :=
        Table.get?_eq_some_iff.mpr ⟨hu, hux⟩
      exact refreshTable_runAlone c raw device o fresh
        (findRefreshContext_eq_some_iff.mpr ⟨hfind, hsession, huser⟩) hfresh
    · rw [Option.eq_none_iff_forall_not_mem]
      intro ctx hctx
      obtain ⟨htoken, hsession', huser⟩ := findRefreshContext_eq_some_iff.mp hctx
      obtain rfl : t = ctx.token := Option.some.inj (hfind.symm.trans htoken)
      obtain rfl : x = ctx.session := Option.some.inj (hsession.symm.trans hsession')
      obtain ⟨hmem, hid⟩ := Table.get?_eq_some_iff.mp huser
      exact hnobody ctx.user hmem hid
    · obtain ⟨u, hu⟩ := hknown.exists_user hopen x hx
      obtain ⟨hmem, hid⟩ := Table.get?_eq_some_iff.mp hu
      exact ⟨u, hmem, hid⟩

/-- The sample session, refreshed once, and its two tokens. -/
def refreshedSample : Session :=
  sampleSession.touch {} ⟨10, 0⟩

/-- The first token, which has been replaced. -/
def spentSample : RefreshToken :=
  sampleToken.replacing sampleToken.id ⟨3⟩ ⟨10, 0⟩

theorem sampleBefore_opensForUsers : OpensForUsers sampleBefore := by
  intro pre x t now fresh post hsplit
  match pre with
  | [] => cases hsplit
  | [op] =>
      cases hsplit
      exact ⟨sampleUser, by decide⟩
  | [_, _] => cases hsplit
  | _ :: _ :: _ :: pre => simp [sampleBefore] at hsplit

/-- A token that has been replaced costs a session that is live and in time. -/
theorem refresh_by_table_reused :
    (∀ op ∈ sampleBefore, op.request.OpensProperly) ∧
      (drawnNames sampleBefore).Nodup ∧
      ¬(Store.empty.run sampleBefore).Uses (.token ⟨4⟩) ∧
      spentSample ∈ (Store.empty.run sampleBefore).tokens.rows ∧
      sampleUser ∈ (Store.empty.run sampleBefore).users.rows ∧
      OpensForUsers sampleBefore ∧
      let result := (refreshCall sampleSettings "first" {}
        (.still ⟨30, 0⟩ [])).runAlone ⟨⟨4⟩, ⟨0⟩, ⟨0⟩⟩ (Store.empty.run sampleBefore)
      result.1 = .error .refreshTokenReused ∧
        (Store.empty.run sampleBefore).LostToReuse sampleSession.id ⟨30, 0⟩
          result.2 := by
  have hopen : ∀ op ∈ sampleBefore, op.request.OpensProperly :=
    fun op hop => sampleBefore_opensProperly op (by simp [hop])
  obtain ⟨-, hknown⟩ := refresh_by_table sampleBefore hopen (by decide)
    sampleSettings "first" {} (.still ⟨30, 0⟩ []) ⟨⟨4⟩, ⟨0⟩, ⟨0⟩⟩ (by decide)
  obtain ⟨x, hx, -, htable, -, -⟩ := hknown spentSample (by decide) (by decide)
  have hrows : (Store.empty.run sampleBefore).sessions.rows = [refreshedSample] := by
    decide
  obtain rfl : x = refreshedSample := by simpa [hrows] using hx
  have hreused := htable sampleUser (by decide) (by decide)
  unfold RefreshTable at hreused
  dsimp only at hreused
  rw [if_neg (by decide), if_neg (by decide), if_neg (by decide), if_neg (by decide),
    if_pos (by decide)] at hreused
  exact ⟨hopen, by decide, by decide, by decide, by decide,
    sampleBefore_opensForUsers, hreused⟩

end AccountAuthority
