import AccountAuthority.Proofs.Refresh
import AccountAuthority.Proofs.RefreshRecords
import AccountAuthority.Proofs.UserSteps

/-!
# A refresh takes effect at once

A refresh reads the records of its token, and later it writes.  In between
others may write, and the write looks at the session and the token again, but
not at the user.  It need not: whatever makes a user inactive also revokes or
removes the sessions of the user.  So a refresh does what it would have done if
it had read right before it wrote.
-/

namespace AccountAuthority

open Store

/-! ## The user of a live session stays active -/

/-- An active user stays active, or else none of their sessions is left
unrevoked. -/
theorem UserStep.active_or_revoked
    {N : List UserId} {A : List Status} {s s' : Store}
    (hN : ∀ id ∈ N, s.users.get? id = none) (hA : .deleted ∉ A)
    (h : UserStep N A s s') {v : User} (hv : s.users.get? v.id = some v)
    (hactive : v.status = .active) :
    (∃ w, s'.users.get? v.id = some w ∧ w.status = .active) ∨
      ∀ y ∈ s'.sessions.rows, y.user = v.id → y.isRevoked = true := by
  -- Another user is changed, or this one is and stays active.
  have hchanged {u w : User} (hu : s.users.get? u.id = some u)
      (husers : s'.users = s.users.insert w) (hid : w.id = u.id)
      (hkeeps : u = v → w.status = .active) :
      ∃ w, s'.users.get? v.id = some w ∧ w.status = .active := by
    rw [husers, Table.get?_insert]
    split
    next hvw =>
      refine ⟨w, rfl, hkeeps ?_⟩
      rw [show v.id = u.id from hvw.trans hid, hu] at hv
      exact Option.some.inj hv
    · exact ⟨v, hv, hactive⟩
  cases h with
  | unchanged husers => exact Or.inl ⟨v, husers ▸ hv, hactive⟩
  | created u hname husers =>
      refine Or.inl ⟨v, ?_, hactive⟩
      rw [husers, Table.get?_insert, if_neg, hv]
      intro hvu
      have hnone := hN u.id hname
      rw [← show v.id = u.id from hvu, hv] at hnone
      cases hnone
  | edited u w hu hid _ hstatus husers =>
      exact Or.inl (hchanged hu husers hid fun huv => hstatus.trans (huv ▸ hactive))
  | roleChanged u role now hu _ husers =>
      exact Or.inl (hchanged hu husers rfl fun huv => huv ▸ hactive)
  | statusChanged u status now hu hmem _ hrevoked husers =>
      cases status with
      | active => exact Or.inl (hchanged hu husers rfl fun _ => rfl)
      | deleted => exact absurd hmem hA
      | suspended =>
          by_cases huv : u = v
          · subst huv
            exact Or.inr (hrevoked rfl)
          · exact Or.inl (hchanged hu husers rfl fun h => absurd h huv)
  | deleted u now hu _ hgone husers =>
      by_cases huv : u = v
      · subst huv
        exact Or.inr fun y hy huser => absurd huser (hgone y hy)
      · exact Or.inl (hchanged hu husers rfl fun h => absurd h huv)

/-- What has become of a session whose user was active: as long as it is not
revoked, the user is still active. -/
def BackedByActiveUser (x : Session) (s : Store) : Prop :=
  ∀ y ∈ s.sessions.rows, y.id = x.id → x.Later y ∧
    (y.isRevoked = false →
      ∃ v, s.users.get? x.user = some v ∧ v.status = .active)

theorem backedByActiveUser_run
    {s : Store} {x : Session} {u : User} {ops : List Operation}
    (hx : x ∈ s.sessions.rows) (hu : s.users.get? x.user = some u)
    (hactive : u.status = .active)
    (hopen : ∀ op ∈ ops, op.request.OpensProperly)
    (hstatus : ∀ op ∈ ops, op.request.SetsLiveStatus)
    (hsession : .session x.id ∉ drawnNames ops)
    (hnew : ∀ id ∈ drawnUsers ops, s.users.get? id = none)
    (hnodup : (drawnUsers ops).Nodup) :
    BackedByActiveUser x (s.run ops) := by
  refine run_induction ?_ fun pre op post hsplit hpre => ?_
  · intro y hy hid
    obtain rfl := Table.eq_of_key_eq hy hx hid
    exact ⟨.refl y, fun _ => ⟨u, hu, hactive⟩⟩
  · intro y hy hid
    have hop : op ∈ ops := by simp [hsplit]
    rcases op.session_origin (hopen op hop) hy with hname | ⟨w, hw, hwy⟩
    · refine absurd (List.mem_flatMap.mpr ⟨op, hop, ?_⟩) hsession
      exact hid ▸ hname
    obtain ⟨hxw, hbacked⟩ := hpre w hw (hwy.id.symm.trans hid)
    refine ⟨hxw.trans hwy, fun hlive => ?_⟩
    have hwlive : w.isRevoked = false := by
      by_contra hrevoked
      rw [hwy.isRevoked (by simpa using hrevoked)] at hlive
      cases hlive
    obtain ⟨v, hv, hvactive⟩ := hbacked hwlive
    have hvid : v.id = x.user := (Table.get?_eq_some_iff.mp hv).2
    have hstep := op.apply_userStep ((s.run pre))
    rcases hstep.active_or_revoked (get?_newUser_of_split hsplit hnew hnodup)
      (hstatus op hop) (hvid ▸ hv) hvactive with hstill | hrevoked
    · rwa [hvid] at hstill
    · rw [hrevoked y hy ((hwy.user.trans hxw.user).trans hvid.symm)] at hlive
      cases hlive

/-! ## What has become of the records of a token -/

/-- The session that a token has led to is over: no write to it has an
effect. -/
structure SessionOver (hash : String) (ctx : RefreshContext) (s : Store) :
    Prop where
  found : ∀ now, s.findRefreshContext hash = some now →
    now.session.isRevoked = true
  rotate : ∀ r id, r.tokenHash = hash → ∃ outcome,
    s.rotate r id = (outcome, s) ∧
      ∀ c user access next, (rotationAnswer c user access next outcome).isOk = false
  revoke : ∀ reason now,
    (s.revokeSession ctx.session.user ctx.session.id reason now).2 = s

theorem sessionOver_of_gone
    {s : Store} {hash : String} {ctx : RefreshContext}
    (hsession : s.sessions.get? ctx.session.id = none)
    (htoken : ∀ t, s.tokenByHash? hash = some t →
      s.sessions.get? t.session = none) : SessionOver hash ctx s where
  found now hnow := by
    rw [findRefreshContext_eq_none htoken] at hnow
    cases hnow
  rotate r id hr := by
    subst hr
    exact ⟨_, rotate_of_no_session id htoken, fun _ _ _ _ => rfl⟩
  revoke reason now := revokeSession_of_no_session hsession _ reason now

theorem sessionOver_of_revoked
    {s : Store} {hash : String} {ctx : RefreshContext} {t : RefreshToken}
    {x : Session} (ht : s.tokenByHash? hash = some t)
    (hx : s.sessions.get? t.session = some x) (hlater : ctx.session.Later x)
    (hrevoked : x.isRevoked = true) : SessionOver hash ctx s where
  found now hnow := by
    obtain ⟨ht', hx', -⟩ := findRefreshContext_eq_some_iff.mp hnow
    rw [ht] at ht'
    cases ht'
    rw [hx] at hx'
    cases hx'
    exact hrevoked
  rotate r id hr := by
    subst hr
    exact ⟨_, rotate_of_isRevoked id ht hx hrevoked, fun _ _ _ _ => rfl⟩
  revoke reason now := by
    have hxid : x.id = t.session := (Table.get?_eq_some_iff.mp hx).2
    rw [← hlater.user, ← hlater.id, revokeSession_of_owner (hxid ▸ hx),
      revoke_of_isRevoked (hxid ▸ hx) hrevoked]

/-- What a token leads to some time after it has led to `ctx`. -/
inductive LaterRecords (hash : String) (ctx : RefreshContext) (s : Store) : Prop
  | ended (h : SessionOver hash ctx s)
  | live (now : RefreshContext)
      (found : s.findRefreshContext hash = some now)
      (token : ctx.token.Later now.token)
      (session : ctx.session.Later now.session)
      (live : now.session.isRevoked = false)
      (active : now.user.status = .active)

section

variable {s : Store} {ops : List Operation} (hs : s.HashesDistinct)
  (hopen : ∀ op ∈ ops, op.request.OpensProperly)
  (hnew : ∀ n ∈ drawnNames ops, ¬s.Uses n) {t : RefreshToken}
  (ht : t ∈ s.tokens.rows)

include hs hopen hnew ht in
/-- What is found under the hash of a token after a run is this token. -/
theorem later_of_tokenByHash?_run
    {t₁ : RefreshToken} (ht₁ : (s.run ops).tokenByHash? t.hash = some t₁) :
    t.Later t₁ := by
  obtain ⟨ht₁mem, hhash⟩ := mem_of_tokenByHash? ht₁
  rcases token_origin_run hopen ht₁mem with ⟨-, hname⟩ | ⟨u, hu, hlater⟩
  · exact absurd ⟨t, ht, hhash.symm⟩ (hnew _ hname)
  · rwa [hs.eq_of_hash_eq ht hu (hhash.symm.trans hlater.hash)]

include hs hopen hnew ht in
/-- A token is found under its hash as long as its session is there. -/
theorem exists_tokenByHash?_run
    (hnodup : (drawnNames ops).Nodup) {x y : Session}
    (hx : s.sessions.get? t.session = some x)
    (hy : (s.run ops).sessions.get? t.session = some y) :
    ∃ t₁, (s.run ops).tokenByHash? t.hash = some t₁ ∧ t.Later t₁ := by
  obtain ⟨hxmem, hxid⟩ := Table.get?_eq_some_iff.mp hx
  obtain ⟨hymem, hyid⟩ := Table.get?_eq_some_iff.mp hy
  obtain ⟨t₁, ht₁, hlater⟩ := token_survives_run hopen ht
    (fun hname => hnew _ hname ⟨t, ht, rfl⟩)
    (fun hname => hnew _ hname ⟨x, hxmem, hxid⟩) hymem hyid
  refine ⟨t₁, ?_, hlater⟩
  rw [← hlater.hash]
  exact (hs.run hopen hnew hnodup).tokenByHash?_eq_some ht₁

end

theorem laterRecords_run
    {s : Store} {hash : String} {ctx : RefreshContext} {ops : List Operation}
    (hctx : s.findRefreshContext hash = some ctx)
    (hactive : ctx.user.status = .active) (hs : s.HashesDistinct)
    (hopen : ∀ op ∈ ops, op.request.OpensProperly)
    (hstatus : ∀ op ∈ ops, op.request.SetsLiveStatus)
    (hnew : ∀ n ∈ drawnNames ops, ¬s.Uses n) (hnodup : (drawnNames ops).Nodup)
    (hnewUsers : ∀ id ∈ drawnUsers ops, s.users.get? id = none)
    (hnodupUsers : (drawnUsers ops).Nodup) :
    LaterRecords hash ctx (s.run ops) := by
  obtain ⟨ht, hx, hu⟩ := findRefreshContext_eq_some_iff.mp hctx
  obtain ⟨htmem, rfl⟩ := mem_of_tokenByHash? ht
  obtain ⟨hxmem, hxid⟩ := Table.get?_eq_some_iff.mp hx
  have hsession : Name.session ctx.session.id ∉ drawnNames ops :=
    fun hname => hnew _ hname ⟨_, hxmem, rfl⟩
  cases hfound : (s.run ops).sessions.get? ctx.token.session with
  | none =>
      refine .ended (sessionOver_of_gone ?_ fun t₁ ht₁ => ?_)
      · rwa [id_session_of_findRefreshContext hctx]
      · rwa [(later_of_tokenByHash?_run hs hopen hnew htmem ht₁).session]
  | some y =>
      obtain ⟨t₁, ht₁, htlater⟩ :=
        exists_tokenByHash?_run hs hopen hnew htmem hnodup hx hfound
      obtain ⟨hymem, hyid⟩ := Table.get?_eq_some_iff.mp hfound
      obtain ⟨hylater, hbacked⟩ := backedByActiveUser_run hxmem hu hactive hopen
        hstatus hsession hnewUsers hnodupUsers y hymem (hyid.trans hxid.symm)
      have hy : (s.run ops).sessions.get? t₁.session = some y := by
        rwa [htlater.session]
      cases hrevoked : y.isRevoked with
      | true =>
          exact .ended (sessionOver_of_revoked ht₁ hy hylater hrevoked)
      | false =>
          obtain ⟨v, hv, hvactive⟩ := hbacked hrevoked
          refine .live ⟨t₁, y, v⟩ (findRefreshContext_eq_some_iff.mpr
            ⟨ht₁, hy, ?_⟩) htlater hylater hrevoked hvactive
          rw [hylater.user]
          exact hv

/-- The same for a store that operations reach from the empty one. -/
theorem laterRecords_run_of_empty
    {ops₀ ops₁ : List Operation} {hash : String} {ctx : RefreshContext}
    (hopen : ∀ op ∈ ops₀ ++ ops₁, op.request.OpensProperly)
    (hnames : (drawnNames (ops₀ ++ ops₁)).Nodup)
    (husers : (drawnUsers (ops₀ ++ ops₁)).Nodup)
    (hstatus : ∀ op ∈ ops₁, op.request.SetsLiveStatus)
    (hctx : (Store.empty.run ops₀).findRefreshContext hash = some ctx)
    (hactive : ctx.user.status = .active) :
    LaterRecords hash ctx ((Store.empty.run ops₀).run ops₁) := by
  have hnames' := drawnNames_append ops₀ ops₁ ▸ hnames
  have husers' := drawnUsers_append ops₀ ops₁ ▸ husers
  have hdistinct : (Store.empty.run ops₀).HashesDistinct :=
    hashesDistinct_empty.run (fun op hop => hopen op (by simp [hop]))
      (fun n _ => not_uses_empty n) hnames'.of_append_left
  exact laterRecords_run hctx hactive hdistinct
    (fun op hop => hopen op (by simp [hop])) hstatus
    (not_uses_of_append hopen hnames) hnames'.of_append_right
    (get?_drawnUser_of_append husers) husers'.of_append_right

/-! ## The write of a refresh -/

/-- Access tokens are signed by an issuer. -/
def Surroundings.SignedBy (o : Surroundings) (i : AccessIssuer) : Prop :=
  ∀ n r, ∃ tokenId now, o n (.signAccess r) = i.sign r tokenId now

/-- The same surroundings, except that a call reads `later` when it looks at the
clock in its third request. -/
def Surroundings.rereading (o : Surroundings) (later : Instant) : Surroundings
  | 2, .now => later
  | n, r => o n r

theorem Surroundings.rereading_self (o : Surroundings) :
    o.rereading (o 2 .now) = o := by
  funext n r
  unfold rereading
  split <;> rfl

/-- Whether an issuer signs depends on its key only. -/
theorem AccessIssuer.isOk_sign
    (i : AccessIssuer) (r : AccessRequest) (tokenId : Uuid) (now : Instant) :
    (i.sign r tokenId now).isOk = (Rsa.PrivateKey.ofDer i.privateKey).isOk := by
  rw [sign]
  cases Rsa.PrivateKey.ofDer i.privateKey <;> rfl

theorem Surroundings.SignedBy.isOk_key
    {o : Surroundings} {i : AccessIssuer} (h : o.SignedBy i) {n : ℕ}
    {r : AccessRequest} {access : String}
    (hsign : o n (.signAccess r) = .ok access) :
    (Rsa.PrivateKey.ofDer i.privateKey).isOk = true := by
  obtain ⟨tokenId, now, hr⟩ := h n r
  rw [← i.isOk_sign r tokenId now, ← hr, hsign]
  rfl

theorem Surroundings.SignedBy.exists_ok
    {o : Surroundings} {i : AccessIssuer} (h : o.SignedBy i)
    (hkey : (Rsa.PrivateKey.ofDer i.privateKey).isOk = true) (n : ℕ)
    (r : AccessRequest) : ∃ access, o n (.signAccess r) = .ok access := by
  obtain ⟨tokenId, now, hr⟩ := h n r
  have hok := i.isOk_sign r tokenId now
  rw [hkey] at hok
  rw [hr]
  cases hsign : i.sign r tokenId now with
  | error e =>
      rw [hsign] at hok
      cases hok
  | ok access => exact ⟨access, rfl⟩

/-- Two ways to run a refresh leave the same store, and succeed or fail
together. -/
def SameEffect (a b : Except ServiceError Grant × Store) : Prop :=
  a.2 = b.2 ∧ a.1.isOk = b.1.isOk

section

variable (c : ServiceSettings) (raw : String) (device : Device)
  (o : Surroundings) (fresh : FreshIds)

theorem refreshCall_afterFirst (s : Store) :
    (refreshCall c raw device o).afterFirst fresh s =
      afterReading c raw device o (s.findRefreshContext (c.tokenHash raw)) := by
  rw [refreshCall_eq]
  rfl

theorem refreshCall_runAlone (s : Store) :
    (refreshCall c raw device o).runAlone fresh s =
      (afterReading c raw device o
        (s.findRefreshContext (c.tokenHash raw))).runAlone fresh s := by
  rw [refreshCall_eq]
  rfl

/-- A refresh whose session has been revoked fails and writes nothing. -/
theorem afterReading_of_not_live
    {s : Store}
    (h : ∀ ctx, s.findRefreshContext (c.tokenHash raw) = some ctx →
      ctx.session.isRevoked = true) :
    ∃ e, afterReading c raw device o (s.findRefreshContext (c.tokenHash raw)) =
      .done (.error e) := by
  unfold afterReading
  split
  · exact ⟨_, rfl⟩
  next ctx hctx =>
    split
    · exact ⟨_, rfl⟩
    next hnone =>
      have hlive := (refreshRefusal_eq_none_iff.mp hnone).2.1
      rw [h ctx hctx] at hlive
      cases hlive

variable {c raw} {ctx : RefreshContext} {s : Store}

/-- A token that can still be used, or that costs its session, has not run out
since. -/
theorem refreshRefusal_eq_none_of_later
    {now : Instant} (h : Service.refreshRefusal ctx now = none)
    {ctx' : RefreshContext} (htoken : ctx.token.Later ctx'.token)
    (hsession : ctx.session.Later ctx'.session)
    (hlive : ctx'.session.isRevoked = false)
    (hactive : ctx'.user.status = .active) :
    Service.refreshRefusal ctx' now = none := by
  obtain ⟨-, -, ht, hx⟩ := refreshRefusal_eq_none_iff.mp h
  refine refreshRefusal_eq_none_iff.mpr ⟨hactive, hlive, ?_, ?_⟩
  · rw [RefreshToken.isExpired, htoken.expiresAt]
    exact ht
  · rw [Session.isExpired, hsession.expiresAt]
    exact hx

/-- A refresh of a session that is over fails and writes nothing. -/
theorem SessionOver.runAlone
    (h : SessionOver (c.tokenHash raw) ctx s) :
    ∃ e, (refreshCall c raw device o).runAlone fresh s = (.error e, s) := by
  obtain ⟨e, he⟩ := afterReading_of_not_live c raw device o h.found
  exact ⟨e, by rw [refreshCall_runAlone, he]; rfl⟩

/-- A refresh that has read a used token revokes the session as if it had read
right before. -/
theorem reuse_sameEffect
    (hid : ctx.user.id = ctx.session.user)
    (hrefusal : Service.refreshRefusal ctx (o 0 .now) = none)
    (hhead : ctx.token.isChainHead = false)
    (h : LaterRecords (c.tokenHash raw) ctx s) :
    SameEffect ((refreshWrite c raw device o ctx).runAlone fresh s)
      ((refreshCall c raw device o).runAlone fresh s) := by
  rw [refreshWrite_of_not_head c raw device o hhead, hid]
  cases h with
  | ended h =>
      obtain ⟨e, he⟩ := h.runAlone device o fresh
      rw [he]
      exact ⟨h.revoke .tokenReuse (o 2 .now), rfl⟩
  | live now hfound htoken hsession hlive hactive =>
      have hhead' : now.token.isChainHead = false := by
        by_contra hnow
        rw [htoken.isChainHead (by simpa using hnow)] at hhead
        cases hhead
      rw [refreshCall_runAlone, hfound, afterReading_of_no_refusal c raw device o
          (refreshRefusal_eq_none_of_later hrefusal htoken hsession hlive hactive),
        refreshWrite_of_not_head c raw device o hhead',
        id_user_of_findRefreshContext hfound, hsession.id,
        hsession.user]
      exact ⟨rfl, rfl⟩

theorem runAlone_rotate
    (r : Rotation) (f : RotateOutcome → Except ServiceError Grant) :
    Program.runAlone (.ask (.rotate r) fun outcome => .done (f outcome)) fresh s =
      (f (s.rotate r fresh.token).1, (s.rotate r fresh.token).2) := rfl

/-- Whether a rotation counts as a success depends on its outcome only. -/
theorem isOk_rotationAnswer
    (user user' : User) (access access' next : String)
    (outcome : RotateOutcome) :
    (rotationAnswer c user access next outcome).isOk =
      (rotationAnswer c user' access' next outcome).isOk := by
  cases outcome <;> rfl

/-- A refresh that has read an unused token rotates it, or finds that it has
been used since, as if it had read right before. -/
theorem rotation_sameEffect
    {issuer : AccessIssuer} (hissuer : o.SignedBy issuer)
    (hrefusal : Service.refreshRefusal ctx (o 0 .now) = none)
    (hhead : ctx.token.isChainHead = true) {access : String}
    (hsign : o 2 (.signAccess (accessRequest c ctx.user ctx.session.id)) =
      .ok access)
    (h : LaterRecords (c.tokenHash raw) ctx s) :
    SameEffect ((refreshWrite c raw device o ctx).runAlone fresh s)
      ((refreshCall c raw device (o.rereading (o 0 .now))).runAlone fresh s) := by
  rw [refreshWrite_of_head c raw device o hhead hsign, runAlone_rotate]
  cases h with
  | ended h =>
      obtain ⟨e, he⟩ := h.runAlone device (o.rereading (o 0 .now)) fresh
      obtain ⟨outcome, hrotate, hfails⟩ :=
        h.rotate (refreshRotation c raw device o) fresh.token rfl
      rw [he, hrotate]
      exact ⟨rfl, hfails ..⟩
  | live now hfound htoken hsession hlive hactive =>
      have hrefusal' :=
        refreshRefusal_eq_none_of_later hrefusal htoken hsession hlive hactive
      obtain ⟨ht, hx, hu⟩ := findRefreshContext_eq_some_iff.mp hfound
      rw [refreshCall_runAlone, hfound,
        afterReading_of_no_refusal c raw device (o.rereading (o 0 .now)) hrefusal']
      cases hhead' : now.token.isChainHead with
      | true =>
          obtain ⟨access', hsign'⟩ := hissuer.exists_ok (hissuer.isOk_key hsign) 2
            (accessRequest c now.user now.session.id)
          rw [refreshWrite_of_head c raw device (o.rereading (o 0 .now)) hhead'
            hsign', runAlone_rotate]
          exact ⟨rfl, isOk_rotationAnswer ..⟩
      | false =>
          -- Another call has used the token in between.
          have hid := id_session_of_findRefreshContext hfound
          have huser := id_user_of_findRefreshContext hfound
          obtain ⟨-, -, htime⟩ := refreshRefusal_eq_none_iff.mp hrefusal'
          have hrotate := rotate_of_not_head
            (r := refreshRotation c raw device o) fresh.token ht hx hlive htime
            hhead'
          have hwrite := refreshWrite_of_not_head c raw device
            (o.rereading (o 0 .now)) hhead'
          rw [hrotate, hwrite, huser]
          exact ⟨(revokeSession_of_owner (hid ▸ hx) _ _).symm, rfl⟩

/-- The write of a refresh, which may come when the records have changed since
it has read them. -/
theorem refreshWrite_sameEffect
    {issuer : AccessIssuer} (hissuer : o.SignedBy issuer)
    (hid : ctx.user.id = ctx.session.user)
    (hrefusal : Service.refreshRefusal ctx (o 0 .now) = none)
    (h : LaterRecords (c.tokenHash raw) ctx s) {r : RepositoryRequest}
    {next : r.Answer → Program RepositoryPort (Except ServiceError Grant)}
    (hask : refreshWrite c raw device o ctx = .ask r next) :
    (∀ answer, ∃ result, next answer = .done result) ∧
      ∃ later, (later = o 0 .now ∨ later = o 2 .now) ∧
        SameEffect ((refreshWrite c raw device o ctx).runAlone fresh s)
          ((refreshCall c raw device (o.rereading later)).runAlone fresh s) := by
  cases hhead : ctx.token.isChainHead with
  | true =>
      cases hsign : o 2 (.signAccess (accessRequest c ctx.user ctx.session.id)) with
      | error text =>
          rw [refreshWrite, if_pos hhead, hsign] at hask
          cases hask
      | ok access =>
          have heffect := rotation_sameEffect device o fresh
            hissuer hrefusal hhead hsign h
          refine ⟨?_, o 0 .now, Or.inl rfl, heffect⟩
          rw [refreshWrite_of_head c raw device o hhead hsign] at hask
          cases hask
          exact fun answer => ⟨_, rfl⟩
  | false =>
      have heffect := reuse_sameEffect device o fresh hid hrefusal hhead h
      refine ⟨?_, o 2 .now, Or.inr rfl, by rwa [o.rereading_self]⟩
      rw [refreshWrite_of_not_head c raw device o hhead] at hask
      cases hask
      exact fun answer => ⟨_, rfl⟩

end

/-! ## Every refresh that others may interrupt -/

/-- Let a refresh read in a store that operations reach from the empty one, and
go on after any further operations.  If it writes nothing, it is as if it had
run alone where it has read.  If it writes, it is as if it had run alone where
it writes: with the same clock when that stands still, and else with its second
reading being the instant of the write. -/
theorem refresh_atomic
    (ops₀ ops₁ : List Operation)
    (hopen : ∀ op ∈ ops₀ ++ ops₁, op.request.OpensProperly)
    (hnames : (drawnNames (ops₀ ++ ops₁)).Nodup)
    (husers : (drawnUsers (ops₀ ++ ops₁)).Nodup)
    (hstatus : ∀ op ∈ ops₁, op.request.SetsLiveStatus)
    (c : ServiceSettings) (raw : String) (device : Device) (o : Surroundings)
    (issuer : AccessIssuer) (hissuer : o.SignedBy issuer) (fresh : FreshIds) :
    let s₀ := Store.empty.run ops₀
    let s₁ := s₀.run ops₁
    let rest := (refreshCall c raw device o).afterFirst fresh s₀
    (∀ result, rest = .done result →
      (refreshCall c raw device o).runAlone fresh s₀ = (result, s₀)) ∧
    (∀ r next, rest = .ask r next →
      (∀ answer, ∃ result, next answer = .done result) ∧
      (o 2 .now = o 0 .now →
        SameEffect (rest.runAlone fresh s₁)
          ((refreshCall c raw device o).runAlone fresh s₁)) ∧
      ∃ later, (later = o 0 .now ∨ later = o 2 .now) ∧
        SameEffect (rest.runAlone fresh s₁)
          ((refreshCall c raw device (o.rereading later)).runAlone fresh s₁)) := by
  intro s₀ s₁ rest
  have hrest : rest = afterReading c raw device o
      (s₀.findRefreshContext (c.tokenHash raw)) :=
    refreshCall_afterFirst c raw device o fresh s₀
  constructor
  · intro result hdone
    rw [refreshCall_runAlone, ← hrest, hdone]
    rfl
  · intro r next hask
    obtain ⟨ctx, hfound, hrefusal, hwrite⟩ :=
      exists_refreshWrite_of_ask c raw device o (hrest.symm.trans hask)
    have hactive : ctx.user.status = .active :=
      (refreshRefusal_eq_none_iff.mp hrefusal).1
    have hlater : LaterRecords (c.tokenHash raw) ctx s₁ :=
      laterRecords_run_of_empty hopen hnames husers hstatus hfound hactive
    have huser := id_user_of_findRefreshContext hfound
    obtain ⟨hends, later, hread, heffect⟩ := refreshWrite_sameEffect
      device o fresh hissuer huser hrefusal hlater hwrite
    rw [hwrite, ← hask] at heffect
    refine ⟨hends, fun hstill => ?_, later, hread, heffect⟩
    have hsame : later = o 2 .now := by
      rcases hread with rfl | rfl
      · exact hstill.symm
      · rfl
    rwa [hsame, o.rereading_self] at heffect

/-- The key with the two greatest primes of 1024 bits. -/
def sampleSigningKey : Rsa.PrivateKey :=
  .ofPrimes (Nat.pow 2 1024 - 105) (Nat.pow 2 1024 - 179) 65537

def sampleIssuer : AccessIssuer where
  privateKey := sampleSigningKey.toDer
  publicKey := sampleSigningKey.toPublic
  checkingKey := sampleSigningKey.toPublic.toDer
  keyId := "key-1"
  issuer := "https://accounts.example.test"

/-- A clock that stands still, and the issuer. -/
def sampleSurroundings : Surroundings
  | _, .signAccess r => sampleIssuer.sign r ⟨0⟩ ⟨0, 0⟩
  | n, r => Surroundings.still ⟨30, 0⟩ [] n r

/-- The first token of a session is used, ... -/
def sampleBefore : List Operation := [
  ⟨.createUser sampleUser "", .zero⟩,
  ⟨.createSession sampleSession sampleToken ⟨0, 0⟩, .zero⟩,
  ⟨.rotate ⟨"first", "second", .seconds 400, {}, ⟨10, 0⟩⟩, ⟨⟨3⟩, ⟨0⟩, ⟨0⟩⟩⟩]

/-- ... and then the second one. -/
def sampleBetween : List Operation := [
  ⟨.rotate ⟨"second", "third", .seconds 400, {}, ⟨20, 0⟩⟩, ⟨⟨4⟩, ⟨0⟩, ⟨0⟩⟩⟩]

theorem sampleBefore_opensProperly :
    ∀ op ∈ sampleBefore ++ sampleBetween, op.request.OpensProperly := by
  simp only [sampleBefore, sampleBetween, List.cons_append, List.nil_append,
    List.forall_mem_cons, List.not_mem_nil, false_imp_iff, implies_true, and_true]
  exact ⟨trivial, sample_madeTogether, trivial, trivial⟩

theorem sampleSurroundings_signedBy :
    sampleSurroundings.SignedBy sampleIssuer :=
  fun _ _ => ⟨⟨0⟩, ⟨0, 0⟩, rfl⟩

set_option maxRecDepth 100000 in
theorem sampleSigningKey_isOk :
    (Rsa.PrivateKey.ofDer sampleSigningKey.toDer).isOk = true := by
  decide +kernel

/-- What is left of a refresh that has read after the first use. -/
def sampleRest (raw : String) :
    Program RepositoryPort (Except ServiceError Grant) :=
  (refreshCall sampleSettings raw {} sampleSurroundings).afterFirst .zero
    (Store.empty.run sampleBefore)

/-- The second token has not been used when the refresh reads it. -/
theorem sampleRest_second :
    ∃ r next, sampleRest "second" = .ask (.rotate r) next := by
  obtain ⟨ctx, hfound, hhead, hrefusal⟩ :
      ∃ ctx, (Store.empty.run sampleBefore).findRefreshContext
          (sampleSettings.tokenHash "second") = some ctx ∧
        ctx.token.isChainHead = true ∧
        Service.refreshRefusal ctx (sampleSurroundings 0 .now) = none :=
    ⟨_, rfl, rfl, rfl⟩
  obtain ⟨access, hsign⟩ := sampleSurroundings_signedBy.exists_ok
    sampleSigningKey_isOk 2 (accessRequest sampleSettings ctx.user ctx.session.id)
  rw [sampleRest, refreshCall_afterFirst, hfound,
    afterReading_of_no_refusal _ _ _ _ hrefusal,
    refreshWrite_of_head _ _ _ _ hhead hsign]
  exact ⟨_, _, rfl⟩

/-- The refresh with the first token is a reuse; the one with the second token
is overtaken by another before it rotates the token. -/
theorem refresh_atomic_sample :
    (∀ op ∈ sampleBefore ++ sampleBetween, op.request.OpensProperly) ∧
      (drawnNames (sampleBefore ++ sampleBetween)).Nodup ∧
      (drawnUsers (sampleBefore ++ sampleBetween)).Nodup ∧
      (∀ op ∈ sampleBetween, op.request.SetsLiveStatus) ∧
      sampleSurroundings.SignedBy sampleIssuer ∧
      (∃ user session reason now next, sampleRest "first" =
        .ask (.revokeSession user session reason now) next) ∧
      (∃ r next, sampleRest "second" = .ask (.rotate r) next) ∧
      ∀ raw ∈ ["first", "second"], SameEffect
        ((sampleRest raw).runAlone .zero
          ((Store.empty.run sampleBefore).run sampleBetween))
        ((refreshCall sampleSettings raw {} sampleSurroundings).runAlone
          .zero ((Store.empty.run sampleBefore).run sampleBetween)) := by
  have hwrite raw := (refresh_atomic sampleBefore sampleBetween
    sampleBefore_opensProperly (by decide) (by decide) (by decide)
    sampleSettings raw {} sampleSurroundings sampleIssuer
    sampleSurroundings_signedBy .zero).2
  have hreuse : ∃ user session reason now next, sampleRest "first" =
      .ask (.revokeSession user session reason now) next :=
    ⟨_, _, _, _, _, rfl⟩
  refine ⟨sampleBefore_opensProperly, by decide, by decide, by decide,
    sampleSurroundings_signedBy, hreuse, sampleRest_second, ?_⟩
  simp only [List.forall_mem_cons, List.not_mem_nil, false_imp_iff,
    implies_true, and_true]
  constructor
  · obtain ⟨_, _, _, _, next, hask⟩ := hreuse
    exact (hwrite "first" _ next hask).2.1 rfl
  · obtain ⟨r, next, hask⟩ := sampleRest_second
    exact (hwrite "second" _ next hask).2.1 rfl

end AccountAuthority
