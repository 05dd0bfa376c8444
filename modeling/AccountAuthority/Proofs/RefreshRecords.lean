import AccountAuthority.Proofs.RotationChains

/-!
# The records behind a refresh token

A refresh token leads to its session and to the user of the session.  What the
repository makes of a rotation or of a revocation depends on these records
only, and what the token leads to afterwards is said here for either of them.
-/

namespace AccountAuthority.Store

variable {s : Store} {hash : String} {ctx : RefreshContext}

/-! ## Lookups -/

theorem findRefreshContext_eq_some_iff :
    s.findRefreshContext hash = some ctx ↔
      s.tokenByHash? hash = some ctx.token ∧
        s.sessions.get? ctx.token.session = some ctx.session ∧
        s.users.get? ctx.session.user = some ctx.user := by
  unfold findRefreshContext
  simp only [Option.bind_eq_bind, Option.bind_eq_some_iff, Option.some.injEq]
  constructor
  · rintro ⟨t, ht, x, hx, u, hu, rfl⟩
    exact ⟨ht, hx, hu⟩
  · rintro ⟨ht, hx, hu⟩
    exact ⟨_, ht, _, hx, _, hu, rfl⟩

theorem id_session_of_findRefreshContext
    (h : s.findRefreshContext hash = some ctx) :
    ctx.session.id = ctx.token.session := by
  obtain ⟨-, hx, -⟩ := findRefreshContext_eq_some_iff.mp h
  exact (Table.get?_eq_some_iff.mp hx).2

theorem id_user_of_findRefreshContext
    (h : s.findRefreshContext hash = some ctx) :
    ctx.user.id = ctx.session.user := by
  obtain ⟨-, -, hu⟩ := findRefreshContext_eq_some_iff.mp h
  exact (Table.get?_eq_some_iff.mp hu).2

theorem mem_of_tokenByHash?
    {t : RefreshToken} (h : s.tokenByHash? hash = some t) :
    t ∈ s.tokens.rows ∧ t.hash = hash :=
  ⟨List.mem_of_find?_eq_some h, by simpa using List.find?_some h⟩

/-- A token without a session leads nowhere. -/
theorem findRefreshContext_eq_none
    (h : ∀ t, s.tokenByHash? hash = some t → s.sessions.get? t.session = none) :
    s.findRefreshContext hash = none := by
  rw [Option.eq_none_iff_forall_not_mem]
  intro ctx hctx
  obtain ⟨ht, hx, -⟩ := findRefreshContext_eq_some_iff.mp hctx
  rw [h _ ht] at hx
  cases hx

/-- A change of the tokens one by one that leaves the hashes alone is seen in
the lookup by hash. -/
theorem find?_hash_map
    {f : RefreshToken → RefreshToken} (hf : ∀ t, (f t).hash = t.hash)
    (tokens : List RefreshToken) :
    (tokens.map f).find? (fun t => t.hash = hash) =
      (tokens.find? fun t => t.hash = hash).map f := by
  rw [List.find?_map]
  congr 2
  funext t
  simp [hf]

/-! ## Rotation -/

section

variable {r : Rotation} (newId : TokenId)

theorem rotate_of_no_session
    (h : ∀ t, s.tokenByHash? r.tokenHash = some t →
      s.sessions.get? t.session = none) :
    s.rotate r newId = (.notFound, s) := by
  unfold rotate
  split
  · rfl
  next t ht => rw [h t ht]

variable {t : RefreshToken} {x : Session}

theorem rotate_of_isRevoked
    (ht : s.tokenByHash? r.tokenHash = some t)
    (hx : s.sessions.get? t.session = some x) (hrevoked : x.isRevoked = true) :
    s.rotate r newId = (.sessionRevoked x.revokedReason, s) := by
  simp [rotate, ht, hx, hrevoked]

/-- A rotation by a token that is used up costs the session. -/
theorem rotate_of_not_head
    (ht : s.tokenByHash? r.tokenHash = some t)
    (hx : s.sessions.get? t.session = some x) (hlive : x.isRevoked = false)
    (htime : t.isExpired r.now = false ∧ x.isExpired r.now = false)
    (hhead : t.isChainHead = false) :
    s.rotate r newId =
      (.revokedOrReused x.id, (s.revoke x.id .tokenReuse r.now).2) := by
  simp [rotate, ht, hx, hlive, htime, hhead]

/-- The token that a rotation makes. -/
def rotatedToken (x : Session) (r : Rotation) (newId : TokenId) :
    RefreshToken where
  id := newId
  session := x.id
  hash := r.newTokenHash
  expiresAt := RefreshToken.expiry x.expiresAt r.ttl r.now
  createdAt := r.now

/-- A rotation by the head of a chain puts in the new token after the head. -/
theorem rotate_of_head
    (ht : s.tokenByHash? r.tokenHash = some t)
    (hx : s.sessions.get? t.session = some x) (hlive : x.isRevoked = false)
    (htime : t.isExpired r.now = false ∧ x.isExpired r.now = false)
    (hhead : t.isChainHead = true) :
    ∃ s', s.rotate r newId =
        (.rotated (x.touch r.device r.now) (rotatedToken x r newId), s') ∧
      s'.users = s.users ∧
      s'.sessions = s.sessions.update x.id (fun y => y.touch r.device r.now)
        (fun _ => rfl) ∧
      s'.tokens = (s.replaceToken t.id newId r.now).tokens.insert
        (rotatedToken x r newId) := by
  simp only [rotate, ht, hx, hlive, htime, hhead]
  exact ⟨_, rfl, rfl, rfl, rfl⟩

variable {newId} in
/-- After the rotation the old token leads to the same user and session, and is
followed by the new one. -/
theorem findRefreshContext_rotate
    (hctx : s.findRefreshContext r.tokenHash = some ctx)
    (hlive : ctx.session.isRevoked = false)
    (htime : ctx.token.isExpired r.now = false ∧
      ctx.session.isExpired r.now = false)
    (hhead : ctx.token.isChainHead = true) (hnew : ¬s.Uses (.token newId)) :
    ∃ s', s.rotate r newId =
        (.rotated (ctx.session.touch r.device r.now)
          (rotatedToken ctx.session r newId), s') ∧
      s'.findRefreshContext r.tokenHash = some
        ⟨ctx.token.replacing ctx.token.id newId r.now,
          ctx.session.touch r.device r.now, ctx.user⟩ ∧
      s'.chainOf ctx.session.id =
        (s.chainOf ctx.session.id).map
            (RefreshToken.replacing ctx.token.id newId r.now) ++
          [rotatedToken ctx.session r newId] := by
  obtain ⟨ht, hx, hu⟩ := findRefreshContext_eq_some_iff.mp hctx
  obtain ⟨s', hrotate, husers, hsessions, htokens⟩ :=
    rotate_of_head newId ht hx hlive htime hhead
  have hid := id_session_of_findRefreshContext hctx
  refine ⟨s', hrotate, findRefreshContext_eq_some_iff.mpr ⟨?_, ?_, ?_⟩, ?_⟩
  · have hrows : s'.tokens.rows =
        s.tokens.rows.map (RefreshToken.replacing ctx.token.id newId r.now) ++
          [rotatedToken ctx.session r newId] := by
      rw [htokens]
      refine Table.rows_insert_of_get?_eq_none (Table.get?_eq_none_iff.mpr ?_)
      intro u hu hkey
      obtain ⟨v, hv, rfl⟩ := List.mem_map.mp (rows_replaceToken s .. ▸ hu)
      exact hnew ⟨v, hv, (RefreshToken.replacing_id ..).symm.trans hkey⟩
    have hfind : s.tokens.rows.find? (fun t => t.hash = r.tokenHash) =
        some ctx.token := ht
    change s'.tokens.rows.find? _ = _
    rw [hrows, List.find?_append, find?_hash_map (by simp), hfind]
    rfl
  · rw [RefreshToken.replacing_session, hsessions]
    change (s.sessions.map _ _).get? _ = _
    rw [Table.get?_map, hx]
    simp
  · rw [husers]
    exact hu
  · exact (Chained.chainOf_rotated rfl hnew htokens ctx.session.id).trans
      (by rw [if_pos rfl]; rfl)

end

/-! ## Revocation -/

theorem revokeSession_of_no_session
    {id : SessionId} (h : s.sessions.get? id = none) (user : UserId)
    (reason : RevocationReason) (now : Instant) :
    (s.revokeSession user id reason now).2 = s := by
  simp [revokeSession, h]

/-- The revocation of a session on behalf of its user. -/
theorem revokeSession_of_owner
    {x : Session} (hx : s.sessions.get? x.id = some x)
    (reason : RevocationReason) (now : Instant) :
    (s.revokeSession x.user x.id reason now).2 = (s.revoke x.id reason now).2 := by
  simp only [revokeSession, hx, if_true, revokeFound]
  split
  next h => rw [h]
  next h => rw [h]

/-- After the revocation of its session a token leads to the same user and to
the revoked session. -/
theorem findRefreshContext_revoke
    (hctx : s.findRefreshContext hash = some ctx)
    (hlive : ctx.session.isRevoked = false) (reason : RevocationReason)
    (now : Instant) :
    (s.revoke ctx.session.id reason now).2.findRefreshContext hash = some
        ⟨s.stamped (fun y => y.id = ctx.session.id) now ctx.token,
          ctx.session.revoke reason now, ctx.user⟩ ∧
      (s.revoke ctx.session.id reason now).2.chainOf ctx.session.id =
        (s.chainOf ctx.session.id).map
          (s.stamped (fun y => y.id = ctx.session.id) now) := by
  obtain ⟨ht, hx, hu⟩ := findRefreshContext_eq_some_iff.mp hctx
  have hid := id_session_of_findRefreshContext hctx
  rw [revoke_of_live (hid ▸ hx) hlive]
  refine ⟨findRefreshContext_eq_some_iff.mpr ⟨?_, ?_, hu⟩, ?_⟩
  · change (s.tokens.rows.map (s.stamped _ now)).find? _ = _
    rw [find?_hash_map (by simp)]
    exact congrArg _ ht
  · rw [stamped_session, get?_session_revokeWhere, hx]
    simp
  · rw [chainOf, rows_tokens_revokeWhere, Chained.chainOf_map (by simp), ← chainOf]

end AccountAuthority.Store
