import AccountAuthority.Proofs.Refresh
import AccountAuthority.Proofs.RefreshRecords

/-!
# Concurrent refreshes have a single winner

Many calls refresh with the same token, which can be used once.  The first call
whose rotation is performed wins.  Any other call loses, in one of four ways: it
reads the spent token, or it reads that the session is revoked, or its rotation
meets the spent token, or it meets the revoked session.  All of them are told
that the token was reused, and the first of them costs the session.
-/

namespace AccountAuthority

open Store

/-! ## The token once it has been used -/

/-- What a token leads to once it has been used; it led to `ctx` in the store
`s₀` before. -/
structure Spent
    (s₀ : Store) (hash : String) (ctx now : RefreshContext) (s : Store) :
    Prop where
  found : s.findRefreshContext hash = some now
  token : ctx.token.Later now.token
  session : ctx.session.Later now.session
  user : now.user = ctx.user
  replaced : now.token.replacedBy.isSome = true
  revoked : now.token.revokedAt.isSome = true
  /-- If the chain was the token alone, it now has one more token, which is
  revoked with the session. -/
  chain : s₀.chainOf ctx.session.id = [ctx.token] → ∃ next,
    s.chainOf ctx.session.id = [now.token, next] ∧
      now.token.replacedBy = some next.id ∧ next.replacedBy = none ∧
      (now.session.isRevoked = true → next.revokedAt.isSome = true)

section

variable {s₀ s : Store} {ctx now : RefreshContext}

theorem exists_spent_rotate
    {r : Rotation} {newId : TokenId}
    (hctx : s₀.findRefreshContext r.tokenHash = some ctx)
    (hlive : ctx.session.isRevoked = false)
    (htime : ctx.token.isExpired r.now = false ∧
      ctx.session.isExpired r.now = false)
    (hhead : ctx.token.isChainHead = true) (hnew : ¬s₀.Uses (.token newId)) :
    ∃ x t s' now, s₀.rotate r newId = (.rotated x t, s') ∧
      Spent s₀ r.tokenHash ctx now s' ∧ now.session.isRevoked = false := by
  obtain ⟨s', hrotate, hfound, hchain⟩ :=
    findRefreshContext_rotate hctx hlive htime hhead hnew
  rw [RefreshToken.replacing_self] at hfound
  refine ⟨_, _, s', _, hrotate, ⟨hfound, ?_, ?_, rfl, rfl, rfl, ?_⟩, hlive⟩
  · have hlater := SessionStep.later_replacing hhead (fun _ => rfl) newId r.now
    rwa [RefreshToken.replacing_self] at hlater
  · exact ⟨rfl, rfl, rfl, fun _ => ⟨rfl, rfl, rfl⟩⟩
  · intro halone
    rw [halone, List.map_singleton, RefreshToken.replacing_self] at hchain
    refine ⟨_, hchain, rfl, rfl, fun hrevoked => ?_⟩
    exact absurd (hlive.symm.trans hrevoked) Bool.false_ne_true

variable {hash : String}

theorem Spent.isExpired
    (h : Spent s₀ hash ctx now s) {time : Instant}
    (htime : ctx.token.isExpired time = false ∧ ctx.session.isExpired time = false) :
    now.token.isExpired time = false ∧ now.session.isExpired time = false := by
  rw [RefreshToken.isExpired, Session.isExpired, h.token.expiresAt,
    h.session.expiresAt]
  exact htime

theorem Spent.tokenByHash? (h : Spent s₀ hash ctx now s) :
    s.tokenByHash? hash = some now.token :=
  (findRefreshContext_eq_some_iff.mp h.found).1

theorem Spent.get?_session (h : Spent s₀ hash ctx now s) :
    s.sessions.get? now.token.session = some now.session :=
  (findRefreshContext_eq_some_iff.mp h.found).2.1

theorem Spent.id_session (h : Spent s₀ hash ctx now s) :
    now.session.id = now.token.session :=
  id_session_of_findRefreshContext h.found

theorem Spent.revokeSession_eq
    (h : Spent s₀ hash ctx now s) (reason : RevocationReason) (time : Instant) :
    (s.revokeSession ctx.user.id ctx.session.id reason time).2 =
      (s.revoke now.session.id reason time).2 := by
  have huser : ctx.user.id = now.session.user := by
    rw [← h.user]
    exact id_user_of_findRefreshContext h.found
  rw [huser, ← h.session.id]
  exact revokeSession_of_owner (h.id_session ▸ h.get?_session) reason time

/-- The reuse of a spent token revokes the session and the last token of its
chain. -/
theorem Spent.revoke
    (h : Spent s₀ hash ctx now s) (hlive : now.session.isRevoked = false)
    (time : Instant) :
    ∃ now', Spent s₀ hash ctx now' (s.revoke now.session.id .tokenReuse time).2 ∧
      now'.session.isRevoked = true ∧
      now'.session.revokedReason = some .tokenReuse := by
  obtain ⟨hfound, hchain⟩ :=
    findRefreshContext_revoke h.found hlive .tokenReuse time
  have hlater : now.session.Later (now.session.revoke .tokenReuse time) := by
    refine ⟨rfl, rfl, rfl, fun hrevoked => ?_⟩
    exact absurd (hlive.symm.trans hrevoked) Bool.false_ne_true
  have hmem : now.session ∈ s.sessions.rows :=
    (Table.get?_eq_some_iff.mp h.get?_session).1
  refine ⟨_, ⟨hfound, h.token.trans (SessionStep.later_stamped ..),
    h.session.trans hlater, h.user, ?_, ?_, ?_⟩, rfl, rfl⟩
  · rw [stamped_replacedBy]
    exact h.replaced
  · rw [stamped_revokedAt_isSome s _ time now.token hmem h.id_session, h.revoked]
    rfl
  · intro halone
    obtain ⟨next, hnext, hreplaced, hlast, -⟩ := h.chain halone
    rw [← h.session.id] at hnext ⊢
    have hsession : now.session.id = next.session :=
      (mem_chainOf.mp (hnext ▸ by simp : next ∈ s.chainOf now.session.id)).2.symm
    rw [hnext] at hchain
    refine ⟨_, hchain, ?_, ?_, fun _ => ?_⟩
    · rw [stamped_replacedBy, stamped_id, hreplaced]
    · rw [stamped_replacedBy, hlast]
    · rw [stamped_revokedAt_isSome s _ time next hmem hsession]
      simp

end

/-! ## The calls -/

section

variable {n : ℕ} (c : ServiceSettings) (raw : String)
  (device : Fin n → Device) (around : Fin n → Surroundings)
  (ctx : RefreshContext)

/-- Calls that refresh with the same token. -/
def refreshes (s : Store) : Pool (Fin n) (Except ServiceError Grant) where
  calls i := refreshCall c raw (device i) (around i)
  store := s

/-- A call that has not ended: it has not begun, or has read the token before or
after it was used.  The latter needs that it has been `used`. -/
inductive Pending (used : Prop) (i : Fin n) :
    Program RepositoryPort (Except ServiceError Grant) → Prop
  | start : Pending used i (refreshCall c raw (device i) (around i))
  | rotating (access : String) : Pending used i
      (.ask (.rotate (refreshRotation c raw (device i) (around i))) fun outcome =>
        .done (rotationAnswer c ctx.user access (nextToken (around i)) outcome))
  | revoking (h : used) : Pending used i
      (.ask (.revokeSession ctx.user.id ctx.session.id .tokenReuse
          (around i 2 .now)) fun _ =>
        .done (.error .refreshTokenReused))

/-- A call that still goes on, or has been told that the token was reused. -/
def PendingOrLost (i : Fin n)
    (q : Program RepositoryPort (Except ServiceError Grant)) : Prop :=
  Pending c raw device around ctx True i q ∨
    q = .done (.error .refreshTokenReused)

/-- The surroundings of a call in which nothing goes wrong: the clock does not
reach the expiry of the token or of the session, and signing succeeds. -/
structure Smooth (o : Surroundings) : Prop where
  inTime : ∀ k, ctx.token.isExpired (o k .now) = false ∧
    ctx.session.isExpired (o k .now) = false
  signs : ∀ k r, ∃ access, o k (.signAccess r) = .ok access

/-- How far the race for a token has come: it is unused and nobody has ended; or
somebody has won and nobody has lost; or the reuse has been noticed. -/
inductive Race (s₀ : Store)
    (p : Pool (Fin n) (Except ServiceError Grant)) : Prop
  | unused
      (store : p.store = s₀)
      (calls : ∀ i, Pending c raw device around ctx False i (p.calls i))
  | used (w : Fin n) (g : Grant) (now : RefreshContext)
      (spent : Spent s₀ (c.tokenHash raw) ctx now p.store)
      (live : now.session.isRevoked = false)
      (won : p.calls w = .done (.ok g))
      (others : ∀ i, i ≠ w →
        Pending c raw device around ctx True i (p.calls i))
  | reused (w : Fin n) (g : Grant) (now : RefreshContext)
      (spent : Spent s₀ (c.tokenHash raw) ctx now p.store)
      (revoked : now.session.isRevoked = true)
      (reason : now.session.revokedReason = some .tokenReuse)
      (won : p.calls w = .done (.ok g))
      (others : ∀ i, i ≠ w → PendingOrLost c raw device around ctx i (p.calls i))

variable {c raw device around ctx} {s₀ : Store}
  {p : Pool (Fin n) (Except ServiceError Grant)}

theorem Pending.of_used
    {used : Prop} {i : Fin n}
    {q : Program RepositoryPort (Except ServiceError Grant)}
    (h : Pending c raw device around ctx used i q) :
    Pending c raw device around ctx True i q := by
  cases h with
  | start => exact .start
  | rotating access => exact .rotating access
  | revoking _ => exact .revoking trivial

theorem Pending.not_done
    {used : Prop} {i : Fin n} {a : Except ServiceError Grant}
    (h : Pending c raw device around ctx used i (.done a)) : False := by
  generalize hq : Program.done a = q at h
  cases h with
  | start =>
      rw [refreshCall_eq] at hq
      cases hq
  | rotating access => cases hq
  | revoking _ => cases hq

/-! ## What a call reads -/

/-- A call that reads the unused token is going to rotate it. -/
theorem afterReading_unused
    {i : Fin n} (hsmooth : Smooth ctx (around i))
    (hhead : ctx.token.isChainHead = true)
    (hlive : ctx.session.isRevoked = false)
    (hactive : ctx.user.status = .active) :
    Pending c raw device around ctx False i
      (afterReading c raw (device i) (around i) (some ctx)) := by
  obtain ⟨access, hsign⟩ :=
    hsmooth.signs 2 (accessRequest c ctx.user ctx.session.id)
  rw [afterReading_of_no_refusal c raw (device i) (around i)
      (refreshRefusal_eq_none_iff.mpr ⟨hactive, hlive, hsmooth.inTime 0⟩),
    refreshWrite_of_head c raw (device i) (around i) hhead hsign]
  exact .rotating access

/-- A call that reads the spent token of a live session is going to revoke the
session. -/
theorem afterReading_used
    {i : Fin n} (hsmooth : Smooth ctx (around i))
    (hactive : ctx.user.status = .active) {s : Store} {now : RefreshContext}
    (hspent : Spent s₀ (c.tokenHash raw) ctx now s)
    (hlive : now.session.isRevoked = false) :
    Pending c raw device around ctx True i
      (afterReading c raw (device i) (around i) (some now)) := by
  rw [afterReading_of_no_refusal c raw (device i) (around i)
      (refreshRefusal_eq_none_iff.mpr ⟨hspent.user ▸ hactive, hlive,
        hspent.isExpired (hsmooth.inTime 0)⟩),
    refreshWrite_of_not_head c raw (device i) (around i)
      (RefreshToken.isChainHead_of_revoked hspent.revoked),
    hspent.user, hspent.session.id]
  exact .revoking trivial

/-- A call that reads the spent token of a session that is revoked for it is
told so. -/
theorem afterReading_reused
    {o : Surroundings} {d : Device} (hactive : ctx.user.status = .active)
    {s : Store} {now : RefreshContext}
    (hspent : Spent s₀ (c.tokenHash raw) ctx now s)
    (hrevoked : now.session.isRevoked = true)
    (hreason : now.session.revokedReason = some .tokenReuse) :
    afterReading c raw d o (some now) = .done (.error .refreshTokenReused) := by
  simp [afterReading, Service.refreshRefusal, hspent.user, hactive, hrevoked,
    hreason, hspent.replaced]

/-! ## One turn of the race -/

section

variable (hfound : s₀.findRefreshContext (c.tokenHash raw) = some ctx)
  (hhead : ctx.token.isChainHead = true)
  (hlive : ctx.session.isRevoked = false)
  (hactive : ctx.user.status = .active)
  (hsmooth : ∀ i, Smooth ctx (around i))

include hfound hhead hlive hactive hsmooth in
/-- While the token is unused, a call reads it, or wins. -/
theorem Race.turn_of_unused
    {t : Turn (Fin n)} (hnew : ¬s₀.Uses (.token t.fresh.token))
    (hstore : p.store = s₀)
    (hcalls : ∀ i, Pending c raw device around ctx False i (p.calls i)) :
    Race c raw device around ctx s₀ (p.turn t) := by
  have hpending := hcalls t.call
  generalize hq : p.calls t.call = q at hpending
  cases hpending with
  | start =>
      rw [refreshCall_eq] at hq
      have hself : (p.turn t).calls t.call =
          afterReading c raw (device t.call) (around t.call)
            (p.store.findRefreshContext (c.tokenHash raw)) :=
        Pool.turn_calls_self hq
      refine .unused ((Pool.turn_store hq).trans hstore)
        (Pool.forall_calls_turn hcalls ?_)
      rw [hself, hstore, hfound]
      exact afterReading_unused (hsmooth t.call) hhead hlive hactive
  | rotating access =>
      obtain ⟨x, token, s', now, hrotate, hspent, hnow⟩ := exists_spent_rotate
        (r := refreshRotation c raw (device t.call) (around t.call))
        hfound hlive ((hsmooth t.call).inTime 0) hhead hnew
      have hself := Pool.turn_calls_self hq
      have hstore' := Pool.turn_store hq
      simp only [perform, hstore, hrotate] at hself hstore'
      exact .used t.call _ now (hstore' ▸ hspent) hnow hself
        (Pool.forall_turn (fun i _ => (hcalls i).of_used) fun h => absurd rfl h)
  | revoking h => exact h.elim

include hactive hsmooth in
/-- Once the token is used, the next call that writes makes the reuse known. -/
theorem Race.turn_of_used
    {t : Turn (Fin n)} {w : Fin n} {g : Grant} {now : RefreshContext}
    (hspent : Spent s₀ (c.tokenHash raw) ctx now p.store)
    (hnow : now.session.isRevoked = false) (hwon : p.calls w = .done (.ok g))
    (hothers : ∀ i, i ≠ w → Pending c raw device around ctx True i (p.calls i))
    (hw : w ≠ t.call) :
    Race c raw device around ctx s₀ (p.turn t) := by
  have hwon' : (p.turn t).calls w = .done (.ok g) :=
    (Pool.turn_calls_of_ne p hw).trans hwon
  have hpending := hothers t.call hw.symm
  generalize hq : p.calls t.call = q at hpending
  -- A write costs the session, and the call that makes it loses.
  have hnoticed (time : Instant)
      (hself : (p.turn t).calls t.call = .done (.error .refreshTokenReused))
      (hstore : (p.turn t).store =
        (p.store.revoke now.session.id .tokenReuse time).2) :
      Race c raw device around ctx s₀ (p.turn t) := by
    obtain ⟨now', hspent', hrevoked, hreason⟩ := hspent.revoke hnow time
    exact .reused w g now' (hstore ▸ hspent') hrevoked hreason hwon'
      (Pool.forall_turn (fun i hi => Or.inl (hothers i hi))
        fun _ => Or.inr hself)
  cases hpending with
  | start =>
      rw [refreshCall_eq] at hq
      have hself : (p.turn t).calls t.call =
          afterReading c raw (device t.call) (around t.call)
            (p.store.findRefreshContext (c.tokenHash raw)) :=
        Pool.turn_calls_self hq
      have hstore : (p.turn t).store = p.store := Pool.turn_store hq
      refine .used w g now (hstore ▸ hspent) hnow hwon'
        (Pool.forall_turn hothers fun _ => ?_)
      rw [hself, hspent.found]
      exact afterReading_used (hsmooth t.call) hactive hspent hnow
  | rotating access =>
      have hrotate := rotate_of_not_head
        (r := refreshRotation c raw (device t.call) (around t.call))
        t.fresh.token hspent.tokenByHash? hspent.get?_session hnow
        (hspent.isExpired ((hsmooth t.call).inTime 0))
        (RefreshToken.isChainHead_of_revoked hspent.revoked)
      have hself := Pool.turn_calls_self hq
      have hstore := Pool.turn_store hq
      simp only [perform, hrotate] at hself hstore
      exact hnoticed _ hself hstore
  | revoking _ =>
      exact hnoticed _ (Pool.turn_calls_self hq)
        ((Pool.turn_store hq).trans (hspent.revokeSession_eq ..))

include hactive in
/-- Once the session is revoked, nothing changes any more but that calls
lose. -/
theorem Race.turn_of_reused
    {t : Turn (Fin n)} {w : Fin n} {g : Grant} {now : RefreshContext}
    (hspent : Spent s₀ (c.tokenHash raw) ctx now p.store)
    (hrevoked : now.session.isRevoked = true)
    (hreason : now.session.revokedReason = some .tokenReuse)
    (hwon : p.calls w = .done (.ok g))
    (hothers : ∀ i, i ≠ w →
      PendingOrLost c raw device around ctx i (p.calls i))
    (hw : w ≠ t.call) :
    Race c raw device around ctx s₀ (p.turn t) := by
  have hwon' : (p.turn t).calls w = .done (.ok g) :=
    (Pool.turn_calls_of_ne p hw).trans hwon
  have hlost (hself : (p.turn t).calls t.call = .done (.error .refreshTokenReused))
      (hstore : (p.turn t).store = p.store) :
      Race c raw device around ctx s₀ (p.turn t) :=
    .reused w g now (hstore ▸ hspent) hrevoked hreason hwon'
      (Pool.forall_turn hothers fun _ => Or.inr hself)
  rcases hothers t.call hw.symm with hpending | hdone
  · generalize hq : p.calls t.call = q at hpending
    cases hpending with
    | start =>
        rw [refreshCall_eq] at hq
        have hself : (p.turn t).calls t.call =
            afterReading c raw (device t.call) (around t.call)
              (p.store.findRefreshContext (c.tokenHash raw)) :=
          Pool.turn_calls_self hq
        rw [hspent.found, afterReading_reused hactive hspent hrevoked hreason]
          at hself
        exact hlost hself (Pool.turn_store hq)
    | rotating access =>
        have hrotate := rotate_of_isRevoked
          (r := refreshRotation c raw (device t.call) (around t.call))
          t.fresh.token hspent.tokenByHash? hspent.get?_session hrevoked
        have hself := Pool.turn_calls_self hq
        have hstore := Pool.turn_store hq
        simp only [perform, hrotate, hreason] at hself hstore
        exact hlost hself hstore
    | revoking _ =>
        refine hlost (Pool.turn_calls_self hq) ((Pool.turn_store hq).trans
          ((hspent.revokeSession_eq ..).trans ?_))
        rw [revoke_of_isRevoked (hspent.id_session ▸ hspent.get?_session) hrevoked]
  · rw [Pool.turn_of_done hdone]
    exact .reused w g now hspent hrevoked hreason hwon hothers

include hfound hhead hlive hactive hsmooth in
theorem Race.turn
    (h : Race c raw device around ctx s₀ p) {t : Turn (Fin n)}
    (hnew : ¬s₀.Uses (.token t.fresh.token)) :
    Race c raw device around ctx s₀ (p.turn t) := by
  cases h with
  | unused hstore hcalls =>
      exact turn_of_unused hfound hhead hlive hactive hsmooth hnew hstore hcalls
  | used w g now hspent hnow hwon hothers =>
      by_cases hw : w = t.call
      · subst hw
        rw [Pool.turn_of_done hwon]
        exact .used t.call g now hspent hnow hwon hothers
      · exact turn_of_used hactive hsmooth hspent hnow hwon hothers hw
  | reused w g now hspent hrevoked hreason hwon hothers =>
      by_cases hw : w = t.call
      · subst hw
        rw [Pool.turn_of_done hwon]
        exact .reused t.call g now hspent hrevoked hreason hwon hothers
      · exact turn_of_reused hactive hspent hrevoked hreason hwon hothers hw

end

/-! ## The outcome -/

variable (ctx s₀ p) in
/-- One call has won and the others have lost.  If there are others, the session
is revoked for the reuse, and a chain that was the token alone now is the token
and its replacement, both revoked. -/
structure SingleWinner : Prop where
  winner : ∃ w g, p.result? w = some (.ok g) ∧
    ∀ i, i ≠ w → p.result? i = some (.error .refreshTokenReused)
  session : 2 ≤ n → ∃ x, p.store.sessions.get? ctx.session.id = some x ∧
    x.isRevoked = true ∧ x.revokedReason = some .tokenReuse
  chain : 2 ≤ n → s₀.chainOf ctx.session.id = [ctx.token] → ∃ used next,
    p.store.chainOf ctx.session.id = [used, next] ∧
      used.revokedAt.isSome = true ∧ next.revokedAt.isSome = true ∧
      used.replacedBy = some next.id ∧ next.replacedBy = none

theorem Race.singleWinner
    (h : Race c raw device around ctx s₀ p) (hn : 1 ≤ n) (hended : p.Finished) :
    SingleWinner ctx s₀ p := by
  have hover {used : Prop} {i : Fin n} :
      ¬Pending c raw device around ctx used i (p.calls i) := by
    intro hpending
    obtain ⟨a, ha⟩ := Option.isSome_iff_exists.mp (hended i)
    rw [Pool.result?_eq_some_iff.mp ha] at hpending
    exact hpending.not_done
  cases h with
  | unused _ hcalls => exact absurd (hcalls ⟨0, hn⟩) hover
  | used w g now _ _ hwon hothers =>
      -- The reuse of the token would have been noticed by any other call.
      have hall (i : Fin n) : i = w :=
        by_contra fun hi => hover (hothers i hi)
      have hone : ¬2 ≤ n := fun htwo =>
        Nat.zero_ne_one (Fin.mk.inj ((hall ⟨0, hn⟩).trans (hall ⟨1, htwo⟩).symm))
      refine ⟨⟨w, g, Pool.result?_eq_some_iff.mpr hwon, ?_⟩,
        fun htwo => absurd htwo hone, fun htwo => absurd htwo hone⟩
      exact fun i hi => absurd (hall i) hi
  | reused w g now hspent hrevoked hreason hwon hothers =>
      refine ⟨⟨w, g, Pool.result?_eq_some_iff.mpr hwon, fun i hi => ?_⟩,
        fun _ => ⟨now.session, ?_, hrevoked, hreason⟩, fun _ halone => ?_⟩
      · rcases hothers i hi with hpending | hlost
        · exact absurd hpending hover
        · exact Pool.result?_eq_some_iff.mpr hlost
      · rw [← hspent.session.id, hspent.id_session]
        exact hspent.get?_session
      · obtain ⟨next, hchain, hreplaced, hlast, hnext⟩ := hspent.chain halone
        exact ⟨now.token, next, hchain, hspent.revoked, hnext hrevoked,
          hreplaced, hlast⟩

end

/-- Let calls refresh with one token, which is the unexpired head of its chain,
of a live session of an active user.  However their requests follow on each
other, every call ends with its second request, and when all have ended one of
them has won, the others have been told of the reuse, and if there are others
the session is revoked for it. -/
theorem refresh_singleWinner
    (s : Store) (c : ServiceSettings) (raw : String) (ctx : RefreshContext)
    (hfound : s.findRefreshContext (c.tokenHash raw) = some ctx)
    (hhead : ctx.token.isChainHead = true)
    (hlive : ctx.session.isRevoked = false)
    (hactive : ctx.user.status = .active)
    (n : ℕ) (hn : 1 ≤ n) (device : Fin n → Device)
    (around : Fin n → Surroundings) (hsmooth : ∀ i, Smooth ctx (around i))
    (ts : List (Turn (Fin n)))
    (hnew : ∀ t ∈ ts, ¬s.Uses (.token t.fresh.token)) :
    (∀ i, (2 ≤ ts.countP fun t => t.call = i) →
        (((refreshes c raw device around s).run ts).result? i).isSome = true) ∧
      (((refreshes c raw device around s).run ts).Finished →
        SingleWinner ctx s ((refreshes c raw device around s).run ts)) := by
  constructor
  · intro i hturns
    exact Pool.isSome_result?_run (refreshCall_asksAtMost ..) hturns
  · have hstart : Race c raw device around ctx s
        (refreshes c raw device around s) := .unused rfl fun _ => .start
    have hend := Pool.run_induction hstart fun t ht p hp =>
      hp.turn hfound hhead hlive hactive hsmooth (hnew t ht)
    exact hend.singleWinner hn

/-- A store with a user and a session that has been opened just now. -/
def justOpened : Store :=
  Store.empty.run [
    ⟨.createUser sampleUser "", .zero⟩,
    ⟨.createSession sampleSession sampleToken ⟨0, 0⟩, .zero⟩]

/-- Two calls read the token, and then both of them try to rotate it. -/
def sampleTurns : List (Turn (Fin 2)) :=
  [⟨0, .zero⟩, ⟨1, .zero⟩, ⟨1, ⟨⟨3⟩, ⟨0⟩, ⟨0⟩⟩⟩, ⟨0, ⟨⟨4⟩, ⟨0⟩, ⟨0⟩⟩⟩]

theorem findRefreshContext_justOpened :
    justOpened.findRefreshContext (sampleSettings.tokenHash "first") =
      some ⟨sampleToken, sampleSession, sampleUser⟩ := by
  decide

theorem smooth_still :
    Smooth ⟨sampleToken, sampleSession, sampleUser⟩ (.still ⟨30, 0⟩ []) where
  inTime _ := (by decide : sampleToken.isExpired ⟨30, 0⟩ = false ∧
    sampleSession.isExpired ⟨30, 0⟩ = false)
  signs _ _ := ⟨"", rfl⟩

theorem refresh_singleWinner_of_two :
    justOpened.findRefreshContext (sampleSettings.tokenHash "first") =
        some ⟨sampleToken, sampleSession, sampleUser⟩ ∧
      sampleToken.isChainHead = true ∧ sampleSession.isRevoked = false ∧
      sampleUser.status = .active ∧
      Smooth ⟨sampleToken, sampleSession, sampleUser⟩ (.still ⟨30, 0⟩ []) ∧
      (∀ t ∈ sampleTurns, ¬justOpened.Uses (.token t.fresh.token)) ∧
      SingleWinner ⟨sampleToken, sampleSession, sampleUser⟩ justOpened
        ((refreshes sampleSettings "first" (fun _ => {})
          (fun _ => .still ⟨30, 0⟩ []) justOpened).run sampleTurns) := by
  obtain ⟨hended, houtcome⟩ := refresh_singleWinner justOpened sampleSettings
    "first" ⟨sampleToken, sampleSession, sampleUser⟩
    findRefreshContext_justOpened (by decide) (by decide) (by decide)
    2 (by decide) (fun _ => {}) (fun _ => .still ⟨30, 0⟩ [])
    (fun _ => smooth_still) sampleTurns (by decide)
  exact ⟨findRefreshContext_justOpened, by decide, by decide, by decide,
    smooth_still, by decide, houtcome fun i => hended i (by decide +revert)⟩

end AccountAuthority
